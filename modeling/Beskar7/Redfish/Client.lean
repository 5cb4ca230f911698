import Beskar7.Api.Types
import Beskar7.Lib.GoNet
import Beskar7.Lib.GoString

/-!
# The Redfish client

`internal/redfish`: the `Client` interface the controllers call, the factory
that builds one, and the conversion of the addresses a BMC reports into
Cluster API machine addresses.

A client is what the BMC behind it answers, call by call. Each reconcile
gets a fresh client from the factory and calls each method at most once, so
a record of answers is all a reconcile can observe of it. Which calls a
reconcile makes is recorded separately, as `RedfishCall`s.
-/

namespace Beskar7

/-- `redfish.PowerState`, a string type of gofish. -/
abbrev PowerState := String

def OnPowerState : PowerState := "On"
def OffPowerState : PowerState := "Off"

structure SystemStatus where
  health : String := ""
  healthRollup : String := ""
  state : String := ""
  deriving DecidableEq, Repr

structure SystemInfo where
  manufacturer : String := ""
  model : String := ""
  serialNumber : String := ""
  status : SystemStatus := {}
  deriving DecidableEq, Repr

inductive NetworkAddressType
  | ipv4
  | ipv6
  /-- any other value of the string type -/
  | other (value : String)
  deriving DecidableEq, Repr

structure NetworkAddress where
  type : NetworkAddressType
  address : String
  gateway : String := ""
  interfaceName : String := ""
  macAddress : String := ""
  deriving DecidableEq, Repr

/-- The answers of one connected client. -/
structure Client where
  getSystemInfo : Except String SystemInfo
  getPowerState : Except String PowerState
  setPowerState : PowerState → Except String Unit
  setBootSourcePXE : Except String Unit
  reset : Except String Unit
  getNetworkAddresses : Except String (List NetworkAddress)

/-- `RedfishClientFactory`: address, username, password, insecure. -/
abbrev RedfishClientFactory := String → String → String → Bool → Except String Client

/-- A Redfish call a reconcile makes. -/
inductive RedfishCall
  | getSystemInfo
  | getPowerState
  | setPowerState (state : PowerState)
  | setBootSourcePXE
  | reset
  | getNetworkAddresses
  deriving DecidableEq, Repr

-- ---------------------------------------------------------------------------
-- Address classification
-- ---------------------------------------------------------------------------

/-- The networks `net.ParseCIDR` returns for the private IPv4 ranges:
`10.0.0.0/8`, `172.16.0.0/12`, `192.168.0.0/16`, `127.0.0.0/8` (loopback) and
`169.254.0.0/16` (link-local). -/
def privateIPv4CIDRs : List GoNet.IPNet :=
  [⟨[10, 0, 0, 0], GoNet.cidrMask 8 32⟩, ⟨[172, 16, 0, 0], GoNet.cidrMask 12 32⟩,
   ⟨[192, 168, 0, 0], GoNet.cidrMask 16 32⟩, ⟨[127, 0, 0, 0], GoNet.cidrMask 8 32⟩,
   ⟨[169, 254, 0, 0], GoNet.cidrMask 16 32⟩]

/-- `fc00::/7` (unique local), `fe80::/10` (link-local) and `::1/128`. -/
def privateIPv6CIDRs : List GoNet.IPNet :=
  [⟨0xfc :: List.replicate 15 0, GoNet.cidrMask 7 128⟩,
   ⟨0xfe :: 0x80 :: List.replicate 14 0, GoNet.cidrMask 10 128⟩,
   ⟨List.replicate 15 0 ++ [1], GoNet.cidrMask 128 128⟩]

/-- Whether `ip` parses and one of the networks contains it. -/
def inAnyCIDR (cidrs : List GoNet.IPNet) (ip : String) : Bool :=
  match GoNet.parseIP (GoString.bytes ip) with
  | none => false
  | some parsed => cidrs.any (·.contains parsed)

def isPrivateIPv4 (ip : String) : Bool := inAnyCIDR privateIPv4CIDRs ip

def isPrivateIPv6 (ip : String) : Bool := inAnyCIDR privateIPv6CIDRs ip

/-- The type `ConvertToMachineAddresses` gives one address. -/
def machineAddressType (netAddr : NetworkAddress) : MachineAddressType :=
  match netAddr.type with
  | .ipv4 => if isPrivateIPv4 netAddr.address then .internalIP else .externalIP
  | .ipv6 => if isPrivateIPv6 netAddr.address then .internalIP else .externalIP
  -- unknown types default to InternalIP
  | .other _ => .internalIP

def ConvertToMachineAddresses (networkAddresses : List NetworkAddress) : List MachineAddress :=
  networkAddresses.map fun netAddr => ⟨machineAddressType netAddr, netAddr.address⟩

end Beskar7
