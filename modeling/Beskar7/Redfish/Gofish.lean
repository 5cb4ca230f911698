import Beskar7.Controllers.PhysicalHostLaws

/-!
# The gofish client

`internal/redfish/gofish_client.go`: the `Client` that `NewClient` connects
over gofish. Every method looks up the first ComputerSystem of the service
again and reads or acts on it; the service is given by its answers, the
list of systems and, for each system, its properties, its collections and
the answers of its `Reset` and `SetBoot` actions.

`GetNetworkAddresses` reads the non-empty IPv4 and IPv6 addresses of the
EthernetInterfaces, and turns to the NetworkInterfaces only when those give
none; a NetworkInterface is traversed for the log and yields no address.
So the addresses with which a PhysicalHost reconcile through this client
stores the host are the EthernetInterfaces' own, typed by their prefix
(`Reconcile_gofish_addresses`). A host whose EthernetInterfaces give no
address is stored with none when the NetworkInterfaces can be read, and
keeps the addresses it had when they cannot
(`Reconcile_gofish_without_ethernet`).

The log lines, the `context`, and the URL handling and the connection of
`NewClient` are not modelled: a connected client is built from the service
it talks to.
-/

namespace Beskar7

/-- `redfish.ResetType`, a string type of gofish. -/
abbrev ResetType := String

def OnResetType : ResetType := "On"
def ForceOffResetType : ResetType := "ForceOff"
def GracefulShutdownResetType : ResetType := "GracefulShutdown"
def GracefulRestartResetType : ResetType := "GracefulRestart"
def ForceRestartResetType : ResetType := "ForceRestart"
def NmiResetType : ResetType := "Nmi"
def ForceOnResetType : ResetType := "ForceOn"
def PushPowerButtonResetType : ResetType := "PushPowerButton"
def PowerCycleResetType : ResetType := "PowerCycle"

/-- `redfish.Boot`, with the two fields `SetBootSourcePXE` sets. -/
structure Boot where
  bootSourceOverrideTarget : String
  bootSourceOverrideEnabled : String
  deriving DecidableEq, Repr

/-- `common.IPv4Address`. -/
structure IPv4Address where
  address : String := ""
  gateway : String := ""
  deriving DecidableEq, Repr

/-- `common.IPv6Address`. -/
structure IPv6Address where
  address : String := ""
  deriving DecidableEq, Repr

structure EthernetInterface where
  name : String := ""
  macAddress : String := ""
  ipv4Addresses : List IPv4Address := []
  ipv6Addresses : List IPv6Address := []
  ipv6DefaultGateway : String := ""
  deriving DecidableEq, Repr

/-- A NetworkInterface: the client reads its ports and device functions
only for the log. -/
structure NetworkInterface where
  deriving DecidableEq, Repr

/-- A ComputerSystem as the service answers for it. -/
structure ComputerSystem where
  manufacturer : String := ""
  model : String := ""
  serialNumber : String := ""
  status : SystemStatus := {}
  powerState : PowerState := ""
  /-- the answer to `EthernetInterfaces()` -/
  ethernetInterfaces : Except String (List EthernetInterface) := .ok []
  /-- the answer to `NetworkInterfaces()` -/
  networkInterfaces : Except String (List NetworkInterface) := .ok []
  /-- the answer to the `Reset` action -/
  reset : ResetType → Except String Unit := fun _ => .ok ()
  /-- the answer to `SetBoot` -/
  setBoot : Boot → Except String Unit := fun _ => .ok ()

/-- `gofish.APIClient`, by the answer of its service root to `Systems()`. -/
structure APIClient where
  systems : Except String (List ComputerSystem)

structure GofishClient where
  /-- `nil` once closed -/
  gofishClient : Option APIClient
  apiEndpoint : String

namespace GofishClient

variable (c : GofishClient)

def Close : GofishClient := { c with gofishClient := none }

def getSystemService : Except String ComputerSystem :=
  match c.gofishClient with
  | none => .error "redfish client is not connected"
  | some apiClient =>
    match apiClient.systems with
    | .error err => .error ("failed to retrieve systems: " ++ err)
    | .ok [] => .error "no systems found"
    -- with several systems, the first is used
    | .ok (system :: _) => .ok system

def GetSystemInfo : Except String SystemInfo :=
  match c.getSystemService with
  | .error err => .error err
  | .ok system =>
    .ok { manufacturer := system.manufacturer, model := system.model,
          serialNumber := system.serialNumber, status := system.status }

def GetPowerState : Except String PowerState :=
  match c.getSystemService with
  | .error err => .error ("failed to get system for power state check: " ++ err)
  | .ok system => .ok system.powerState

/-- The reset type of `SetPowerState`'s switch: On and Off map to their
reset types, and a state that is itself one of nine reset types is taken
as that reset type. -/
def resetTypeOf (state : PowerState) : Option ResetType :=
  if state = OnPowerState then some OnResetType
  else if state = OffPowerState then some ForceOffResetType
  else if state ∈ [OnResetType, ForceOffResetType, GracefulShutdownResetType,
      GracefulRestartResetType, ForceRestartResetType, NmiResetType, ForceOnResetType,
      PushPowerButtonResetType, PowerCycleResetType] then some state
  else none

def SetPowerState (state : PowerState) : Except String Unit :=
  match c.getSystemService with
  | .error err => .error ("failed to get system for setting power state: " ++ err)
  | .ok system =>
    match resetTypeOf state with
    | none => .error ("unsupported power state or reset type for SetPowerState: " ++ state)
    | some resetType =>
      match system.reset resetType with
      | .error err => .error ("failed to set power state to " ++ state ++ ": " ++ err)
      | .ok () => .ok ()

/-- A one-time override to PXE. -/
def pxeOnceBoot : Boot := { bootSourceOverrideTarget := "Pxe", bootSourceOverrideEnabled := "Once" }

def SetBootSourcePXE : Except String Unit :=
  match c.getSystemService with
  | .error err => .error ("failed to get system to set PXE boot: " ++ err)
  | .ok system =>
    match system.setBoot pxeOnceBoot with
    | .error err => .error ("failed to set boot source override to PXE: " ++ err)
    | .ok () => .ok ()

def Reset : Except String Unit :=
  match c.getSystemService with
  | .error err => .error ("failed to get system for reset: " ++ err)
  | .ok system =>
    match system.reset ForceRestartResetType with
    | .error err => .error ("failed to reset system: " ++ err)
    | .ok () => .ok ()

/-- The non-empty IPv4 addresses, with their gateways, then the non-empty
IPv6 addresses, with the interface's default gateway. -/
def extractAddressesFromEthernetInterface (ethIntf : EthernetInterface) : List NetworkAddress :=
  ethIntf.ipv4Addresses.filterMap (fun ipv4 =>
      if ipv4.address ≠ "" then
        some { type := .ipv4, address := ipv4.address, gateway := ipv4.gateway,
               interfaceName := ethIntf.name, macAddress := ethIntf.macAddress }
      else none) ++
    ethIntf.ipv6Addresses.filterMap fun ipv6 =>
      if ipv6.address ≠ "" then
        some { type := .ipv6, address := ipv6.address, gateway := ethIntf.ipv6DefaultGateway,
               interfaceName := ethIntf.name, macAddress := ethIntf.macAddress }
      else none

/-- What the traversal of a NetworkInterface finds: only log lines. -/
def extractAddressesFromNetworkInterface (_ : NetworkInterface) : List NetworkAddress := []

/-- The addresses of the EthernetInterfaces; a failed request is only
logged. -/
def ethernetAddresses (system : ComputerSystem) : List NetworkAddress :=
  match system.ethernetInterfaces with
  | .error _ => []
  | .ok ethernetInterfaces => ethernetInterfaces.flatMap extractAddressesFromEthernetInterface

def GetNetworkAddresses : Except String (List NetworkAddress) :=
  match c.getSystemService with
  | .error err => .error ("failed to get system for network address discovery: " ++ err)
  | .ok system =>
    let addresses := ethernetAddresses system
    if addresses.length = 0 then
      match system.networkInterfaces with
      | .error err => .error ("failed to retrieve both ethernet and network interfaces: " ++ err)
      | .ok networkInterfaces =>
        .ok (addresses ++ networkInterfaces.flatMap extractAddressesFromNetworkInterface)
    else .ok addresses

/-- The answers of the client, as the controllers see them. -/
def client : Client :=
  { getSystemInfo := c.GetSystemInfo, getPowerState := c.GetPowerState,
    setPowerState := c.SetPowerState, setBootSourcePXE := c.SetBootSourcePXE, reset := c.Reset,
    getNetworkAddresses := c.GetNetworkAddresses }

-- ---------------------------------------------------------------------------
-- The addresses
-- ---------------------------------------------------------------------------

theorem mem_extractAddressesFromEthernetInterface {ethIntf : EthernetInterface} {a : NetworkAddress} :
    a ∈ extractAddressesFromEthernetInterface ethIntf ↔
      (∃ ipv4 ∈ ethIntf.ipv4Addresses, ipv4.address ≠ "" ∧
        a = { type := .ipv4, address := ipv4.address, gateway := ipv4.gateway,
              interfaceName := ethIntf.name, macAddress := ethIntf.macAddress }) ∨
      (∃ ipv6 ∈ ethIntf.ipv6Addresses, ipv6.address ≠ "" ∧
        a = { type := .ipv6, address := ipv6.address, gateway := ethIntf.ipv6DefaultGateway,
              interfaceName := ethIntf.name, macAddress := ethIntf.macAddress }) := by
  simp only [extractAddressesFromEthernetInterface, List.mem_append, List.mem_filterMap,
    Option.ite_none_right_eq_some, Option.some.injEq]
  constructor
  · rintro (⟨ipv4, hmem, hne, rfl⟩ | ⟨ipv6, hmem, hne, rfl⟩)
    · exact .inl ⟨ipv4, hmem, hne, rfl⟩
    · exact .inr ⟨ipv6, hmem, hne, rfl⟩
  · rintro (⟨ipv4, hmem, hne, rfl⟩ | ⟨ipv6, hmem, hne, rfl⟩)
    · exact .inl ⟨ipv4, hmem, hne, rfl⟩
    · exact .inr ⟨ipv6, hmem, hne, rfl⟩

/-- The fallback to the NetworkInterfaces adds no address. -/
theorem flatMap_extractAddressesFromNetworkInterface (networkInterfaces : List NetworkInterface) :
    networkInterfaces.flatMap extractAddressesFromNetworkInterface = [] := by
  simp [extractAddressesFromNetworkInterface]

variable {c} {system : ComputerSystem}

theorem mem_ethernetAddresses {a : NetworkAddress} :
    a ∈ ethernetAddresses system ↔ ∃ ethernetInterfaces, system.ethernetInterfaces = .ok ethernetInterfaces ∧
      ∃ ethIntf ∈ ethernetInterfaces, a ∈ extractAddressesFromEthernetInterface ethIntf := by
  unfold ethernetAddresses
  cases system.ethernetInterfaces with
  | error err => simp
  | ok ethernetInterfaces => simp [List.mem_flatMap]

/-- `GetNetworkAddresses` on the system it finds: the EthernetInterfaces'
addresses, or, when there are none, no address or the error of
`NetworkInterfaces()`. -/
theorem GetNetworkAddresses_of_system (hsys : c.getSystemService = .ok system) :
    c.GetNetworkAddresses =
      if ethernetAddresses system = [] then
        match system.networkInterfaces with
        | .error err => .error ("failed to retrieve both ethernet and network interfaces: " ++ err)
        | .ok _ => .ok []
      else .ok (ethernetAddresses system) := by
  unfold GetNetworkAddresses
  rw [hsys]
  dsimp only
  by_cases hnone : ethernetAddresses system = []
  · cases system.networkInterfaces with
    | error err => simp [hnone]
    | ok networkInterfaces => simp [hnone, flatMap_extractAddressesFromNetworkInterface]
  · simp [hnone]

end GofishClient

-- ---------------------------------------------------------------------------
-- What a PhysicalHost reconcile records
-- ---------------------------------------------------------------------------

open GofishClient PhysicalHostReconciler

variable {c : GofishClient} {system : ComputerSystem}

/-- Through the gofish client, `recordSystem` takes the EthernetInterfaces'
addresses of the first system when there are any: each a non-empty IPv4 or
IPv6 address of one of its interfaces, typed InternalIP or ExternalIP by its
prefix. -/
theorem recordSystem_gofish_addresses (ph : PhysicalHost) (sysInfo : SystemInfo)
    (hsys : c.getSystemService = .ok system) (hsome : ethernetAddresses system ≠ []) :
    (recordSystem ph sysInfo c.client).status.addresses = ConvertToMachineAddresses (ethernetAddresses system) ∧
    ∀ a ∈ (recordSystem ph sysInfo c.client).status.addresses,
      ∃ ethernetInterfaces, system.ethernetInterfaces = .ok ethernetInterfaces ∧
      ∃ ethIntf ∈ ethernetInterfaces, a.address ≠ "" ∧
        ((∃ ipv4 ∈ ethIntf.ipv4Addresses, a = ⟨machineAddressType
            { type := .ipv4, address := ipv4.address }, ipv4.address⟩) ∨
         (∃ ipv6 ∈ ethIntf.ipv6Addresses, a = ⟨machineAddressType
            { type := .ipv6, address := ipv6.address }, ipv6.address⟩)) := by
  have hrecorded : (recordSystem ph sysInfo c.client).status.addresses =
      ConvertToMachineAddresses (ethernetAddresses system) := by
    rw [recordSystem_addresses]
    simp [client, GetNetworkAddresses_of_system hsys, hsome]
  refine ⟨hrecorded, ?_⟩
  rw [hrecorded]
  intro a ha
  obtain ⟨netAddr, hnet, rfl⟩ := List.mem_map.mp ha
  -- an address of the list comes from one interface, as IPv4 or as IPv6
  obtain ⟨ethernetInterfaces, hether, ethIntf, hintf, hmem⟩ := mem_ethernetAddresses.mp hnet
  refine ⟨ethernetInterfaces, hether, ethIntf, hintf, ?_⟩
  rcases mem_extractAddressesFromEthernetInterface.mp hmem with
    ⟨ipv4, hipv4, hne, rfl⟩ | ⟨ipv6, hipv6, hne, rfl⟩
  · exact ⟨hne, .inl ⟨ipv4, hipv4, rfl⟩⟩
  · exact ⟨hne, .inr ⟨ipv6, hipv6, rfl⟩⟩

/-- When the EthernetInterfaces give no address, `recordSystem` clears the
addresses if the NetworkInterfaces can be read, and keeps them if they
cannot. -/
theorem recordSystem_gofish_without_ethernet (ph : PhysicalHost) (sysInfo : SystemInfo)
    (hsys : c.getSystemService = .ok system) (hnone : ethernetAddresses system = []) :
    (recordSystem ph sysInfo c.client).status.addresses =
      match system.networkInterfaces with
      | .ok _ => []
      | .error _ => ph.status.addresses := by
  rw [recordSystem_addresses]
  cases hnet : system.networkInterfaces with
  | error err => simp [client, GetNetworkAddresses_of_system hsys, hnone, hnet]
  | ok networkInterfaces => simp [client, GetNetworkAddresses_of_system hsys, hnone, hnet, ConvertToMachineAddresses]

section Reconcile

variable {r : PhysicalHostReconciler} {w : World} {env : HostReconcileEnv} {k : ObjectKey} {ph : PhysicalHost}
  {sysInfo : SystemInfo}

/-- A PhysicalHost reconcile that gets through to its status write with the
gofish client stores the host with the EthernetInterfaces' addresses of the
first system, when there are any: each a non-empty IPv4 or IPv6 address of
one of its interfaces, typed InternalIP or ExternalIP by its prefix. -/
theorem Reconcile_gofish_addresses (hget : w.hosts.get k = some ph) (hc : Connects r w env ph c.client sysInfo)
    (hsys : c.getSystemService = .ok system) (hsome : ethernetAddresses system ≠ []) :
    ∃ h' ∈ (r.Reconcile w k env).world.hosts.get k,
      h'.status.addresses = ConvertToMachineAddresses (ethernetAddresses system) ∧
      ∀ a ∈ h'.status.addresses,
        ∃ ethernetInterfaces, system.ethernetInterfaces = .ok ethernetInterfaces ∧
        ∃ ethIntf ∈ ethernetInterfaces, a.address ≠ "" ∧
          ((∃ ipv4 ∈ ethIntf.ipv4Addresses, a = ⟨machineAddressType
              { type := .ipv4, address := ipv4.address }, ipv4.address⟩) ∨
           (∃ ipv6 ∈ ethIntf.ipv6Addresses, a = ⟨machineAddressType
              { type := .ipv6, address := ipv6.address }, ipv6.address⟩)) := by
  refine ⟨_, hc.stored hget, ?_⟩
  -- the stored host has the addresses `recordSystem` gave it
  simpa using recordSystem_gofish_addresses ph sysInfo hsys hsome

/-- When the EthernetInterfaces give no address, such a reconcile stores the
host with no address if the NetworkInterfaces can be read, and with the
addresses it had if they cannot: the NetworkInterfaces yield none. -/
theorem Reconcile_gofish_without_ethernet (hget : w.hosts.get k = some ph)
    (hc : Connects r w env ph c.client sysInfo) (hsys : c.getSystemService = .ok system)
    (hnone : ethernetAddresses system = []) :
    ∃ h' ∈ (r.Reconcile w k env).world.hosts.get k,
      h'.status.addresses =
        match system.networkInterfaces with
        | .ok _ => []
        | .error _ => ph.status.addresses := by
  refine ⟨_, hc.stored hget, ?_⟩
  simpa using recordSystem_gofish_without_ethernet ph sysInfo hsys hnone

end Reconcile

/-- A host of the BMC at 10.0.0.5, enrolled with its finalizer, which
recorded 10.0.0.9 before. -/
def bmcHost : PhysicalHost :=
  { metadata := { ns := "default", name := "host-a", uid := 0, finalizers := [PhysicalHostFinalizer] },
    spec := { redfishConnection := { address := "https://10.0.0.5", credentialsSecretRef := "bmc-creds" } },
    status := { addresses := [⟨.internalIP, "10.0.0.9"⟩] } }

/-- The host and its BMC credentials. -/
def bmcWorld : World :=
  { hosts := (∅ : Store PhysicalHost).put bmcHost,
    secrets := (∅ : Store Secret).put
      { metadata := { ns := "default", name := "bmc-creds", uid := 1 },
        data := [("username", "admin"), ("password", "secret")] } }

/-- A client of a BMC whose one system answers with `system`. -/
def clientOf (system : ComputerSystem) : GofishClient :=
  { gofishClient := some { systems := .ok [system] }, apiEndpoint := "https://10.0.0.5" }

/-- The PhysicalHost controller, connecting every host through `clientOf system`. -/
def gofishReconciler (system : ComputerSystem) : PhysicalHostReconciler :=
  { recorder := some {}, redfishClientFactory := some fun _ _ _ _ => .ok (clientOf system).client }

theorem bmcHost_connects (system : ComputerSystem) (sysInfo : SystemInfo)
    (hsys : (clientOf system).client.getSystemInfo = .ok sysInfo) :
    Connects (gofishReconciler system) bmcWorld {} bmcHost (clientOf system).client sysInfo :=
  ⟨rfl, rfl, rfl, List.mem_singleton_self _, ⟨"admin", "secret", _, rfl, rfl, rfl⟩, hsys⟩

/-- One interface with a public IPv4 address and an empty IPv6 entry. -/
def oneInterfaceSystem : ComputerSystem :=
  { ethernetInterfaces := .ok [{ name := "eth0", ipv4Addresses := [{ address := "203.0.113.7" }],
                                 ipv6Addresses := [{ address := "" }] }] }

theorem one_interface_host_addresses :
    bmcWorld.hosts.get (key bmcHost) = some bmcHost ∧
    Connects (gofishReconciler oneInterfaceSystem) bmcWorld {} bmcHost (clientOf oneInterfaceSystem).client {} ∧
    (clientOf oneInterfaceSystem).getSystemService = .ok oneInterfaceSystem ∧
    ethernetAddresses oneInterfaceSystem ≠ [] ∧
    ∃ h' ∈ ((gofishReconciler oneInterfaceSystem).Reconcile bmcWorld (key bmcHost) {}).world.hosts.get (key bmcHost),
      h'.status.addresses = [⟨.externalIP, "203.0.113.7"⟩] := by
  have hget : bmcWorld.hosts.get (key bmcHost) = some bmcHost := by decide
  have hc := bmcHost_connects oneInterfaceSystem {} rfl
  have hsys : (clientOf oneInterfaceSystem).getSystemService = .ok oneInterfaceSystem := rfl
  have hsome : ethernetAddresses oneInterfaceSystem ≠ [] := by decide
  obtain ⟨h', hmem, haddresses, -⟩ := Reconcile_gofish_addresses hget hc hsys hsome
  exact ⟨hget, hc, hsys, hsome, h', hmem, haddresses.trans (by decide)⟩

/-- Neither collection can be read: the host keeps 10.0.0.9. -/
def unreadableSystem : ComputerSystem :=
  { ethernetInterfaces := .error "503", networkInterfaces := .error "503" }

theorem unreadable_interfaces_keep_addresses :
    bmcWorld.hosts.get (key bmcHost) = some bmcHost ∧
    Connects (gofishReconciler unreadableSystem) bmcWorld {} bmcHost (clientOf unreadableSystem).client {} ∧
    (clientOf unreadableSystem).getSystemService = .ok unreadableSystem ∧
    ethernetAddresses unreadableSystem = [] ∧
    ∃ h' ∈ ((gofishReconciler unreadableSystem).Reconcile bmcWorld (key bmcHost) {}).world.hosts.get (key bmcHost),
      h'.status.addresses = [⟨.internalIP, "10.0.0.9"⟩] := by
  have hget : bmcWorld.hosts.get (key bmcHost) = some bmcHost := by decide
  have hc := bmcHost_connects unreadableSystem {} rfl
  have hsys : (clientOf unreadableSystem).getSystemService = .ok unreadableSystem := rfl
  have hnone : ethernetAddresses unreadableSystem = [] := rfl
  exact ⟨hget, hc, hsys, hnone, Reconcile_gofish_without_ethernet hget hc hsys hnone⟩

end Beskar7
