import Beskar7.Redfish.Client

/-!
# The system behind a BMC

What the Redfish calls of the controllers do to the system a BMC manages,
by the Redfish model the controllers rely on. `SetBootSourcePXE` sets a
one-time (`Once`) boot source override, which the next boot takes and
spends; it boots nothing by itself. `SetPowerState On` (reset type `On`)
powers up a system that is not On, which boots it; a system that is On
already does not restart, and a powered-on system does not reboot on its
own. `Reset` (`ForceRestart`) boots the system whatever its state. Other
power states take the system there without a boot; the controllers ask for
none.

A BMC answers the calls of a client from its state: `GetPowerState` gives
the power state, whatever string it is, and every call succeeds.
-/

namespace Beskar7

/-- Where a boot loaded its image from. -/
inductive BootSource
  | pxe
  | disk
  deriving DecidableEq, Repr

structure BMC where
  power : PowerState
  /-- a `Once` override to PXE, waiting for the next boot -/
  pxeOnce : Bool := false
  /-- the boots so far, the latest last -/
  boots : List BootSource := []
  deriving DecidableEq, Repr

/-- A boot takes the override and spends it. -/
def BMC.boot (b : BMC) : BMC :=
  { b with pxeOnce := false, boots := b.boots ++ [if b.pxeOnce then .pxe else .disk] }

def BMC.apply (b : BMC) : RedfishCall → BMC
  | .setBootSourcePXE => { b with pxeOnce := true }
  | .setPowerState s =>
    if s = OnPowerState then
      if b.power = OnPowerState then b else { b.boot with power := OnPowerState }
    else { b with power := s }
  | .reset => { b.boot with power := OnPowerState }
  | .getSystemInfo | .getPowerState | .getNetworkAddresses => b

def BMC.applyCalls (b : BMC) (calls : List RedfishCall) : BMC := calls.foldl BMC.apply b

/-- The answers of a client connected to the BMC. -/
def BMC.client (b : BMC) : Client :=
  { getSystemInfo := .ok {}, getPowerState := .ok b.power, setPowerState := fun _ => .ok (),
    setBootSourcePXE := .ok (), reset := .ok (), getNetworkAddresses := .ok [] }

@[simp] theorem BMC.applyCalls_nil (b : BMC) : b.applyCalls [] = b := rfl

@[simp] theorem BMC.applyCalls_cons (b : BMC) (c : RedfishCall) (calls : List RedfishCall) :
    b.applyCalls (c :: calls) = (b.apply c).applyCalls calls := rfl

/-- The calls that leave a powered-on system as it is, boots included: all
but `Reset` and a `SetPowerState` to another state than On. -/
def RedfishCall.keepsPoweredOn : RedfishCall → Bool
  | .setPowerState s => s = OnPowerState
  | .reset => false
  | _ => true

/-- A system that is On stays On and does not boot under a call that keeps
it so; only its override may change. -/
theorem BMC.apply_poweredOn {b : BMC} (hon : b.power = OnPowerState) {c : RedfishCall}
    (hc : c.keepsPoweredOn = true) : (b.apply c).power = OnPowerState ∧ (b.apply c).boots = b.boots := by
  cases c with
  | setPowerState s =>
    simp only [RedfishCall.keepsPoweredOn, decide_eq_true_eq] at hc
    simp [BMC.apply, hc, hon]
  | reset => simp [RedfishCall.keepsPoweredOn] at hc
  | _ => simp [BMC.apply, hon]

end Beskar7
