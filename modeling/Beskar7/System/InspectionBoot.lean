import Beskar7.Redfish.BMC
import Beskar7.System.Readiness

/-!
# Does triggering an inspection boot the host?

`triggerInspection` sets the PXE override and powers the system on only
when `GetPowerState` does not answer On. On the BMC model of
`Redfish.BMC`, a system that was not On therefore boots from PXE, and one
that was On is left running, with the override waiting for a boot that
nothing starts (`triggerInspection_boot`); the host is written Inspecting
with phase Booting either way. Release never powers a host off, so a host
that served a machine before is On when the next machine claims it.
-/

namespace Beskar7

open Beskar7MachineReconciler

/-- The Redfish calls among `effects` that go to the BMC of the host at `k`. -/
def callsTo (k : ObjectKey) (effects : List Effect) : List RedfishCall :=
  effects.filterMap fun
    | .redfish k' c => if k' = k then some c else none
    | _ => none

section Trigger

variable {r : Beskar7MachineReconciler} {w : World} {env : MachineReconcileEnv}
  {m : Beskar7Machine} {h : PhysicalHost}

/-- The calls of a `triggerInspection` that succeeds: the PXE override, the
power state, and a power-on unless the answer was On. -/
theorem triggerInspection_calls {c : Client}
    (hclient : r.getRedfishClientForHost w env h = .ok c)
    (hok : (r.triggerInspection w env m h).err = none) :
    ∃ p, c.getPowerState = .ok p ∧
      callsTo (key h) (r.triggerInspection w env m h).effects =
        [.setBootSourcePXE, .getPowerState] ++
          if p ≠ OnPowerState then [.setPowerState OnPowerState] else [] := by
  unfold triggerInspection at hok ⊢
  rw [hclient] at hok ⊢
  dsimp only at hok ⊢
  -- every failing call returns its error; what is left is the successful path
  cases hpxe : c.setBootSourcePXE with
  | error e => simp [hpxe] at hok
  | ok _ =>
    cases hpower : c.getPowerState with
    | error e => simp [hpxe, hpower] at hok
    | ok p =>
      refine ⟨p, rfl, ?_⟩
      simp only [hpxe, hpower] at hok ⊢
      by_cases hon : p ≠ OnPowerState
      · cases hset : c.setPowerState OnPowerState with
        | error e => simp [hon, hset] at hok
        | ok _ =>
          cases hfail : env.hostWriteFails <;> simp_all [callsTo]
      · cases hfail : env.hostWriteFails <;> simp_all [callsTo]

/-- What a successful `triggerInspection` does to the system of the BMC that
answered it: it sets the PXE override, and boots from it a system that was
not On; a system that was On stays On and unbooted, the override waiting. -/
theorem triggerInspection_boot (b : BMC) {c : Client}
    (hclient : r.getRedfishClientForHost w env h = .ok c) (hpower : c.getPowerState = .ok b.power)
    (hok : (r.triggerInspection w env m h).err = none) :
    b.applyCalls (callsTo (key h) (r.triggerInspection w env m h).effects) =
      if b.power = OnPowerState then { b with pxeOnce := true }
      else { b with power := OnPowerState, pxeOnce := false, boots := b.boots ++ [.pxe] } := by
  obtain ⟨p, hp, hcalls⟩ := triggerInspection_calls hclient hok
  rw [hpower] at hp
  cases hp
  rw [hcalls]
  by_cases hon : b.power = OnPowerState
  · simp [hon, BMC.apply]
  · simp [hon, BMC.apply, BMC.boot]

end Trigger

-- ---------------------------------------------------------------------------
-- The controllers and the BMCs
-- ---------------------------------------------------------------------------

/-- The effect is no call that would restart a powered-on system. -/
def Effect.keepsPoweredOn : Effect → Bool
  | .redfish _ c => c.keepsPoweredOn
  | _ => true

/-- No step of the system restarts a powered-on system: the PhysicalHost
controller only queries the BMC, and the machine controller powers a system
on, never off. -/
theorem step_keepsPoweredOn (w : World) (e : Event) : ∀ x ∈ (step w e).2, x.keepsPoweredOn = true := by
  intro x hx
  cases e with
  | reconcileHost k env f =>
    cases PhysicalHostReconciler.Reconcile_hostEffects _ w env k x hx <;> rfl
  | reconcileMachine k env f =>
    rcases Reconcile_machineEffects _ w env k x hx with ⟨_, _, _, rfl⟩ | hmachine
    · rfl
    · cases hmachine <;> rfl
  | postInspection env method body =>
    obtain ⟨k, rfl⟩ := InspectionHandler.ServeHTTP_effects hx
    rfl
  | _ => simp [step] at hx

/-- The controllers' world with the systems behind the BMCs, by BMC address. -/
structure Lab where
  world : World
  bmc : String → BMC

/-- Each client a reconcile connects is answered by the BMC at its address. -/
def Lab.factory (l : Lab) : RedfishClientFactory := fun address _ _ _ => .ok (l.bmc address).client

/-- The event, with the factory of a reconcile replaced by `f`. -/
def Event.withFactory (f : RedfishClientFactory) : Event → Event
  | .reconcileHost k env _ => .reconcileHost k env f
  | .reconcileMachine k env _ => .reconcileMachine k env f
  | e => e

/-- The calls among `effects` reach the BMC at the address in the spec of the
host they name, in `w`. -/
def applyEffects (w : World) (bmc : String → BMC) : List Effect → String → BMC
  | [] => bmc
  | .redfish k c :: rest =>
    match w.hosts.get k with
    | some h =>
      let address := h.spec.redfishConnection.address
      applyEffects w (Function.update bmc address ((bmc address).apply c)) rest
    | none => applyEffects w bmc rest
  | _ :: rest => applyEffects w bmc rest

/-- One event: the step of the world, its clients answered by the BMCs, and
its calls applied to them. -/
def Lab.step (l : Lab) (e : Event) : Lab × List Effect :=
  let out := Beskar7.step l.world (e.withFactory l.factory)
  ({ world := out.1, bmc := applyEffects l.world l.bmc out.2 }, out.2)

/-- The system at `address` is On and has booted `bs`. -/
def PoweredOnAt (address : String) (bs : List BootSource) (l : Lab) : Prop :=
  (l.bmc address).power = OnPowerState ∧ (l.bmc address).boots = bs

theorem applyEffects_poweredOn {address : String} {bs : List BootSource} (w : World) :
    ∀ {bmc : String → BMC} {effects : List Effect}, (∀ x ∈ effects, x.keepsPoweredOn = true) →
      (bmc address).power = OnPowerState → (bmc address).boots = bs →
      (applyEffects w bmc effects address).power = OnPowerState ∧
        (applyEffects w bmc effects address).boots = bs
  | _, [], _, hon, hboots => ⟨hon, hboots⟩
  | bmc, x :: rest, hkeep, hon, hboots => by
    have hrest := fun y hy => hkeep y (List.mem_cons_of_mem x hy)
    have skip := applyEffects_poweredOn w hrest hon hboots
    cases x with
    | redfish k c =>
      cases hget : w.hosts.get k with
      | none => simpa only [applyEffects, hget] using skip
      | some h =>
        -- the call changes the BMC it reaches; that one keeps what it had
        have hcall := BMC.apply_poweredOn hon (hkeep _ List.mem_cons_self)
        simp only [applyEffects, hget]
        by_cases haddr : address = h.spec.redfishConnection.address
        · subst haddr
          apply applyEffects_poweredOn w hrest
          · simpa using hcall.1
          · simpa [hboots] using hcall.2
        · apply applyEffects_poweredOn w hrest
          · simpa [Function.update_of_ne haddr] using hon
          · simpa [Function.update_of_ne haddr] using hboots
    | _ => exact skip

theorem PoweredOnAt.after_step {address : String} {bs : List BootSource} {l : Lab}
    (hon : PoweredOnAt address bs l) (e : Event) : PoweredOnAt address bs (l.step e).1 :=
  applyEffects_poweredOn l.world (step_keepsPoweredOn _ _) hon.1 hon.2

/-- Once the system of a BMC is On, no run boots it again: every later
`triggerInspection` on its host finds it On and only sets the override. -/
theorem poweredOn_never_boots {address : String} {bs : List BootSource} {l : Lab}
    (hon : PoweredOnAt address bs l) (es : List Event) :
    PoweredOnAt address bs (Trace.run Lab.step l es) := by
  have keep : ∀ (l : Lab) (e : Event), True → PoweredOnAt address bs l →
      PoweredOnAt address bs (l.step e).1 := fun l e _ hl => hl.after_step e
  exact Trace.run_invariant Lab.step keep (fun _ _ => trivial) hon

-- ---------------------------------------------------------------------------
-- A host used a second time
-- ---------------------------------------------------------------------------

/-- The address of host-a's BMC. -/
def bmcA : String := bmcSpec.redfishConnection.address

/-- Clients of BMCs whose systems are On, as host-a's is after `provisioned`:
its inspection powered it on, and a release does not power a host off. -/
def poweredOnBMCs : RedfishClientFactory := fun _ _ _ _ => .ok ({ power := OnPowerState } : BMC).client

/-- After `provisioned`, machine-a is deleted, which releases host-a, and
host-a becomes Available; machine-b claims it and is given the ProviderID
naming it. -/
def reuseRun : List Event :=
  [.deleteMachine machineA, .reconcileMachine machineA {} poweredOnBMCs,
   .reconcileHost hostA {} poweredOnBMCs, .createMachine machineB.ns machineB.name [] {},
   .reconcileMachine machineB {} poweredOnBMCs, .reconcileMachine machineB {} poweredOnBMCs,
   .reconcileHost hostA {} poweredOnBMCs,
   .editMachineSpec machineB { providerID := some "b7://default/host-a" }]

/-- The world when machine-b's next reconcile is to trigger host-a's inspection. -/
def reused : World := run provisioned reuseRun

/-- machine-b's reconcile, ten minutes and more, and the reconciles that time
the inspection out, put host-a back InUse and trigger it again. -/
def retriggerRun : List Event :=
  [.reconcileMachine machineB {} poweredOnBMCs, .tick (11 * minute),
   .reconcileMachine machineB {} poweredOnBMCs, .reconcileHost hostA {} poweredOnBMCs,
   .reconcileMachine machineB {} poweredOnBMCs]

/-- machine-b's reconcile succeeds, calls SetBootSourcePXE and GetPowerState
and nothing else, and writes host-a Inspecting with phase Booting. After the
timeout it does the same again; over the whole cycle the only other calls
are the PhysicalHost controller's queries, and none powers the system on or
restarts it. On the BMC model the system is never booted again,
whatever runs from there. -/
theorem reused_host_inspected_without_boot :
    ((machineReconciler poweredOnBMCs).Reconcile reused machineB {}).err = none ∧
    callsTo hostA ((machineReconciler poweredOnBMCs).Reconcile reused machineB {}).effects =
      [.setBootSourcePXE, .getPowerState] ∧
    (∃ h ∈ (run reused (retriggerRun.take 1)).hosts.get hostA,
      h.status.state = .inspecting ∧ h.status.inspectionPhase = .booting) ∧
    (∃ h ∈ (run reused retriggerRun).hosts.get hostA,
      h.status.state = .inspecting ∧ h.status.inspectionPhase = .booting) ∧
    callsTo hostA (effects reused retriggerRun) =
      [.setBootSourcePXE, .getPowerState, .getSystemInfo, .getPowerState, .getNetworkAddresses,
       .setBootSourcePXE, .getPowerState] ∧
    ∀ (bmc : String → BMC), (bmc bmcA).power = OnPowerState → ∀ es : List Event,
      ((Trace.run Lab.step ⟨run reused retriggerRun, bmc⟩ es).bmc bmcA).boots = (bmc bmcA).boots := by
  refine ⟨by decide, by decide, by decide, by decide, by decide, fun bmc hon es => ?_⟩
  exact (poweredOn_never_boots ⟨hon, rfl⟩ es).2

end Beskar7
