import Beskar7.System.Step
import Beskar7.Controllers.PhysicalHostLaws
import Beskar7.Controllers.Beskar7MachineLaws

/-!
# How one event changes a machine

A stored machine changes in three ways: the machine controller patches the
machine it reconciled, and a user creates a machine or edits its spec. The
patch keeps the spec, and keeps the machine not Ready, except through
`handleReadyHost`, which the reconcile reaches with a Ready host and which
leaves a `handle` effect naming that host (`MachineSource`, `step_machine`).
-/

namespace Beskar7

open Beskar7MachineReconciler

/-- Where the machine `m'` stored at `k` after the event `e` comes from. -/
inductive MachineSource (w : World) (e : Event) (k : ObjectKey) (m' : Beskar7Machine) : Prop
  | keeps {m : Beskar7Machine} (hget : w.machines.get k = some m) (hkeeps : Keeps m m')
  | created {ns name : String} {annotations : List (String × String)} {spec : Beskar7MachineSpec}
      (he : e = .createMachine ns name annotations spec) (hstatus : m'.status = {})
  | edited {spec : Beskar7MachineSpec} {m : Beskar7Machine} (he : e = .editMachineSpec k spec)
      (hget : w.machines.get k = some m) (hm' : m' = { m with spec })
  | readied {env : MachineReconcileEnv} {f : RedfishClientFactory} {m : Beskar7Machine}
      {host : PhysicalHost} (he : e = .reconcileMachine k env f) (hget : w.machines.get k = some m)
      (hhost : w.hosts.get (key host) = some host) (hns : host.metadata.ns = m.metadata.ns)
      (hready : host.status.state = .ready)
      (hm' : m' = handleReadyHost (m.setConditions (·.markTrue .physicalHostAssociated)) host)
      (heff : Effect.handle k (key host) .ready ∈ (step w e).2)

variable {w : World} {e : Event} {k : ObjectKey}

/-- The machine a reconcile patches is the stored one, kept or readied. -/
theorem MachineSource.of_reconcile {mk : ObjectKey} {env : MachineReconcileEnv}
    {f : RedfishClientFactory} {m m' : Beskar7Machine} (he : e = .reconcileMachine mk env f)
    (hget : w.machines.get mk = some m) (hk : k = key m')
    (hout : Keeps m m' ∨ ∃ host, w.hosts.get (key host) = some host ∧
      host.metadata.ns = m.metadata.ns ∧ host.status.state = .ready ∧
      m' = handleReadyHost (m.setConditions (·.markTrue .physicalHostAssociated)) host ∧
      Effect.handle (key m) (key host) .ready ∈ (step w e).2) :
    MachineSource w e k m' := by
  have hkm : key m = mk := Store.key_of_get hget
  rcases hout with hkeeps | ⟨host, hhost, hns, hready, rfl, heff⟩
  · -- the patch writes at the key of the machine, which is the stored one's
    have hkk : k = mk := hk.trans (hkeeps.key_eq.trans hkm)
    subst hkk
    exact .keeps hget hkeeps
  · have hkk : k = mk := by
      rw [hk, ← hkm]
      simp [Beskar7Machine.key_def]
    subst hkk
    subst he
    exact .readied rfl hget hhost hns hready rfl (hkm ▸ heff)

/-- Every machine after an event, by where it comes from. -/
theorem step_machine {m' : Beskar7Machine} (hmem : m' ∈ (step w e).1.machines.get k) :
    MachineSource w e k m' := by
  have hsame : ∀ {w' : World}, w'.machines = w.machines → m' ∈ w'.machines.get k →
      MachineSource w e k m' :=
    fun hmachines hmem' => .keeps (hmachines ▸ hmem') (Keeps.refl m')
  cases e with
  | reconcileHost k' env f =>
    rcases PhysicalHostReconciler.Reconcile_outcome (hostReconciler f) w env k' with
      hw | ⟨ph, -, ho⟩
    · exact hsame (congrArg World.machines hw) hmem
    · exact hsame ho.machines hmem
  | reconcileMachine mk env f =>
    rcases Reconcile_cases (machineReconciler f) w env mk with
      ⟨hw, -⟩ | ⟨m, hget, out, hout, hw, heffects⟩
    · exact hsame (congrArg World.machines hw) hmem
    · -- the host writes of the handlers leave the machines alone
      have hwrite : HostWrite w m out.world := by
        rcases hout with rfl | rfl
        · exact reconcileDelete_world
        · exact reconcileNormal_world
      rcases hw with hw | hw
      · exact hsame ((congrArg World.machines hw).trans hwrite.machines) hmem
      · have hmem' : m' ∈ (out.world.patchMachine out.machine).machines.get k := by
          rw [← hw]
          exact hmem
        rcases World.patchMachine_machine hmem' with ⟨hk, rfl⟩ | hkept
        · refine .of_reconcile rfl hget hk ?_
          rcases hout with rfl | rfl
          · exact .inl reconcileDelete_machine
          · rcases @reconcileNormal_machine (machineReconciler f) w env m with
              hkeeps | ⟨host, hhost, hns, hready, hm, heff⟩
            · exact .inl hkeeps
            · refine .inr ⟨host, hhost, hns, hready, hm, ?_⟩
              show _ ∈ ((machineReconciler f).Reconcile w mk env).effects
              rw [heffects]
              exact heff
        · exact .keeps (hwrite.machines ▸ hkept) (Keeps.refl m')
  | postInspection env method body =>
    exact hsame (InspectionHandler.ServeHTTP_machines w env method body) hmem
  | createHost ns name labels spec => exact hsame (World.createHost_machines ..) hmem
  | createMachine ns name annotations spec =>
    rcases World.createMachine_machine hmem with hget | hstatus
    · exact .keeps hget (Keeps.refl m')
    · exact .created rfl hstatus
  | createSecret ns name data => exact hsame (World.createSecret_machines ..) hmem
  | editHostSpec k' spec => exact hsame (World.editHostSpec_machines ..) hmem
  | editMachineSpec k' spec =>
    rcases World.editMachineSpec_machine hmem with hget | ⟨rfl, m, hget, rfl⟩
    · exact .keeps hget (Keeps.refl m')
    · exact .edited rfl hget rfl
  | deleteHost k' => exact hsame (World.deleteHost_machines ..) hmem
  | deleteMachine k' =>
    obtain ⟨m, hget, hspec, hstatus, hkey⟩ := World.deleteMachine_machine hmem
    exact .keeps hget ⟨hkey, hspec, fun hready => hstatus ▸ hready⟩
  | tick d => exact hsame rfl hmem

end Beskar7
