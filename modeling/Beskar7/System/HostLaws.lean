import Beskar7.System.Step
import Beskar7.Controllers.PhysicalHostLaws
import Beskar7.Controllers.Beskar7MachineLaws

/-!
# How one event changes a host

Three writers touch a host's status: the PhysicalHost controller, the
machine controller's inspection steps, and the inspection endpoint. After
one event the status of a stored host is the one it had, the empty status of
a host just created, or what exactly one of the three wrote (`StatusSource`).
Only the machine controller dispatches on a host's state, and it dispatches
on the state the host has (`step_handle`). The invariants about host states
in the later modules are case analyses on these two lemmas.
-/

namespace Beskar7

open PhysicalHostReconciler Beskar7MachineReconciler InspectionHandler

/-- Where the status `s` of the host at `k` after the event `e` comes from. -/
inductive StatusSource (w : World) (e : Event) (k : ObjectKey) (s : PhysicalHostStatus) : Prop
  | kept {h : PhysicalHost} (hget : w.hosts.get k = some h) (hs : s = h.status)
  | created (hnone : w.hosts.get k = none) (hs : s = {})
  | hostReconcile {env : HostReconcileEnv} {f : RedfishClientFactory} {h : PhysicalHost}
      (he : e = .reconcileHost k env f) (hget : w.hosts.get k = some h)
      (hw : StatusWrite (hostReconciler f) w env h s)
  | machineReconcile {mk : ObjectKey} {env : MachineReconcileEnv} {f : RedfishClientFactory}
      {m : Beskar7Machine} {h : PhysicalHost} (he : e = .reconcileMachine mk env f)
      (hm : w.machines.get mk = some m) (hget : w.hosts.get k = some h)
      (hw : InspectionWrite m w.metaNow h.status s)
  | report {env : InspectionEnv} {method : String} {req : InspectionReportRequest} {h : PhysicalHost}
      (he : e = .postInspection env method (some req)) (hk : k = ⟨req.ns, req.hostName⟩)
      (hget : w.hosts.get k = some h)
      (hs : s = { h.status with
        inspectionReport := some (req.toReport w.metaNow), inspectionPhase := .complete })

variable {w : World} {e : Event} {k : ObjectKey}

theorem StatusSource.of_kept {s : PhysicalHostStatus} (hkept : ∃ h ∈ w.hosts.get k, s = h.status) :
    StatusSource w e k s := by
  obtain ⟨h, hget, hs⟩ := hkept
  exact .kept hget hs

/-- The status of every host after an event, by where it comes from. -/
theorem step_status {h' : PhysicalHost} (hmem : h' ∈ (step w e).1.hosts.get k) :
    StatusSource w e k h'.status := by
  have hsame : ∀ {w' : World}, w'.hosts = w.hosts → h' ∈ w'.hosts.get k → StatusSource w e k h'.status :=
    fun hhosts hmem' => .kept (hhosts ▸ hmem') rfl
  cases e with
  | reconcileHost k' env f =>
    rcases Reconcile_outcome (hostReconciler f) w env k' with hw | ⟨ph, hget, ho⟩
    · exact hsame (congrArg World.hosts hw) hmem
    · rcases ho.status hmem with ⟨h, hh, hs⟩ | ⟨hk, hw⟩
      · exact .kept hh hs
      · -- the reconciled host is the one stored at `k'`
        have hk' : k = k' := hk.trans (Store.key_of_get hget)
        subst hk'
        exact .hostReconcile rfl (hk ▸ hget) hw
  | reconcileMachine mk env f =>
    rcases Reconcile_hosts (r := machineReconciler f) (w := w) mk with hhosts | ⟨m, hm, w', hw, hhosts⟩
    · exact hsame hhosts hmem
    · have hmem' : h' ∈ w'.hosts.get k := by
        have : (step w (.reconcileMachine mk env f)).1.hosts = w'.hosts := hhosts
        rw [← this]
        exact hmem
      rcases hw.status hmem' with ⟨h, hh, hs⟩ | ⟨h, hh, hi⟩
      · exact .kept hh hs
      · exact .machineReconcile rfl hm hh hi
  | postInspection env method body =>
    rcases ServeHTTP_status hmem with ⟨h, hh, hs⟩ | ⟨req, rfl, hk, h, hh, hs⟩
    · exact .kept hh hs
    · exact .report rfl hk hh hs
  | createHost ns name labels spec =>
    rcases World.createHost_status hmem with hget | ⟨hnone, hs⟩
    · exact .kept hget rfl
    · exact .created hnone hs
  | createMachine ns name annotations spec => exact hsame (World.createMachine_hosts ..) hmem
  | createSecret ns name data => exact hsame (World.createSecret_hosts ..) hmem
  | editHostSpec k' spec => exact .of_kept (World.editHostSpec_status hmem)
  | editMachineSpec k' spec => exact hsame (World.editMachineSpec_hosts ..) hmem
  | deleteHost k' => exact .of_kept (World.deleteHost_status hmem)
  | deleteMachine k' => exact hsame (World.deleteMachine_hosts ..) hmem
  | tick d => exact hsame rfl hmem

/-- A dispatch on a host's state comes from a reconcile of that machine, and
names the state the stored host has. -/
theorem step_handle {mk hk : ObjectKey} {st : HostState}
    (hmem : Effect.handle mk hk st ∈ (step w e).2) :
    (∃ env f, e = .reconcileMachine mk env f) ∧ ∃ h ∈ w.hosts.get hk, h.status.state = st := by
  have hnone : ∀ {effs : List Effect}, (∀ x ∈ effs, x.isHandle = false) → Effect.handle mk hk st ∉ effs :=
    fun hall hin => absurd (hall _ hin) (by simp [Effect.isHandle])
  cases e with
  | reconcileHost k' env f => exact absurd hmem (hnone (Reconcile_effects _ _ _ _))
  | reconcileMachine k' env f =>
    obtain ⟨rfl, h, hh, hs⟩ := handle_mem_Reconcile hmem
    exact ⟨⟨env, f, rfl⟩, h, hh, hs⟩
  | postInspection env method body =>
    -- the endpoint only writes statuses
    obtain ⟨k', hk'⟩ := ServeHTTP_effects hmem
    cases hk'
  | _ => simp [step] at hmem

end Beskar7
