import Beskar7.System.HostLaws
import Beskar7.System.MachineLaws
import Beskar7.System.Ownership

/-!
# What Ready means for a host and for a machine

A host becomes Ready only when a machine's validation passes. After that,
nothing about the host keeps it Ready: a PhysicalHost reconcile that does
not get through to the BMC writes State Error over it, the next one that
does maps Error on a claimed host to InUse, and the machine controller
answers InUse with `triggerInspection`, a PXE boot. Ready is kept exactly
as long as every reconcile of the host reaches its BMC
(`claimed_ready_host_stays_ready`).

A machine's `Status.Ready` is set by `handleReadyHost` and cleared only
when the machine controller sees its host in Error; so it records that the
host its ProviderID names was Ready when the machine was handled, and
nothing about the host now (`ready_machine_dispatched_on_ready_host`).
-/

namespace Beskar7

open PhysicalHostReconciler Beskar7MachineReconciler

-- ---------------------------------------------------------------------------
-- The runs
-- ---------------------------------------------------------------------------

/-- BMCs that cannot be reached. -/
def unreachableBMCs : RedfishClientFactory := fun _ _ _ _ => .error "connection refused"

/-- What the inspection image reports for host-a: four cores. -/
def hostAReport : InspectionReportRequest :=
  { ns := hostA.ns, hostName := hostA.name, cpus := [{ cores := 4 }] }

/-- machine-a claims host-a, which becomes InUse; the user gives machine-a
the spec `spec`, whose ProviderID should name host-a; machine-a's reconcile
PXE-boots host-a and the inspection image reports. -/
def inspectedRun (spec : Beskar7MachineSpec) : List Event :=
  createCredentials :: enrollHost hostA ++ createMachine machineA {} ++
    [.reconcileMachine machineA {} workingBMCs, .reconcileHost hostA {} workingBMCs,
     .editMachineSpec machineA spec, .reconcileMachine machineA {} workingBMCs,
     .postInspection {} "POST" (some hostAReport)]

/-- The validation passes, host-a becomes Ready, and machine-a too. -/
def provisioned : World :=
  run {} (inspectedRun { providerID := some "b7://default/host-a" } ++
    [.reconcileMachine machineA {} workingBMCs, .reconcileMachine machineA {} workingBMCs])

/-- machine-a as ConsumerRefs identify it: it is the third object created. -/
def claimant : Beskar7Machine := { metadata := { ns := machineA.ns, name := machineA.name, uid := 2 } }

/-- One reconcile of host-a fails to reach the BMC, the next succeeds, and
machine-a is reconciled. -/
def regressRun : List Event :=
  [.reconcileHost hostA {} unreachableBMCs, .reconcileHost hostA {} workingBMCs,
   .reconcileMachine machineA {} workingBMCs]

-- ---------------------------------------------------------------------------
-- A Ready, claimed host
-- ---------------------------------------------------------------------------

/-- The host at `hk` is Ready and its ConsumerRef identifies `m`. -/
def ReadyFor (hk : ObjectKey) (m : Beskar7Machine) (w : World) : Prop :=
  ∃ h ∈ w.hosts.get hk, h.ClaimedBy m ∧ h.status.state = .ready

instance (hk : ObjectKey) (m : Beskar7Machine) (w : World) : Decidable (ReadyFor hk m w) :=
  inferInstanceAs (Decidable (∃ h ∈ w.hosts.get hk, h.ClaimedBy m ∧ h.status.state = .ready))

/-- A reconcile of the host at `hk` gets through to its BMC. -/
def Event.reachesBMCAt (w : World) (hk : ObjectKey) : Event → Bool
  | .reconcileHost k env f =>
    if k = hk then (w.hosts.get hk).all ((hostReconciler f).reachesBMC w env) else true
  | _ => true

/-- The steps of a run that keep the host at `hk` claimed by `m`, and in
which every reconcile of that host reaches its BMC. -/
def KeepsClaimReachingBMC (hk : ObjectKey) (m : Beskar7Machine) (w : World) (e : Event) : Prop :=
  e.reachesBMCAt w hk = true ∧ ∃ h ∈ (step w e).1.hosts.get hk, h.ClaimedBy m

instance (hk : ObjectKey) (m : Beskar7Machine) (w : World) (e : Event) :
    Decidable (KeepsClaimReachingBMC hk m w e) :=
  inferInstanceAs (Decidable (_ ∧ ∃ h ∈ (step w e).1.hosts.get hk, h.ClaimedBy m))

variable {hk : ObjectKey} {m : Beskar7Machine} {w : World} {e : Event}

/-- One step of such a run keeps the host Ready: of the three writers of its
status, the PhysicalHost controller keeps a claimed host Ready when it
reaches the BMC, the inspection writes need InUse or Inspecting, and a
report leaves the state alone. -/
theorem ReadyFor.after_step (hready : ReadyFor hk m w) (hgood : KeepsClaimReachingBMC hk m w e) :
    ReadyFor hk m (step w e).1 := by
  obtain ⟨hbmc, h', hmem, hclaimed⟩ := hgood
  obtain ⟨h, hget, hclaimed₀, hstate⟩ := hready
  refine ⟨h', hmem, hclaimed, ?_⟩
  cases step_status hmem with
  | kept hget' hs =>
    cases hget.symm.trans hget'
    rw [hs]
    exact hstate
  | created hnone hs => exact absurd (hget.symm.trans hnone) (Option.some_ne_none h)
  | @hostReconcile env f _ he hget' hw =>
    cases hget.symm.trans hget'
    subst he
    have hreach : (hostReconciler f).reachesBMC w env h = true := by
      simpa [Event.reachesBMCAt, hget'] using hbmc
    exact hw.ready hreach hclaimed₀.isSome hstate
  | machineReconcile he hm hget' hw =>
    cases hget.symm.trans hget'
    rcases hw.state with hinuse | hinspecting
    · simp [hstate] at hinuse
    · simp [hstate] at hinspecting
  | report he hk hget' hs =>
    cases hget.symm.trans hget'
    rw [hs]
    exact hstate

/-- Every dispatch on a Ready host is on Ready. -/
theorem ReadyFor.handle_ready (hready : ReadyFor hk m w) {mk : ObjectKey} {st : HostState}
    (hmem : Effect.handle mk hk st ∈ (step w e).2) : st = .ready := by
  obtain ⟨h, hget, -, hstate⟩ := hready
  obtain ⟨-, h', hget', hst⟩ := step_handle hmem
  cases hget.symm.trans hget'
  rw [← hst, hstate]

/-- A host that is Ready while claimed by `m` stays Ready as long as it
stays claimed by `m` and every reconcile of it reaches its BMC, whatever
else happens; and every machine reconcile that dispatches on it takes the
Ready branch, so none calls `triggerInspection` on it. -/
theorem claimed_ready_host_stays_ready {es : List Event} (hready : ReadyFor hk m w)
    (hrun : Trace.Guarded step (KeepsClaimReachingBMC hk m) w es) :
    ReadyFor hk m (run w es) ∧ ∀ mk st, Effect.handle mk hk st ∈ effects w es → st = .ready := by
  have keep : ∀ w e, KeepsClaimReachingBMC hk m w e → ReadyFor hk m w → ReadyFor hk m (step w e).1 :=
    fun _ _ hgood hw => hw.after_step hgood
  refine ⟨Trace.run_guarded step keep hrun hready, ?_⟩
  intro mk st hmem
  have hall : ∀ x ∈ effects w es, ∀ mk st, x = .handle mk hk st → st = .ready :=
    Trace.effects_guarded step keep (fun _ _ _ hw _ hx mk st hxeq => hw.handle_ready (hxeq ▸ hx))
      hrun hready
  exact hall _ hmem mk st rfl

/-- The reconciles that follow: host-a reaches its BMC, machine-a is
reconciled, a report comes in, time passes. -/
def steadyRun : List Event :=
  [.reconcileHost hostA {} workingBMCs, .reconcileMachine machineA {} workingBMCs,
   .postInspection {} "POST" (some hostAReport), .tick minute,
   .reconcileMachine machineA {} workingBMCs]

theorem provisioned_host_stays_ready :
    ReadyFor hostA claimant provisioned ∧
    Trace.Guarded step (KeepsClaimReachingBMC hostA claimant) provisioned steadyRun ∧
    ReadyFor hostA claimant (run provisioned steadyRun) ∧
    ∀ mk st, Effect.handle mk hostA st ∈ effects provisioned steadyRun → st = .ready :=
  ⟨by decide, by decide, claimed_ready_host_stays_ready (by decide) (by decide)⟩

/-- Without the guard: one reconcile of host-a that does not reach the BMC
makes the provisioned host Error while machine-a still claims it, the next
makes it InUse, and machine-a's reconcile PXE-boots it again. -/
theorem failed_reconcile_reinspects_ready_host :
    ReadyFor hostA claimant provisioned ∧
    (∀ n ≤ regressRun.length,
      ∃ h ∈ (run provisioned (regressRun.take n)).hosts.get hostA, h.ClaimedBy claimant) ∧
    (∃ h ∈ (run provisioned (regressRun.take 1)).hosts.get hostA, h.status.state = .error) ∧
    Effect.handle machineA hostA .inUse ∈ effects provisioned regressRun ∧
    Effect.redfish hostA .setBootSourcePXE ∈ effects provisioned regressRun := by
  decide

-- ---------------------------------------------------------------------------
-- A Ready machine
-- ---------------------------------------------------------------------------

/-- The user edits a machine's spec. -/
def Event.editsMachineSpec : Event → Bool
  | .editMachineSpec .. => true
  | _ => false

/-- Every Ready machine has a ProviderID naming a host of its namespace on
which its reconcile dispatched, in state Ready, among the effects `acc`. -/
def ReadyMachinesDispatchedReady (w : World) (acc : List Effect) : Prop :=
  ∀ m ∈ w.machines.items, m.status.ready = true →
    ∃ name, m.spec.providerID = some (providerID m.metadata.ns name) ∧
      Effect.handle (key m) ⟨m.metadata.ns, name⟩ .ready ∈ acc

/-- One step that does not edit a machine's spec keeps the invariant, with
its effects added: a machine is kept, with its spec and not newly Ready, or
`handleReadyHost` made it Ready on a host the step dispatched on. -/
theorem ReadyMachinesDispatchedReady.after_step {acc : List Effect}
    (hinv : ReadyMachinesDispatchedReady w acc) (he : e.editsMachineSpec = false) :
    ReadyMachinesDispatchedReady (step w e).1 (acc ++ (step w e).2) := by
  intro m' hmem hready
  cases step_machine (Store.get_of_mem hmem) with
  | keeps hget hkeeps =>
    obtain ⟨name, hid, heff⟩ := hinv _ (Store.mem_of_get hget) (hkeeps.ready_of hready)
    have hns : m'.metadata.ns = _ := congrArg ObjectKey.ns hkeeps.key_eq
    refine ⟨name, ?_, ?_⟩
    · rw [hkeeps.spec_eq, hns]
      exact hid
    · rw [hkeeps.key_eq, hns]
      exact List.mem_append_left _ heff
  | created he' hstatus => simp [hstatus] at hready
  | edited he' => simp [he', Event.editsMachineSpec] at he
  | @readied env f m host he' hget hhost hns hstate hm' heff =>
    subst hm'
    -- the host dispatched on is in the machine's namespace
    have hkey : key host = ⟨(handleReadyHost (m.setConditions (·.markTrue .physicalHostAssociated))
        host).metadata.ns, host.metadata.name⟩ := by
      simp [PhysicalHost.key_def, hns]
    refine ⟨host.metadata.name, ?_, ?_⟩
    · simp [hns]
    · rw [← hkey]
      exact List.mem_append_right _ heff

/-- In every state reached without editing a machine's spec, a Ready machine's
ProviderID names a host in its namespace, and the machine's reconcile once
dispatched on that host in state Ready. Nothing more: the host may have left
Ready since, or be claimed by another machine. -/
theorem ready_machine_dispatched_on_ready_host {es : List Event}
    (hes : ∀ e ∈ es, e.editsMachineSpec = false) :
    ReadyMachinesDispatchedReady (run {} es) (effects {} es) := by
  have hinit : ReadyMachinesDispatchedReady {} [] := by
    intro m hmem
    simp at hmem
  exact Trace.run_effects_invariant step
    (fun _ _ _ (he : Event.editsMachineSpec _ = false) hinv => hinv.after_step he) hes hinit

/-- machine-b claims host-a, machine-a adopts it through its ProviderID,
inspects it and becomes Ready on it; no spec is edited. -/
def adoptReadyRun : List Event :=
  adoptRun ++
    [.reconcileMachine machineA {} workingBMCs, .postInspection {} "POST" (some hostAReport),
     .reconcileMachine machineA {} workingBMCs, .reconcileMachine machineA {} workingBMCs]

theorem adopted_ready_machine_dispatched_ready :
    (∀ e ∈ adoptReadyRun, e.editsMachineSpec = false) ∧
    ReadyMachinesDispatchedReady (run {} adoptReadyRun) (effects {} adoptReadyRun) :=
  ⟨by decide, ready_machine_dispatched_on_ready_host (by decide)⟩

/-- After the same failure, machine-a is Ready while host-a is in Error and
claimed by machine-b; after the reconciles that follow, machine-a is still
Ready with Phase Inspecting. -/
theorem ready_machine_outlives_its_host :
    (∀ e ∈ adoptReadyRun ++ regressRun, e.editsMachineSpec = false) ∧
    (∃ m ∈ (run {} (adoptReadyRun ++ regressRun.take 1)).machines.get machineA,
      m.status.ready = true ∧ m.spec.providerID = some "b7://default/host-a" ∧
      ∃ h ∈ (run {} (adoptReadyRun ++ regressRun.take 1)).hosts.get hostA,
        h.status.state = .error ∧ ¬ h.ClaimedBy m) ∧
    ∃ m ∈ (run {} (adoptReadyRun ++ regressRun)).machines.get machineA,
      m.status.ready = true ∧ m.status.phase = some .inspecting := by
  decide

end Beskar7
