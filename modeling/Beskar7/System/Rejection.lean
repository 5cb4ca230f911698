import Beskar7.System.Readiness

/-!
# After a validation rejects a host

The design has a failed validation mark the machine failed and send the host
back to Available, and the pending test of the machine controller expects
the machine's Phase Failed. The code does neither. `validateInspectionReport`
returns the error of the first requirement the report misses and changes
neither the machine nor the host: the machine keeps Phase Inspecting, the
host stays Inspecting with its report. The reconciles that follow validate
the same report again until the inspection times out; the timeout writes
State Error, the PhysicalHost controller turns Error on a claimed host into
InUse, and the machine PXE-boots the host again
(`rejection_times_out_and_reinspects`). A rejection starts a loop of
inspections.

The loop never ends in a Ready host: while the machine is the only one
reconciled and every report for the host carries the rejected hardware, the
host never becomes Ready and the machine never takes the Ready branch on it
(`rejected_host_never_ready`).
-/

namespace Beskar7

open PhysicalHostReconciler Beskar7MachineReconciler

-- ---------------------------------------------------------------------------
-- What validation reads
-- ---------------------------------------------------------------------------

/-- The parts of a report `checkHardwareRequirements` reads. -/
abbrev Hardware := List CPUInfo × List MemoryInfo × List DiskInfo

def InspectionReport.hardware (r : InspectionReport) : Hardware := (r.cpus, r.memory, r.disks)

def InspectionReportRequest.hardware (req : InspectionReportRequest) : Hardware :=
  (req.cpus, req.memory, req.disks)

@[simp] theorem InspectionReportRequest.toReport_hardware (req : InspectionReportRequest)
    (now : MetaTime) : (req.toReport now).hardware = req.hardware := rfl

theorem checkHardwareRequirements_congr (reqs : HardwareRequirements) {r r' : InspectionReport}
    (h : r.hardware = r'.hardware) :
    checkHardwareRequirements reqs r = checkHardwareRequirements reqs r' := by
  obtain ⟨hcpus, hmemory, hdisks⟩ : r.cpus = r'.cpus ∧ r.memory = r'.memory ∧ r.disks = r'.disks := by
    simpa [InspectionReport.hardware] using h
  unfold checkHardwareRequirements
  rw [hcpus, hmemory, hdisks]

/-- The machine's hardware requirements reject the report. -/
def Beskar7Machine.rejects (m : Beskar7Machine) (r : InspectionReport) : Bool :=
  (m.spec.hardwareRequirements.bind (checkHardwareRequirements · r)).isSome

theorem Beskar7Machine.rejects_congr {m m' : Beskar7Machine} {r r' : InspectionReport}
    (hreqs : m'.spec.hardwareRequirements = m.spec.hardwareRequirements)
    (hhw : r'.hardware = r.hardware) : m'.rejects r' = m.rejects r := by
  unfold rejects
  rw [hreqs]
  cases m.spec.hardwareRequirements with
  | none => simp
  | some reqs =>
    simp only [Option.bind_some]
    rw [checkHardwareRequirements_congr reqs hhw]

-- ---------------------------------------------------------------------------
-- The rejection, and what follows it
-- ---------------------------------------------------------------------------

/-- machine-a requires eight cores; host-a reports four. -/
def rejectingSpec : Beskar7MachineSpec :=
  { providerID := some "b7://default/host-a", hardwareRequirements := some { minCPUCores := 8 } }

/-- host-a is Inspecting with phase Complete and its report; the next
reconcile of machine-a validates it. -/
def rejecting : World := run {} (inspectedRun rejectingSpec)

/-- The rejecting reconcile, then ten minutes and more, a reconcile of
machine-a, one of host-a, and one of machine-a. -/
def rejectRun : List Event :=
  [.reconcileMachine machineA {} workingBMCs, .tick (11 * minute),
   .reconcileMachine machineA {} workingBMCs, .reconcileHost hostA {} workingBMCs,
   .reconcileMachine machineA {} workingBMCs]

/-- The rejecting reconcile returns the error and leaves machine-a's Phase
Inspecting; the inspection then times out, host-a goes Error and then InUse,
and machine-a dispatches on InUse and PXE-boots it again. -/
theorem rejection_times_out_and_reinspects :
    ((machineReconciler workingBMCs).Reconcile rejecting machineA {}).err =
      some (.insufficientCPUCores 4 8) ∧
    (∃ m ∈ (run rejecting (rejectRun.take 1)).machines.get machineA,
      m.status.phase = some .inspecting ∧ m.status.ready = false) ∧
    Effect.handle machineA hostA .inUse ∈ effects rejecting rejectRun ∧
    Effect.redfish hostA .setBootSourcePXE ∈ effects rejecting rejectRun := by
  decide

-- ---------------------------------------------------------------------------
-- The loop never reaches Ready
-- ---------------------------------------------------------------------------

/-- The events after a rejection that leave it in force: reconciles of the
machine at `mk` and of any host, reports that give the host at `hk` the
hardware `hw`, and time. -/
def Event.keepsHardware (mk hk : ObjectKey) (hw : Hardware) : Event → Bool
  | .reconcileMachine k _ _ => decide (k = mk)
  | .reconcileHost .. => true
  | .postInspection _ _ body =>
    body.all fun req => decide ((⟨req.ns, req.hostName⟩ : ObjectKey) = hk → req.hardware = hw)
  | .tick _ => true
  | _ => false

/-- The machine at `mk` rejects the report `r₀`, and the host at `hk` is not
Ready and carries only reports with `r₀`'s hardware. -/
structure StaysRejected (mk hk : ObjectKey) (r₀ : InspectionReport) (w : World) : Prop where
  rejects : ∀ m ∈ w.machines.get mk, m.rejects r₀ = true
  not_ready : ∀ h ∈ w.hosts.get hk, h.status.state ≠ .ready
  same_hardware : ∀ h ∈ w.hosts.get hk, ∀ r ∈ h.status.inspectionReport, r.hardware = r₀.hardware

variable {mk hk : ObjectKey} {r₀ : InspectionReport} {w : World} {e : Event}

/-- The host is not made Ready: the PhysicalHost controller makes no host
Ready, a validation by the machine rejects the report, a report keeps the
state; and the report keeps the hardware. -/
theorem StaysRejected.host_after_step (hinv : StaysRejected mk hk r₀ w)
    (he : e.keepsHardware mk hk r₀.hardware = true) {h' : PhysicalHost}
    (hmem : h' ∈ (step w e).1.hosts.get hk) :
    h'.status.state ≠ .ready ∧ ∀ r ∈ h'.status.inspectionReport, r.hardware = r₀.hardware := by
  cases step_status hmem with
  | kept hget hs =>
    rw [hs]
    exact ⟨hinv.not_ready _ hget, hinv.same_hardware _ hget⟩
  | created hnone hs =>
    rw [hs]
    exact ⟨by decide, by simp⟩
  | hostReconcile he' hget hw =>
    rw [hw.inspectionReport]
    exact ⟨hw.ne_ready (hinv.not_ready _ hget), hinv.same_hardware _ hget⟩
  | @machineReconcile mk' env f m h he' hm hget hw =>
    subst he'
    have hmk : mk' = mk := by simpa [Event.keepsHardware] using he
    subst hmk
    refine ⟨?_, by rw [hw.inspectionReport]; exact hinv.same_hardware _ hget⟩
    -- a validation that passes would need a report the machine accepts
    intro hready
    obtain ⟨-, report, hreport, hpass⟩ := hw.ready hready
    have hrejects : m.rejects report = true := by
      rw [Beskar7Machine.rejects_congr rfl (hinv.same_hardware _ hget report hreport)]
      exact hinv.rejects _ hm
    simp [Beskar7Machine.rejects, hpass] at hrejects
  | @report env method req h he' hk' hget hs =>
    subst he'
    have hhw : req.hardware = r₀.hardware := by
      simpa [Event.keepsHardware, ← hk'] using he
    rw [hs]
    refine ⟨hinv.not_ready _ hget, ?_⟩
    intro r hr
    cases hr
    simpa using hhw

/-- The machine keeps its hardware requirements: only its own reconcile
writes it, and neither the patch nor `handleReadyHost` touches them. -/
theorem StaysRejected.machine_after_step (hinv : StaysRejected mk hk r₀ w)
    (he : e.keepsHardware mk hk r₀.hardware = true) {m' : Beskar7Machine}
    (hmem : m' ∈ (step w e).1.machines.get mk) : m'.rejects r₀ = true := by
  cases step_machine hmem with
  | keeps hget hkeeps =>
    rw [Beskar7Machine.rejects_congr (congrArg (·.hardwareRequirements) hkeeps.spec_eq) rfl]
    exact hinv.rejects _ hget
  | created he' => simp [he', Event.keepsHardware] at he
  | edited he' => simp [he', Event.keepsHardware] at he
  | @readied env f m host he' hget hhost hns hstate hm' =>
    subst hm'
    rw [Beskar7Machine.rejects_congr (m := m) (by simp [handleReadyHost_hardwareRequirements]) rfl]
    exact hinv.rejects _ hget

theorem StaysRejected.after_step (hinv : StaysRejected mk hk r₀ w)
    (he : e.keepsHardware mk hk r₀.hardware = true) : StaysRejected mk hk r₀ (step w e).1 where
  rejects _ hmem := hinv.machine_after_step he hmem
  not_ready _ hmem := (hinv.host_after_step he hmem).1
  same_hardware _ hmem := (hinv.host_after_step he hmem).2

/-- Once the machine at `mk` rejects the report of the host at `hk`, which is
not Ready, then as long as only that machine is reconciled and every report
for the host carries the same hardware, the host never becomes Ready and the
machine never dispatches on it as Ready, so it is never made Ready on it. -/
theorem rejected_host_never_ready {es : List Event}
    (hreject : ∀ m ∈ w.machines.get mk, m.rejects r₀ = true)
    (hhost : ∀ h ∈ w.hosts.get hk, h.status.state ≠ .ready ∧ h.status.inspectionReport = some r₀)
    (hes : ∀ e ∈ es, e.keepsHardware mk hk r₀.hardware = true) :
    (∀ h ∈ (run w es).hosts.get hk, h.status.state ≠ .ready) ∧
    Effect.handle mk hk .ready ∉ effects w es := by
  have hinit : StaysRejected mk hk r₀ w :=
    { rejects := hreject
      not_ready := fun h hget => (hhost h hget).1
      same_hardware := fun h hget r hr => by
        rw [(hhost h hget).2] at hr
        cases hr
        rfl }
  have keep : ∀ w e, e.keepsHardware mk hk r₀.hardware = true →
      StaysRejected mk hk r₀ w → StaysRejected mk hk r₀ (step w e).1 :=
    fun _ _ he hinv => hinv.after_step he
  refine ⟨(Trace.run_invariant step keep hes hinit).not_ready, ?_⟩
  -- a dispatch on Ready reads a Ready host
  have hall : ∀ x ∈ effects w es, x ≠ .handle mk hk .ready :=
    Trace.effects_guarded step (fun s e he hinv => keep s e he hinv)
      (fun _ _ _ hinv x hx hxeq => by
        subst hxeq
        obtain ⟨-, h, hget, hst⟩ := step_handle hx
        exact hinv.not_ready h hget hst)
      (Trace.guarded_of_forall step hes) hinit
  exact fun hmem => hall _ hmem rfl

/-- At the rejecting reconcile: reports, a host reconcile, time, and more
reconciles of machine-a leave host-a short of Ready. -/
def afterRejectionRun : List Event :=
  [.reconcileMachine machineA {} workingBMCs, .postInspection {} "POST" (some hostAReport),
   .reconcileHost hostA {} workingBMCs, .tick minute, .reconcileMachine machineA {} workingBMCs]

theorem rejected_host_a_never_ready :
    (∀ m ∈ rejecting.machines.get machineA, m.rejects (hostAReport.toReport 0) = true) ∧
    (∀ h ∈ rejecting.hosts.get hostA,
      h.status.state ≠ .ready ∧ h.status.inspectionReport = some (hostAReport.toReport 0)) ∧
    (∀ e ∈ afterRejectionRun, e.keepsHardware machineA hostA (hostAReport.toReport 0).hardware = true) ∧
    (∀ h ∈ (run rejecting afterRejectionRun).hosts.get hostA, h.status.state ≠ .ready) ∧
    Effect.handle machineA hostA .ready ∉ effects rejecting afterRejectionRun := by
  have hreject : ∀ m ∈ rejecting.machines.get machineA, m.rejects (hostAReport.toReport 0) = true := by
    decide
  have hhost : ∀ h ∈ rejecting.hosts.get hostA,
      h.status.state ≠ .ready ∧ h.status.inspectionReport = some (hostAReport.toReport 0) := by
    decide
  have hes : ∀ e ∈ afterRejectionRun,
      e.keepsHardware machineA hostA (hostAReport.toReport 0).hardware = true := by
    decide
  exact ⟨hreject, hhost, hes, rejected_host_never_ready hreject hhost hes⟩

end Beskar7
