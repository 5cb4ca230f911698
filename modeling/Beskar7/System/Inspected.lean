import Beskar7.System.Readiness

/-!
# What an Inspecting or a Ready host carries

Only the machine controller's `triggerInspection` makes a host Inspecting,
and it stamps the time; only a validation that passes makes a host Ready,
on a report the host holds, and it marks `HostInspected`. The PhysicalHost
controller writes neither state and keeps the three fields, and a report
adds one. So in every reachable world an Inspecting or Ready host has the
time its inspection started, which `handleInspectingHost` measures its
timeout from, and a Ready host has a report and `HostInspected` True
(`reachable_hosts_inspected`).

The report is not tied to the last inspection: `triggerInspection` keeps the
report a host already has, and a validation reads whatever report is there.

The timeout is measured from the start the host carries to the reconcile, so
the clock alone decides it (`inspecting_host_timeout_iff`). The machine
controller does not watch PhysicalHosts: it sees a report only at its next
reconcile, which comes up to thirty seconds after the last one. A report
that arrives shortly before the deadline is therefore timed out when that
reconcile falls after it: the host goes to State Error with InspectionPhase
Timeout, and the report is never validated (`report_in_time_times_out`).
-/

namespace Beskar7

open PhysicalHostReconciler Beskar7MachineReconciler

/-- What an inspection leaves on a host's status. -/
structure Inspected (s : PhysicalHostStatus) : Prop where
  started_of_inspecting : s.state = .inspecting → s.inspectionTimestamp.isSome
  started_of_ready : s.state = .ready → s.inspectionTimestamp.isSome
  report_of_ready : s.state = .ready → s.inspectionReport.isSome
  condition_of_ready : s.state = .ready → s.conditions.isTrue .hostInspected = true

/-- A created host has the empty status, in State None. -/
theorem inspected_empty : Inspected {} := ⟨nofun, nofun, nofun, nofun⟩

variable {s s' : PhysicalHostStatus}

-- ---------------------------------------------------------------------------
-- The three writers
-- ---------------------------------------------------------------------------

/-- The PhysicalHost controller keeps an Inspecting or Ready host's fields,
and writes no other host either state. -/
theorem PhysicalHostReconciler.StatusWrite.inspected {r : PhysicalHostReconciler} {w : World}
    {env : HostReconcileEnv} {ph : PhysicalHost} (hw : StatusWrite r w env ph s)
    (hs : Inspected ph.status) : Inspected s := by
  have hkept : ∀ st : HostState, st ≠ .inUse → st ≠ .available → st ≠ .error →
      s.state = st → ph.status.state = st := by
    intro st hinUse havailable herror hst
    rcases hw.state_cases with h | h | h | h
    · exact h.symm.trans hst
    · exact absurd (hst.symm.trans h) hinUse
    · exact absurd (hst.symm.trans h) havailable
    · exact absurd (hst.symm.trans h) herror
  have hinspecting := hkept .inspecting (by decide) (by decide) (by decide)
  have hready := hkept .ready (by decide) (by decide) (by decide)
  refine ⟨fun h => ?_, fun h => ?_, fun h => ?_, fun h => ?_⟩
  · rw [hw.inspectionTimestamp]
    exact hs.started_of_inspecting (hinspecting h)
  · rw [hw.inspectionTimestamp]
    exact hs.started_of_ready (hready h)
  · rw [hw.inspectionReport]
    exact hs.report_of_ready (hready h)
  · rw [hw.isTrue_hostInspected h]
    exact hs.condition_of_ready (hready h)

/-- An inspection write starts an inspection now, times one out, or makes
an Inspecting host with a report Ready. -/
theorem Beskar7MachineReconciler.InspectionWrite.inspected {m : Beskar7Machine} {now : MetaTime}
    (hw : InspectionWrite m now s s') (hs : Inspected s) : Inspected s' := by
  cases hw with
  | inspect hstate => exact ⟨fun _ => rfl, nofun, nofun, nofun⟩
  | timeout hstate => exact ⟨nofun, nofun, nofun, nofun⟩
  | validate hstate hreport hpass =>
    -- the host was Inspecting, so its inspection has a start
    refine ⟨nofun, fun _ => hs.started_of_inspecting hstate, fun _ => ?_, fun _ => ?_⟩
    · simp [hreport]
    · exact Conditions.isTrue_markTrue _ _

/-- A report keeps the state, the start and the conditions. -/
theorem Inspected.with_report (hs : Inspected s) (report : InspectionReport) :
    Inspected { s with inspectionReport := some report, inspectionPhase := .complete } :=
  ⟨hs.started_of_inspecting, hs.started_of_ready, fun _ => rfl, hs.condition_of_ready⟩

-- ---------------------------------------------------------------------------
-- Every host of a reachable world
-- ---------------------------------------------------------------------------

def HostsInspected (w : World) : Prop := ∀ k, ∀ h ∈ w.hosts.get k, Inspected h.status

/-- One event keeps the invariant, by where each host's new status comes from. -/
theorem HostsInspected.after_step {w : World} (hinv : HostsInspected w) (e : Event) :
    HostsInspected (step w e).1 := by
  intro k h' hmem
  cases step_status hmem with
  | kept hget hs => exact hs ▸ hinv k _ hget
  | created hnone hs => exact hs ▸ inspected_empty
  | hostReconcile he hget hw => exact hw.inspected (hinv k _ hget)
  | machineReconcile he hm hget hw => exact hw.inspected (hinv k _ hget)
  | report he hk hget hs => exact hs ▸ (hinv k _ hget).with_report _

theorem hostsInspected_run (es : List Event) : HostsInspected (run {} es) := by
  have keep : ∀ w e, True → HostsInspected w → HostsInspected (step w e).1 :=
    fun _ e _ hw => hw.after_step e
  exact Trace.run_invariant step keep (fun _ _ => trivial) (fun k h hmem => by simp at hmem)

/-- In every reachable world, every Inspecting host has the time its
inspection started, and every Ready host has that time, a report and
`HostInspected` True. -/
theorem reachable_hosts_inspected (es : List Event) :
    ∀ h ∈ (run {} es).hosts.items,
      (h.status.state = .inspecting → h.status.inspectionTimestamp.isSome) ∧
      (h.status.state = .ready → h.status.inspectionTimestamp.isSome ∧
        h.status.inspectionReport.isSome ∧ h.status.conditions.isTrue .hostInspected = true) := by
  intro h hmem
  have hs : Inspected h.status := hostsInspected_run es _ h (Store.get_of_mem hmem)
  exact ⟨hs.started_of_inspecting,
    fun hready => ⟨hs.started_of_ready hready, hs.report_of_ready hready, hs.condition_of_ready hready⟩⟩

/-- The provisioned host-a of `Readiness` is Ready, with what an inspection
leaves. -/
theorem provisioned_host_inspected :
    ∃ h ∈ provisioned.hosts.items, h.status.state = .ready ∧ h.status.inspectionTimestamp.isSome ∧
      h.status.inspectionReport.isSome ∧ h.status.conditions.isTrue .hostInspected = true := by
  obtain ⟨h, hget, hready⟩ : ∃ h ∈ provisioned.hosts.get hostA, h.status.state = .ready := by
    decide
  have hmem : h ∈ provisioned.hosts.items := Store.mem_of_get hget
  exact ⟨h, hmem, hready, (reachable_hosts_inspected _ h hmem).2 hready⟩

-- ---------------------------------------------------------------------------
-- The timeout
-- ---------------------------------------------------------------------------

/-- In every reachable world an Inspecting host has the time its inspection
started, and `handleInspectingHost` times it out exactly when the reconcile
comes more than `DefaultInspectionTimeout` after that time: the report, and
when it came, play no part. -/
theorem inspecting_host_timeout_iff (es : List Event) {h : PhysicalHost} (hmem : h ∈ (run {} es).hosts.items)
    (hstate : h.status.state = .inspecting) :
    ∃ ts, h.status.inspectionTimestamp = some ts ∧ ∀ (env : MachineReconcileEnv) (m : Beskar7Machine),
      ((handleInspectingHost (run {} es) env m h).err = some .inspectionTimeout ↔
        ts * second + DefaultInspectionTimeout < (run {} es).now) := by
  have hs : Inspected h.status := hostsInspected_run es _ h (Store.get_of_mem hmem)
  obtain ⟨ts, hts⟩ := Option.isSome_iff_exists.mp (hs.started_of_inspecting hstate)
  refine ⟨ts, hts, fun env m => ?_⟩
  rw [handleInspectingHost_timeout_iff, hts]
  simp

/-- host-a is PXE-booted at time 0 and its inspection image reports at 9:45,
fifteen seconds before the timeout; machine-a's next reconcile comes at 10:00
and a nanosecond. -/
def lateReconcileRun : List Event :=
  (inspectedRun { providerID := some "b7://default/host-a" }).dropLast ++
    [.tick (9 * minute + 45 * second), .postInspection {} "POST" (some hostAReport),
     .tick (15 * second + 1), .reconcileMachine machineA {} workingBMCs]

/-- Before the last reconcile host-a is Inspecting with phase Complete and a
report received within `DefaultInspectionTimeout` of the inspection's start;
the reconcile returns the timeout and leaves host-a in State Error with
InspectionPhase Timeout. -/
theorem report_in_time_times_out :
    (∃ h ∈ (run {} lateReconcileRun.dropLast).hosts.get hostA,
      h.status.state = .inspecting ∧ h.status.inspectionPhase = .complete ∧
      ∃ r ∈ h.status.inspectionReport, ∃ ts ∈ h.status.inspectionTimestamp,
        r.timestamp * second ≤ ts * second + DefaultInspectionTimeout) ∧
    ((machineReconciler workingBMCs).Reconcile (run {} lateReconcileRun.dropLast) machineA {}).err =
      some .inspectionTimeout ∧
    (∃ h ∈ (run {} lateReconcileRun).hosts.get hostA,
      h.status.state = .error ∧ h.status.inspectionPhase = .timeout) := by
  decide

end Beskar7
