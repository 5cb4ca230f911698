import Beskar7.System.Readiness

/-!
# What the hardware validation accepts

`checkHardwareRequirements` sums the cores, the memory and the disk sizes
of a report in Go's 64-bit `int`, over values the inspection endpoint copies
unchecked from the request body, and reads each memory capacity as the
integer it starts with, whatever unit follows. Two reports that do not meet
the requirements therefore pass: a 16 GB module reported as "16384MB"
counts as 16384 GB, and core counts whose sum wraps around the 64-bit range
can add up to the minimum (`undersized_hosts_pass_validation`).

What the check does establish is that the sums it computes reach the
minimums; when no entry is negative and the true totals stay below 2^63,
those sums are the true ones (`foldl_add_toInt`), so the cores and the disk
space are then checked as intended (`checkHardwareRequirements_sound`).
-/

namespace Beskar7

-- ---------------------------------------------------------------------------
-- The sums without overflow
-- ---------------------------------------------------------------------------

/-- A 64-bit sum of entries that are not negative is the true sum as long as
the true sum stays below 2^63. -/
theorem foldl_add_toInt {α : Type} (f : α → Int64) :
    ∀ (l : List α) (acc : Int64), 0 ≤ acc.toInt → (∀ x ∈ l, 0 ≤ (f x).toInt) →
      acc.toInt + (l.map fun x => (f x).toInt).sum < 2 ^ 63 →
      (l.foldl (fun total x => total + f x) acc).toInt = acc.toInt + (l.map fun x => (f x).toInt).sum
  | [], acc, _, _, _ => by simp
  | x :: l, acc, hacc, hnonneg, hbound => by
    have hx := hnonneg x List.mem_cons_self
    have hrest : 0 ≤ (l.map fun x => (f x).toInt).sum :=
      List.sum_nonneg (by simpa using fun y hy => hnonneg y (List.mem_cons_of_mem _ hy))
    simp only [List.map_cons, List.sum_cons] at hbound
    -- the partial sum is in range, so the addition does not wrap
    have hstep : (acc + f x).toInt = acc.toInt + (f x).toInt := by
      rw [Int64.toInt_add]
      apply Int.bmod_eq_of_le <;> omega
    rw [List.foldl_cons, foldl_add_toInt f l (acc + f x) (by omega)
      (fun y hy => hnonneg y (List.mem_cons_of_mem _ hy)) (by omega), hstep, List.map_cons,
      List.sum_cons]
    omega

/-- When the check passes, no core count or disk size is negative and the
true totals stay below 2^63, the host has at least the cores and the disk
space required. -/
theorem checkHardwareRequirements_sound {reqs : HardwareRequirements} {report : InspectionReport}
    (hpass : checkHardwareRequirements reqs report = none)
    (hcores : ∀ cpu ∈ report.cpus, 0 ≤ cpu.cores.toInt)
    (hcoresSum : (report.cpus.map (·.cores.toInt)).sum < 2 ^ 63)
    (hdisks : ∀ disk ∈ report.disks, 0 ≤ disk.sizeGB.toInt)
    (hdisksSum : (report.disks.map (·.sizeGB.toInt)).sum < 2 ^ 63) :
    (0 < reqs.minCPUCores.toInt → reqs.minCPUCores.toInt ≤ (report.cpus.map (·.cores.toInt)).sum) ∧
    (0 < reqs.minDiskGB.toInt → reqs.minDiskGB.toInt ≤ (report.disks.map (·.sizeGB.toInt)).sum) := by
  have htotalCores := foldl_add_toInt (·.cores) report.cpus 0 (by simp) hcores (by simpa using hcoresSum)
  have htotalDisk := foldl_add_toInt (·.sizeGB) report.disks 0 (by simp) hdisks (by simpa using hdisksSum)
  simp only [Int64.toInt_zero, Int.zero_add] at htotalCores htotalDisk
  unfold checkHardwareRequirements at hpass
  dsimp only at hpass
  simp only [gt_iff_lt, Int64.lt_iff_toInt_lt, Int64.toInt_zero] at hpass
  have coresMet (hcpu : ¬(0 < reqs.minCPUCores.toInt ∧ (report.cpus.foldl (fun total (cpu : CPUInfo) =>
      total + cpu.cores) 0).toInt < reqs.minCPUCores.toInt)) (hmin : 0 < reqs.minCPUCores.toInt) :
      reqs.minCPUCores.toInt ≤ (report.cpus.map (·.cores.toInt)).sum := by
    rw [← htotalCores]
    exact Int.not_lt.mp fun hlt => hcpu ⟨hmin, hlt⟩
  -- the check passes with a disk requirement it finds met, or without one
  split_ifs at hpass with hcpu hmem hdisk hshort
  · refine ⟨coresMet hcpu, fun _ => ?_⟩
    rw [← htotalDisk]
    exact Int.not_lt.mp hshort
  · exact ⟨coresMet hcpu, fun hmin => absurd hmin hdisk⟩

/-- Four cores and 150 GB of disk required. -/
def fourCoreRequirements : HardwareRequirements := { minCPUCores := 4, minDiskGB := 150 }

/-- Two CPUs of two cores and two disks of 100 GB. -/
def fourCoreReport : InspectionReport :=
  { timestamp := 0, cpus := [{ cores := 2 }, { cores := 2 }], disks := [{ sizeGB := 100 }, { sizeGB := 100 }] }

theorem four_core_report_meets_requirements :
    checkHardwareRequirements fourCoreRequirements fourCoreReport = none ∧
    (0 < fourCoreRequirements.minCPUCores.toInt →
      fourCoreRequirements.minCPUCores.toInt ≤ (fourCoreReport.cpus.map (·.cores.toInt)).sum) ∧
    (0 < fourCoreRequirements.minDiskGB.toInt →
      fourCoreRequirements.minDiskGB.toInt ≤ (fourCoreReport.disks.map (·.sizeGB.toInt)).sum) :=
  ⟨by decide, checkHardwareRequirements_sound (by decide) (by decide) (by decide) (by decide) (by decide)⟩

-- ---------------------------------------------------------------------------
-- Two undersized hosts
-- ---------------------------------------------------------------------------

/-- A report from host-a, sent where `inspectedRun` sends its own, and
machine-a's reconcile after it. -/
def validatedRun (spec : Beskar7MachineSpec) (report : InspectionReportRequest) : List Event :=
  (inspectedRun spec).dropLast ++
    [.postInspection {} "POST" (some report), .reconcileMachine machineA {} workingBMCs]

/-- machine-a requires 32 GB of memory. -/
def memorySpec : Beskar7MachineSpec :=
  { providerID := some "b7://default/host-a", hardwareRequirements := some { minMemoryGB := 32 } }

/-- One 16 GB module, its capacity given in megabytes. -/
def megabyteReport : InspectionReportRequest :=
  { ns := hostA.ns, hostName := hostA.name, memory := [{ capacity := "16384MB" }] }

/-- machine-a requires eight cores. -/
def coresSpec : Beskar7MachineSpec :=
  { providerID := some "b7://default/host-a", hardwareRequirements := some { minCPUCores := 8 } }

/-- Two CPUs of -2^63 cores and one of eight: the sum wraps around to eight. -/
def wrappingReport : InspectionReportRequest :=
  { ns := hostA.ns, hostName := hostA.name,
    cpus := [{ cores := -9223372036854775808 }, { cores := -9223372036854775808 }, { cores := 8 }] }

/-- Both reports fall short of machine-a's requirement, the first by its
unit and the second in unbounded integers, and both make host-a Ready. -/
theorem undersized_hosts_pass_validation :
    (megabyteReport.memory.map (·.capacity) = ["16384MB"] ∧
      ∃ h ∈ (run {} (validatedRun memorySpec megabyteReport)).hosts.get hostA,
        h.status.state = .ready) ∧
    ((wrappingReport.cpus.map (·.cores.toInt)).sum < 8 ∧
      ∃ h ∈ (run {} (validatedRun coresSpec wrappingReport)).hosts.get hostA,
        h.status.state = .ready) := by
  decide

end Beskar7
