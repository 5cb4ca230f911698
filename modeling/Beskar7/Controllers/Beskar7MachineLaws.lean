import Beskar7.Controllers.Beskar7Machine

/-!
# What one Beskar7Machine reconcile does

A reconcile of a machine makes at most one host write, to a host it read:
a claim, a release, or one of the three status writes of inspection
(`triggerInspection` on an InUse host, the timeout and the validation of an
Inspecting one). `HostWrite` lists them. The machine itself changes only in
memory until the deferred patch; its spec changes only in `handleReadyHost`,
which the reconcile reaches with a host that is Ready, and the one `handle`
effect a reconcile emits names the host it dispatched on, with that host's
state.
-/

namespace Beskar7

-- ---------------------------------------------------------------------------
-- The pieces of the machine
-- ---------------------------------------------------------------------------

@[simp] theorem Beskar7Machine.setStatus_spec (m : Beskar7Machine)
    (f : Beskar7MachineStatus → Beskar7MachineStatus) : (m.setStatus f).spec = m.spec := rfl

@[simp] theorem Beskar7Machine.setStatus_metadata (m : Beskar7Machine)
    (f : Beskar7MachineStatus → Beskar7MachineStatus) : (m.setStatus f).metadata = m.metadata := rfl

@[simp] theorem Beskar7Machine.setStatus_status (m : Beskar7Machine)
    (f : Beskar7MachineStatus → Beskar7MachineStatus) : (m.setStatus f).status = f m.status := rfl

@[simp] theorem Beskar7Machine.setConditions_spec (m : Beskar7Machine) (f : Conditions → Conditions) :
    (m.setConditions f).spec = m.spec := rfl

@[simp] theorem Beskar7Machine.setConditions_metadata (m : Beskar7Machine)
    (f : Conditions → Conditions) : (m.setConditions f).metadata = m.metadata := rfl

@[simp] theorem Beskar7Machine.setConditions_ready (m : Beskar7Machine) (f : Conditions → Conditions) :
    (m.setConditions f).status.ready = m.status.ready := rfl

@[simp] theorem consumerRefFor_setConditions (m : Beskar7Machine) (f : Conditions → Conditions) :
    consumerRefFor (m.setConditions f) = consumerRefFor m := rfl

namespace Beskar7MachineReconciler

@[simp] theorem handleReadyHost_metadata (m : Beskar7Machine) (h : PhysicalHost) :
    (handleReadyHost m h).metadata = m.metadata := by
  unfold handleReadyHost; dsimp only; split <;> split <;> rfl

@[simp] theorem handleReadyHost_providerID (m : Beskar7Machine) (h : PhysicalHost) :
    (handleReadyHost m h).spec.providerID = some (providerID h.metadata.ns h.metadata.name) := by
  unfold handleReadyHost
  dsimp only
  by_cases hsame : m.spec.providerID ≠ some (providerID h.metadata.ns h.metadata.name)
  · rw [if_pos hsame]
    split <;> rfl
  · rw [if_neg hsame]
    split <;> simpa using hsame

@[simp] theorem handleReadyHost_ready (m : Beskar7Machine) (h : PhysicalHost) :
    (handleReadyHost m h).status.ready = true := rfl

/-- `handleReadyHost` changes no part of the spec but the ProviderID. -/
theorem handleReadyHost_hardwareRequirements (m : Beskar7Machine) (h : PhysicalHost) :
    (handleReadyHost m h).spec.hardwareRequirements = m.spec.hardwareRequirements := by
  unfold handleReadyHost; dsimp only; split <;> split <;> rfl

-- ---------------------------------------------------------------------------
-- The host writes
-- ---------------------------------------------------------------------------

/-- The world after the host write of a reconcile of `m`, if it makes one. -/
inductive HostWrite (w : World) (m : Beskar7Machine) : World → Prop
  | unchanged : HostWrite w m w
  | claim {h : PhysicalHost} (hget : w.hosts.get (key h) = some h) (hclaimable : isClaimable h) :
      HostWrite w m (w.updateHost { h with spec := { h.spec with consumerRef := some (consumerRefFor m) } })
  | release {h : PhysicalHost} (hget : w.hosts.get (key h) = some h)
      (hname : h.spec.consumerRef.any (·.name = m.metadata.name)) :
      HostWrite w m (w.updateHost { h with spec := { h.spec with consumerRef := none } })
  | inspect {h : PhysicalHost} (hget : w.hosts.get (key h) = some h)
      (hstate : h.status.state = .inUse) :
      HostWrite w m (w.updateHostStatus { h with status := { h.status with
        state := .inspecting, inspectionPhase := .booting, inspectionTimestamp := some w.metaNow } })
  | timeout {h : PhysicalHost} (hget : w.hosts.get (key h) = some h)
      (hstate : h.status.state = .inspecting) :
      HostWrite w m (w.updateHostStatus { h with status := { h.status with
        inspectionPhase := .timeout, state := .error } })
  | validate {h : PhysicalHost} {report : InspectionReport} (hget : w.hosts.get (key h) = some h)
      (hstate : h.status.state = .inspecting) (hreport : h.status.inspectionReport = some report)
      (hpass : m.spec.hardwareRequirements.bind (checkHardwareRequirements · report) = none) :
      HostWrite w m (w.updateHostStatus { h with status := { h.status with
        state := .ready, conditions := h.status.conditions.markTrue .hostInspected } })

variable {r : Beskar7MachineReconciler} {w : World} {env : MachineReconcileEnv}
  {m : Beskar7Machine} {h : PhysicalHost}

/-- The conditions of the machine do not matter to its host writes. -/
theorem HostWrite.of_setConditions {f : Conditions → Conditions} {w' : World}
    (hw : HostWrite w (m.setConditions f) w') : HostWrite w m w' := by
  cases hw with
  | unchanged => exact .unchanged
  | claim hget hclaimable => exact .claim hget hclaimable
  | release hget hname => exact .release hget hname
  | inspect hget hstate => exact .inspect hget hstate
  | timeout hget hstate => exact .timeout hget hstate
  | validate hget hstate hreport hpass => exact .validate hget hstate hreport hpass

/-- `triggerInspection` changes nothing but the calls it made, or writes the
host Inspecting and the machine's phase; it dispatches nothing. -/
theorem triggerInspection_spec (r : Beskar7MachineReconciler) (w : World)
    (env : MachineReconcileEnv) (m : Beskar7Machine) (h : PhysicalHost) :
    (((r.triggerInspection w env m h).world = w ∧ (r.triggerInspection w env m h).machine = m) ∨
     ((r.triggerInspection w env m h).world = w.updateHostStatus { h with status := { h.status with
        state := .inspecting, inspectionPhase := .booting, inspectionTimestamp := some w.metaNow } } ∧
      (r.triggerInspection w env m h).machine = m.setStatus fun s => { s with phase := some .inspecting })) ∧
    ∀ x ∈ (r.triggerInspection w env m h).effects, x.isHandle = false := by
  unfold triggerInspection
  -- every failure returns the world and the machine as they were
  cases r.getRedfishClientForHost w env h with
  | error e => exact ⟨.inl ⟨rfl, rfl⟩, by simp⟩
  | ok client =>
    dsimp only
    cases client.setBootSourcePXE with
    | error e => exact ⟨.inl ⟨rfl, rfl⟩, by simp [Effect.isHandle]⟩
    | ok _ =>
      dsimp only
      cases client.getPowerState with
      | error e => exact ⟨.inl ⟨rfl, rfl⟩, by simp [Effect.isHandle]⟩
      | ok powerState =>
        dsimp only
        by_cases hon : powerState ≠ OnPowerState
        · rw [if_pos hon]
          dsimp only
          cases client.setPowerState OnPowerState with
          | error e => exact ⟨.inl ⟨rfl, rfl⟩, by simp [Effect.isHandle]⟩
          | ok _ =>
            dsimp only
            split
            · exact ⟨.inl ⟨rfl, rfl⟩, by simp [Effect.isHandle]⟩
            · exact ⟨.inr ⟨rfl, rfl⟩, by simp [Effect.isHandle]⟩
        · rw [if_neg hon]
          dsimp only
          split
          · exact ⟨.inl ⟨rfl, rfl⟩, by simp [Effect.isHandle]⟩
          · exact ⟨.inr ⟨rfl, rfl⟩, by simp [Effect.isHandle]⟩

theorem triggerInspection_world (hget : w.hosts.get (key h) = some h)
    (hstate : h.status.state = .inUse) : HostWrite w m (r.triggerInspection w env m h).world := by
  rcases (triggerInspection_spec r w env m h).1 with ⟨hw, -⟩ | ⟨hw, -⟩
  · rw [hw]; exact .unchanged
  · rw [hw]; exact .inspect hget hstate

/-- `validateInspectionReport` leaves the machine as it is; it writes the host
Ready when the report passes, and nothing otherwise. -/
theorem validateInspectionReport_spec (env : MachineReconcileEnv) (m : Beskar7Machine)
    (hget : w.hosts.get (key h) = some h)
    (hstate : h.status.state = .inspecting) :
    HostWrite w m (validateInspectionReport w env m h).world ∧
    (validateInspectionReport w env m h).machine = m ∧
    ∀ x ∈ (validateInspectionReport w env m h).effects, x.isHandle = false := by
  unfold validateInspectionReport
  split
  · exact ⟨.unchanged, rfl, by simp⟩
  · rename_i report hreport
    split
    · exact ⟨.unchanged, rfl, by simp⟩
    · rename_i hpass
      split
      · exact ⟨.unchanged, rfl, by simp⟩
      · exact ⟨.validate hget hstate hreport hpass, rfl, by simp [Effect.isHandle]⟩

/-- `handleInspectingHost` times the inspection out, validates the report, or
waits; only the wait changes the machine, and only its phase. -/
theorem handleInspectingHost_spec (hget : w.hosts.get (key h) = some h)
    (hstate : h.status.state = .inspecting) :
    HostWrite w m (handleInspectingHost w env m h).world ∧
    ((handleInspectingHost w env m h).machine = m ∨
      (handleInspectingHost w env m h).machine = m.setStatus fun s => { s with phase := some .inspecting }) ∧
    ∀ x ∈ (handleInspectingHost w env m h).effects, x.isHandle = false := by
  unfold handleInspectingHost
  split
  · split
    · exact ⟨.unchanged, .inl rfl, by simp⟩
    · exact ⟨.timeout hget hstate, .inl rfl, by simp [Effect.isHandle]⟩
  · split
    · obtain ⟨hw, hm, he⟩ := validateInspectionReport_spec env m hget hstate
      exact ⟨hw, .inl hm, he⟩
    · exact ⟨.unchanged, .inr rfl, by simp⟩

/-- The validation fails only on a requirement. -/
theorem checkHardwareRequirements_ne_timeout (reqs : HardwareRequirements)
    (report : InspectionReport) : checkHardwareRequirements reqs report ≠ some .inspectionTimeout := by
  unfold checkHardwareRequirements
  dsimp only
  split_ifs <;> simp

theorem validateInspectionReport_err_ne_timeout (w : World) (env : MachineReconcileEnv)
    (m : Beskar7Machine) (h : PhysicalHost) :
    (validateInspectionReport w env m h).err ≠ some .inspectionTimeout := by
  unfold validateInspectionReport
  split
  · simp
  · split
    · rename_i err hcheck
      obtain ⟨reqs, -, hreqs⟩ := Option.bind_eq_some_iff.mp hcheck
      simpa [← hreqs] using checkHardwareRequirements_ne_timeout reqs _
    · split <;> simp

theorem inspectionTimedOut_eq_true_iff (w : World) (h : PhysicalHost) :
    inspectionTimedOut w h = true ↔ ∃ ts, h.status.inspectionTimestamp = some ts ∧
      ts * second + DefaultInspectionTimeout < w.now := by
  unfold inspectionTimedOut
  cases h.status.inspectionTimestamp with
  | none => simp
  | some ts =>
    simp only [decide_eq_true_eq, Option.some.injEq, exists_eq_left', gt_iff_lt]
    exact Nat.lt_sub_iff_add_lt'

/-- `handleInspectingHost` times the inspection out exactly when the
reconcile comes more than `DefaultInspectionTimeout` after the inspection
started: the phase, the report and the time the report came are not read. -/
theorem handleInspectingHost_timeout_iff (w : World) (env : MachineReconcileEnv)
    (m : Beskar7Machine) (h : PhysicalHost) :
    (handleInspectingHost w env m h).err = some .inspectionTimeout ↔
      ∃ ts, h.status.inspectionTimestamp = some ts ∧ ts * second + DefaultInspectionTimeout < w.now := by
  rw [← inspectionTimedOut_eq_true_iff]
  unfold handleInspectingHost
  split
  · simpa
  · rename_i hlate
    split
    · simpa [hlate] using validateInspectionReport_err_ne_timeout w env m h
    · simp [hlate]

theorem handlePhysicalHostState_world (hget : w.hosts.get (key h) = some h) :
    HostWrite w m (r.handlePhysicalHostState w env m h).world := by
  unfold handlePhysicalHostState
  dsimp only
  split
  · exact .unchanged
  · rename_i hstate
    exact (handleInspectingHost_spec hget hstate).1
  · rename_i hstate
    exact triggerInspection_world hget hstate
  · exact .unchanged
  · exact .unchanged

/-- The machine a handler leaves keeps the key and the spec of the one it
was given, and is Ready only if that one was. -/
structure Keeps (m m' : Beskar7Machine) : Prop where
  key_eq : key m' = key m
  spec_eq : m'.spec = m.spec
  ready_of : m'.status.ready = true → m.status.ready = true

theorem Keeps.refl (m : Beskar7Machine) : Keeps m m := ⟨rfl, rfl, id⟩

theorem Keeps.trans {m₁ m₂ m₃ : Beskar7Machine} (h₁ : Keeps m₁ m₂) (h₂ : Keeps m₂ m₃) :
    Keeps m₁ m₃ :=
  ⟨h₂.key_eq.trans h₁.key_eq, h₂.spec_eq.trans h₁.spec_eq, fun h => h₁.ready_of (h₂.ready_of h)⟩

theorem Keeps.setStatus {f : Beskar7MachineStatus → Beskar7MachineStatus}
    (hready : (f m.status).ready = true → m.status.ready = true) : Keeps m (m.setStatus f) :=
  ⟨rfl, rfl, hready⟩

theorem Keeps.setConditions (f : Conditions → Conditions) : Keeps m (m.setConditions f) :=
  ⟨rfl, rfl, id⟩

/-- Only a Ready host makes the machine Ready, through `handleReadyHost`. -/
theorem handlePhysicalHostState_machine (r : Beskar7MachineReconciler) (w : World)
    (env : MachineReconcileEnv) (m : Beskar7Machine) (h : PhysicalHost) :
    (h.status.state = .ready ∧ (r.handlePhysicalHostState w env m h).machine = handleReadyHost m h) ∨
    Keeps m (r.handlePhysicalHostState w env m h).machine := by
  unfold handlePhysicalHostState
  dsimp only
  split
  · rename_i hstate
    exact .inl ⟨hstate, rfl⟩
  · rename_i hstate
    -- the stored host is not needed for what happens to the machine
    unfold handleInspectingHost
    split
    · exact .inr (Keeps.refl m)
    · split
      · unfold validateInspectionReport
        split
        · exact .inr (Keeps.refl m)
        · split
          · exact .inr (Keeps.refl m)
          · split <;> exact .inr (Keeps.refl m)
      · dsimp only
        exact .inr (Keeps.setStatus id)
  · rcases (triggerInspection_spec r w env m h).1 with
      ⟨-, hm⟩ | ⟨-, hm⟩
    · rw [hm]
      exact .inr (Keeps.refl m)
    · rw [hm]
      exact .inr (Keeps.setStatus id)
  · dsimp only
    exact .inr ((Keeps.setConditions _).trans (Keeps.setStatus (by intro h; cases h)))
  · dsimp only
    exact .inr ((Keeps.setConditions _).trans (Keeps.setStatus id))

theorem handle_mem_handlePhysicalHostState_self (r : Beskar7MachineReconciler) (w : World)
    (env : MachineReconcileEnv) (m : Beskar7Machine) (h : PhysicalHost) :
    Effect.handle (key m) (key h) h.status.state ∈ (r.handlePhysicalHostState w env m h).effects := by
  unfold handlePhysicalHostState
  simp

/-- The one `handle` effect names the machine and the host, with the host's state. -/
theorem handle_mem_handlePhysicalHostState {mk hk : ObjectKey} {st : HostState}
    (hget : w.hosts.get (key h) = some h)
    (hmem : Effect.handle mk hk st ∈ (r.handlePhysicalHostState w env m h).effects) :
    mk = key m ∧ hk = key h ∧ st = h.status.state := by
  unfold handlePhysicalHostState at hmem
  dsimp only at hmem
  rcases List.mem_cons.mp hmem with heq | hmem
  · cases heq
    exact ⟨rfl, rfl, rfl⟩
  · -- the handlers below dispatch nothing
    have hnot : ∀ {effs : List Effect}, (∀ x ∈ effs, x.isHandle = false) → Effect.handle mk hk st ∉ effs :=
      fun hall hin => absurd (hall _ hin) (by simp [Effect.isHandle])
    split at hmem
    · simp at hmem
    · rename_i hstate
      exact absurd hmem (hnot (handleInspectingHost_spec hget hstate).2.2)
    · exact absurd hmem (hnot (triggerInspection_spec r w env m h).2)
    · simp at hmem
    · simp at hmem

/-- The status one of the inspection writes of a reconcile of `m` gives a
host whose status was `s`. -/
inductive InspectionWrite (m : Beskar7Machine) (now : MetaTime) (s : PhysicalHostStatus) :
    PhysicalHostStatus → Prop
  | inspect (hstate : s.state = .inUse) :
      InspectionWrite m now s
        { s with state := .inspecting, inspectionPhase := .booting, inspectionTimestamp := some now }
  | timeout (hstate : s.state = .inspecting) :
      InspectionWrite m now s { s with inspectionPhase := .timeout, state := .error }
  | validate {report : InspectionReport} (hstate : s.state = .inspecting)
      (hreport : s.inspectionReport = some report)
      (hpass : m.spec.hardwareRequirements.bind (checkHardwareRequirements · report) = none) :
      InspectionWrite m now s { s with state := .ready, conditions := s.conditions.markTrue .hostInspected }

theorem HostWrite.machines {w' : World} (hw : HostWrite w m w') : w'.machines = w.machines := by
  cases hw <;> simp

/-- After the host write of a reconcile of `m`, a host has the status it had,
or one an inspection write gave it. -/
theorem HostWrite.status {w' : World} (hw : HostWrite w m w') {k : ObjectKey} {h' : PhysicalHost}
    (hmem : h' ∈ w'.hosts.get k) :
    (∃ h ∈ w.hosts.get k, h'.status = h.status) ∨
    ∃ h ∈ w.hosts.get k, InspectionWrite m w.metaNow h.status h'.status := by
  cases hw with
  | unchanged => exact .inl ⟨h', hmem, rfl⟩
  | claim hget hclaimable => exact .inl (World.updateHost_status hmem)
  | release hget hname => exact .inl (World.updateHost_status hmem)
  | inspect hget hstate =>
    rcases World.updateHostStatus_status hmem with hkept | ⟨rfl, -, hs⟩
    · exact .inl hkept
    · exact .inr ⟨_, hget, hs ▸ .inspect hstate⟩
  | timeout hget hstate =>
    rcases World.updateHostStatus_status hmem with hkept | ⟨rfl, -, hs⟩
    · exact .inl hkept
    · exact .inr ⟨_, hget, hs ▸ .timeout hstate⟩
  | validate hget hstate hreport hpass =>
    rcases World.updateHostStatus_status hmem with hkept | ⟨rfl, -, hs⟩
    · exact .inl hkept
    · exact .inr ⟨_, hget, hs ▸ .validate hstate hreport hpass⟩

theorem InspectionWrite.inspectionReport {now : MetaTime} {s s' : PhysicalHostStatus}
    (hw : InspectionWrite m now s s') : s'.inspectionReport = s.inspectionReport := by
  cases hw <;> rfl

/-- Only a validation that passes makes a host Ready, and the host was Inspecting. -/
theorem InspectionWrite.ready {now : MetaTime} {s s' : PhysicalHostStatus}
    (hw : InspectionWrite m now s s') (hready : s'.state = .ready) :
    s.state = .inspecting ∧ ∃ report, s.inspectionReport = some report ∧
      m.spec.hardwareRequirements.bind (checkHardwareRequirements · report) = none := by
  cases hw with
  | inspect hstate => cases hready
  | timeout hstate => cases hready
  | validate hstate hreport hpass => exact ⟨hstate, _, hreport, hpass⟩

/-- A host that is Ready, or Available, is written by no inspection. -/
theorem InspectionWrite.state {now : MetaTime} {s s' : PhysicalHostStatus}
    (hw : InspectionWrite m now s s') : s.state = .inUse ∨ s.state = .inspecting := by
  cases hw with
  | inspect hstate => exact .inl hstate
  | timeout hstate => exact .inr hstate
  | validate hstate => exact .inr hstate

-- ---------------------------------------------------------------------------
-- Finding the host, and releasing it
-- ---------------------------------------------------------------------------

open GoString in
/-- The ProviderID path finds a stored host in the machine's own namespace. -/
theorem hostByProviderID_get (hfound : hostByProviderID w env m = some h) :
    w.hosts.get (key h) = some h ∧ h.metadata.ns = m.metadata.ns := by
  unfold hostByProviderID at hfound
  split at hfound
  · split at hfound
    · cases hfound
    · split at hfound
      · rename_i ns name hparse
        split at hfound
        · rename_i hns
          obtain ⟨hget, hbytes⟩ := World.getHostBytes_get hfound
          exact ⟨hget, bytes_inj (hbytes.trans hns.1)⟩
        · cases hfound
      · cases hfound
  · cases hfound

theorem findAndClaim_world : HostWrite w m (findAndClaimOrGetAssociatedHost w env m).world := by
  unfold findAndClaimOrGetAssociatedHost
  split
  · exact .unchanged
  · split
    · exact .unchanged
    · split
      · exact .unchanged
      · rename_i host hfind
        have hmem := World.mem_listHosts.mp (List.mem_of_find?_eq_some hfind)
        have hclaimable : isClaimable host := by simpa using List.find?_some hfind
        split
        · exact .unchanged
        · exact .claim (Store.get_of_mem hmem.1) hclaimable

/-- A claim returns a requeue; so when the result is zero, the world is as
it was and the host came from the ProviderID path. -/
theorem findAndClaim_of_isZero
    (hzero : (findAndClaimOrGetAssociatedHost w env m).result.isZero = true) :
    (findAndClaimOrGetAssociatedHost w env m).world = w ∧
    ∀ host ∈ (findAndClaimOrGetAssociatedHost w env m).host,
      w.hosts.get (key host) = some host ∧ host.metadata.ns = m.metadata.ns := by
  unfold findAndClaimOrGetAssociatedHost at hzero ⊢
  split
  · rename_i host hfound
    exact ⟨rfl, fun h' hh' => by cases hh'; exact hostByProviderID_get hfound⟩
  · split
    · exact ⟨rfl, fun _ hh' => by cases hh'⟩
    · split
      · exact ⟨rfl, fun _ hh' => by cases hh'⟩
      · split
        · exact ⟨rfl, fun _ hh' => by cases hh'⟩
        · rename_i hnone _ _ _ _
          simp_all [Result.isZero, second]

theorem findAndClaim_effects :
    ∀ x ∈ (findAndClaimOrGetAssociatedHost w env m).effects, x.isHandle = false := by
  unfold findAndClaimOrGetAssociatedHost
  split
  · simp
  · split
    · simp
    · split
      · simp
      · split <;> simp [Effect.isHandle]

/-- Without a ProviderID only the claim path runs: it writes at most the
claim, and a host it returns was just claimed, with the claim's requeue. -/
theorem findAndClaim_of_no_providerID (hpath : hostByProviderID w env m = none) :
    (∀ x ∈ (findAndClaimOrGetAssociatedHost w env m).effects, ∃ hk, x = .writeHostSpec hk) ∧
    ((findAndClaimOrGetAssociatedHost w env m).host.isSome →
      (findAndClaimOrGetAssociatedHost w env m).result.isZero = false) := by
  unfold findAndClaimOrGetAssociatedHost
  rw [hpath]
  dsimp only
  split
  · simp
  · split
    · simp
    · split
      · simp
      · simp [Result.isZero, second]

theorem reconcileDelete_world : HostWrite w m (reconcileDelete w env m).world := by
  unfold reconcileDelete
  dsimp only
  split
  · exact .unchanged
  · rename_i w' effects hreleased
    -- the release is the only write, and only of a host the name matches
    repeat' split at hreleased
    all_goals first
      | (cases hreleased; done)
      | (cases hreleased; exact .unchanged)
      | skip
    rename_i host hfound hname _
    obtain ⟨rfl, -⟩ := Prod.mk.inj (Option.some.inj hreleased)
    obtain ⟨ns, name, hget⟩ : ∃ ns name, w.getHostBytes ns name = some host := by
      split at hfound
      · cases hfound
      · exact ⟨_, _, hfound⟩
    exact .release (World.getHostBytes_get hget).1 hname

theorem reconcileNormal_world : HostWrite w m (r.reconcileNormal w env m).world := by
  unfold reconcileNormal
  split
  · exact .unchanged
  · dsimp only
    split
    · exact findAndClaim_world
    · exact findAndClaim_world
    · rename_i host herr hhost
      split
      · exact findAndClaim_world
      · rename_i hzero
        -- no claim was made: the host is handled in the world as it was
        obtain ⟨hw, hfound⟩ := findAndClaim_of_isZero (by simpa using hzero)
        have hget := (hfound host (by simp [hhost])).1
        rw [hw]
        exact (handlePhysicalHostState_world hget).of_setConditions

/-- What `reconcileNormal` leaves of the machine: it kept it, or the host the
ProviderID names was Ready and `handleReadyHost` ran, dispatching on it. -/
theorem reconcileNormal_machine :
    Keeps m (r.reconcileNormal w env m).machine ∨
    ∃ host, w.hosts.get (key host) = some host ∧ host.metadata.ns = m.metadata.ns ∧
      host.status.state = .ready ∧
      (r.reconcileNormal w env m).machine =
        handleReadyHost (m.setConditions (·.markTrue .physicalHostAssociated)) host ∧
      Effect.handle (key m) (key host) .ready ∈ (r.reconcileNormal w env m).effects := by
  unfold reconcileNormal
  split
  · -- the finalizer is added: only the metadata changes, not the key
    exact .inl ⟨by simp [Beskar7Machine.key_def], rfl, id⟩
  · dsimp only
    split
    · dsimp only
      exact .inl (Keeps.setConditions _)
    · dsimp only
      exact .inl (Keeps.setConditions _)
    · rename_i host herr hhost
      split
      · dsimp only
        exact .inl (Keeps.setConditions _)
      · rename_i hzero
        obtain ⟨hw, hfound⟩ := findAndClaim_of_isZero (by simpa using hzero)
        obtain ⟨hget, hns⟩ := hfound host (by simp [hhost])
        rcases handlePhysicalHostState_machine r (findAndClaimOrGetAssociatedHost w env m).world env
            (m.setConditions (·.markTrue .physicalHostAssociated)) host with
          ⟨hready, hm⟩ | hkeep
        · refine .inr ⟨host, hget, hns, hready, hm, List.mem_append_right _ ?_⟩
          have hself := handle_mem_handlePhysicalHostState_self r
            (findAndClaimOrGetAssociatedHost w env m).world env
            (m.setConditions (·.markTrue .physicalHostAssociated)) host
          rwa [hready] at hself
        · exact .inl ((Keeps.setConditions _).trans hkeep)

/-- A `handle` effect of `reconcileNormal` names the machine and a stored
host, with its state. -/
theorem handle_mem_reconcileNormal {mk hk : ObjectKey} {st : HostState}
    (hmem : Effect.handle mk hk st ∈ (r.reconcileNormal w env m).effects) :
    mk = key m ∧ ∃ host, w.hosts.get hk = some host ∧ host.status.state = st := by
  have hfind : Effect.handle mk hk st ∉ (findAndClaimOrGetAssociatedHost w env m).effects :=
    fun h => absurd (findAndClaim_effects _ h) (by simp [Effect.isHandle])
  unfold reconcileNormal at hmem
  split at hmem
  · simp at hmem
  · dsimp only at hmem
    split at hmem
    · exact absurd hmem hfind
    · exact absurd hmem hfind
    · rename_i host herr hhost
      split at hmem
      · exact absurd hmem hfind
      · rename_i hzero
        rcases List.mem_append.mp hmem with hmem | hmem
        · exact absurd hmem hfind
        · obtain ⟨hw, hfound⟩ := findAndClaim_of_isZero (by simpa using hzero)
          obtain ⟨hget, -⟩ := hfound host (by simp [hhost])
          rw [hw] at hmem
          obtain ⟨rfl, rfl, rfl⟩ := handle_mem_handlePhysicalHostState hget hmem
          exact ⟨rfl, host, hget, rfl⟩

/-- On the ProviderID path `reconcileNormal` dispatches on the host the
ProviderID names: nothing on the path reads the host's ConsumerRef. -/
theorem handle_mem_reconcileNormal_of_providerID {h : PhysicalHost}
    (hfin : Beskar7MachineFinalizer ∈ m.metadata.finalizers) (hfound : hostByProviderID w env m = some h) :
    Effect.handle (key m) (key h) h.status.state ∈ (r.reconcileNormal w env m).effects := by
  have hfind : findAndClaimOrGetAssociatedHost w env m = { world := w, host := some h } := by
    unfold findAndClaimOrGetAssociatedHost
    rw [hfound]
  have hself := handle_mem_handlePhysicalHostState_self r w env
    (m.setConditions (·.markTrue .physicalHostAssociated)) h
  unfold reconcileNormal
  rw [if_neg (not_not.mpr hfin)]
  -- the ProviderID path returns no requeue, so the host is handled at once
  simpa [hfind, Result.isZero, Beskar7Machine.key_def] using hself

/-- Without a ProviderID `reconcileNormal` writes at most a claim and acts on
no host: a claim returns its requeue before `handlePhysicalHostState`. -/
theorem reconcileNormal_effects_of_no_providerID (hnone : m.spec.providerID = none) :
    ∀ x ∈ (r.reconcileNormal w env m).effects, ∃ hk, x = .writeHostSpec hk := by
  have hpath : hostByProviderID w env m = none := by simp [hostByProviderID, hnone]
  obtain ⟨hclaim, hrequeue⟩ := findAndClaim_of_no_providerID hpath
  unfold reconcileNormal
  split
  · simp
  · dsimp only
    split
    · exact hclaim
    · exact hclaim
    · rename_i host herr hhost
      split
      · exact hclaim
      · rename_i hzero
        -- a host it returns was just claimed, so the result is not zero
        exact absurd (hrequeue (by simp [hhost])) (by simpa using hzero)

theorem reconcileDelete_machine : Keeps m (reconcileDelete w env m).machine := by
  unfold reconcileDelete
  dsimp only
  split
  · exact Keeps.refl m
  · exact ⟨rfl, rfl, id⟩

theorem reconcileDelete_effects : ∀ x ∈ (reconcileDelete w env m).effects, x.isHandle = false := by
  unfold reconcileDelete
  dsimp only
  split
  · simp
  · rename_i w' effects hreleased
    -- the release reports only the spec write
    repeat' split at hreleased
    all_goals (cases hreleased <;> simp [Effect.isHandle])

/-- Without a ProviderID a deletion releases nothing. -/
theorem reconcileDelete_of_no_providerID (hnone : m.spec.providerID = none) :
    (reconcileDelete w env m).world = w ∧ (reconcileDelete w env m).effects = [] := by
  unfold reconcileDelete
  simp [hnone]

-- ---------------------------------------------------------------------------
-- The whole reconcile
-- ---------------------------------------------------------------------------

/-- A reconcile of the machine at `k` does nothing, or runs on the stored
machine `reconcileDelete`, once its deletion is requested, or
`reconcileNormal`, and then patches the machine the handler leaves, or fails
to. -/
theorem Reconcile_cases_handler (r : Beskar7MachineReconciler) (w : World) (env : MachineReconcileEnv)
    (k : ObjectKey) :
    ((r.Reconcile w k env).world = w ∧ (r.Reconcile w k env).effects = []) ∨
    ∃ m, w.machines.get k = some m ∧ ∃ out : Handled,
      out = (if m.metadata.deletionTimestamp.isSome then reconcileDelete w env m else r.reconcileNormal w env m) ∧
      ((r.Reconcile w k env).world = out.world ∨
        (r.Reconcile w k env).world = out.world.patchMachine out.machine) ∧
      (r.Reconcile w k env).effects = out.effects := by
  unfold Reconcile
  split
  · exact .inl ⟨rfl, rfl⟩
  · split
    · exact .inl ⟨rfl, rfl⟩
    · rename_i m hget
      split
      · exact .inl ⟨rfl, rfl⟩
      · split
        · exact .inl ⟨rfl, rfl⟩
        · exact .inl ⟨rfl, rfl⟩
        · exact .inl ⟨rfl, rfl⟩
        · exact .inl ⟨rfl, rfl⟩
        · exact .inl ⟨rfl, rfl⟩
        · refine .inr ⟨m, hget, _, rfl, ?_, ?_⟩
          · dsimp only
            split
            · exact .inl rfl
            · exact .inr rfl
          · dsimp only
            split <;> rfl

/-- A reconcile of the machine at `k` does nothing, or runs `reconcileDelete`
or `reconcileNormal` on the stored machine and then patches the machine they
leave, or fails to. -/
theorem Reconcile_cases (r : Beskar7MachineReconciler) (w : World) (env : MachineReconcileEnv)
    (k : ObjectKey) :
    ((r.Reconcile w k env).world = w ∧ (r.Reconcile w k env).effects = []) ∨
    ∃ m, w.machines.get k = some m ∧ ∃ out : Handled,
      (out = reconcileDelete w env m ∨ out = r.reconcileNormal w env m) ∧
      ((r.Reconcile w k env).world = out.world ∨
        (r.Reconcile w k env).world = out.world.patchMachine out.machine) ∧
      (r.Reconcile w k env).effects = out.effects := by
  rcases Reconcile_cases_handler r w env k with h | ⟨m, hget, out, hout, hw, he⟩
  · exact .inl h
  · refine .inr ⟨m, hget, out, ?_, hw, he⟩
    rw [hout]
    split
    · exact .inl rfl
    · exact .inr rfl

/-- `Reconcile_cases_handler` for the machine stored at `k`. -/
theorem Reconcile_cases_of_get (r : Beskar7MachineReconciler) (env : MachineReconcileEnv) {k : ObjectKey}
    (hget : w.machines.get k = some m) :
    ((r.Reconcile w k env).world = w ∧ (r.Reconcile w k env).effects = []) ∨
    ∃ out : Handled,
      out = (if m.metadata.deletionTimestamp.isSome then reconcileDelete w env m else r.reconcileNormal w env m) ∧
      ((r.Reconcile w k env).world = out.world ∨
        (r.Reconcile w k env).world = out.world.patchMachine out.machine) ∧
      (r.Reconcile w k env).effects = out.effects := by
  rcases Reconcile_cases_handler r w env k with h | ⟨m', hget', out, hout, hw, he⟩
  · exact .inl h
  · -- the handler ran on the machine stored at `k`
    obtain rfl : m = m' := Option.some.inj (hget.symm.trans hget')
    exact .inr ⟨out, hout, hw, he⟩

/-- A reconcile of a stored machine, not paused, whose owner and cluster are
found, reports the effects of its handler. -/
theorem Reconcile_effects_of_ready {k : ObjectKey} (hget : w.machines.get k = some m)
    (hfails : env.getFails = false) (hpaused : isPaused m.metadata = false) (hprelude : env.prelude = .ready) :
    (r.Reconcile w k env).effects =
      (if m.metadata.deletionTimestamp.isSome then reconcileDelete w env m else r.reconcileNormal w env m).effects := by
  unfold Reconcile
  simp only [hfails, hget, hpaused, hprelude, Bool.false_eq_true, if_false]
  split <;> rfl

/-- The hosts after a reconcile of the machine at `k`: at most one write, of
the stored machine. -/
theorem Reconcile_hosts (k : ObjectKey) :
    (r.Reconcile w k env).world.hosts = w.hosts ∨
    ∃ m, w.machines.get k = some m ∧ ∃ w', HostWrite w m w' ∧ (r.Reconcile w k env).world.hosts = w'.hosts := by
  rcases Reconcile_cases r w env k with ⟨hw, -⟩ | ⟨m, hget, out, hout, hw, -⟩
  · exact .inl (by rw [hw])
  · have hwrite : HostWrite w m out.world := by
      rcases hout with rfl | rfl
      · exact reconcileDelete_world
      · exact reconcileNormal_world
    refine .inr ⟨m, hget, out.world, hwrite, ?_⟩
    rcases hw with hw | hw <;> simp [hw]

/-- A `handle` effect of a reconcile of the machine at `k` names `k` and a
stored host, with its state. -/
theorem handle_mem_Reconcile {k mk hk : ObjectKey} {st : HostState}
    (hmem : Effect.handle mk hk st ∈ (r.Reconcile w k env).effects) :
    mk = k ∧ ∃ host, w.hosts.get hk = some host ∧ host.status.state = st := by
  rcases Reconcile_cases r w env k with ⟨-, he⟩ | ⟨m, hget, out, hout, -, he⟩
  · simp [he] at hmem
  · rw [he] at hmem
    rcases hout with rfl | rfl
    · exact absurd (reconcileDelete_effects _ hmem) (by simp [Effect.isHandle])
    · obtain ⟨rfl, hhost⟩ := handle_mem_reconcileNormal hmem
      exact ⟨Store.key_of_get hget, hhost⟩

-- ---------------------------------------------------------------------------
-- What the handlers emit
-- ---------------------------------------------------------------------------

/-- The effects of the handlers of a machine reconcile, the dispatch on the
host's state apart: a claim or a release, the inspection's status writes,
and the calls of `triggerInspection` to the host's BMC. -/
inductive MachineEffect : Effect → Prop
  | writeHostSpec (k : ObjectKey) : MachineEffect (.writeHostSpec k)
  | writeHostStatus (k : ObjectKey) : MachineEffect (.writeHostStatus k)
  | setBootSourcePXE (k : ObjectKey) : MachineEffect (.redfish k .setBootSourcePXE)
  | getPowerState (k : ObjectKey) : MachineEffect (.redfish k .getPowerState)
  | powerOn (k : ObjectKey) : MachineEffect (.redfish k (.setPowerState OnPowerState))

attribute [simp] MachineEffect.writeHostSpec MachineEffect.writeHostStatus
  MachineEffect.setBootSourcePXE MachineEffect.getPowerState MachineEffect.powerOn

theorem triggerInspection_machineEffects :
    ∀ x ∈ (r.triggerInspection w env m h).effects, MachineEffect x := by
  unfold triggerInspection
  -- one case per call that can fail, as in `triggerInspection_spec`
  cases r.getRedfishClientForHost w env h with
  | error e => simp
  | ok client =>
    dsimp only
    cases client.setBootSourcePXE with
    | error e => simp
    | ok _ =>
      dsimp only
      cases client.getPowerState with
      | error e => simp
      | ok powerState =>
        dsimp only
        by_cases hon : powerState ≠ OnPowerState
        · rw [if_pos hon]
          dsimp only
          cases client.setPowerState OnPowerState with
          | error e => simp
          | ok _ => dsimp only; split <;> simp
        · rw [if_neg hon]
          dsimp only
          split <;> simp

theorem validateInspectionReport_machineEffects :
    ∀ x ∈ (validateInspectionReport w env m h).effects, MachineEffect x := by
  unfold validateInspectionReport
  split
  · simp
  · split
    · simp
    · split <;> simp

theorem handleInspectingHost_machineEffects :
    ∀ x ∈ (handleInspectingHost w env m h).effects, MachineEffect x := by
  unfold handleInspectingHost
  split
  · split <;> simp
  · split
    · exact validateInspectionReport_machineEffects
    · simp

/-- `handlePhysicalHostState` emits its dispatch and what the handler emits. -/
theorem handlePhysicalHostState_machineEffects :
    ∀ x ∈ (r.handlePhysicalHostState w env m h).effects,
      x = .handle (key m) (key h) h.status.state ∨ MachineEffect x := by
  unfold handlePhysicalHostState
  intro x hx
  rcases List.mem_cons.mp hx with rfl | hx
  · exact .inl rfl
  · right
    split at hx
    · simp at hx
    · exact handleInspectingHost_machineEffects x hx
    · exact triggerInspection_machineEffects x hx
    · simp at hx
    · simp at hx

theorem findAndClaim_machineEffects :
    ∀ x ∈ (findAndClaimOrGetAssociatedHost w env m).effects, MachineEffect x := by
  unfold findAndClaimOrGetAssociatedHost
  split
  · simp
  · split
    · simp
    · split
      · simp
      · split <;> simp

theorem reconcileDelete_machineEffects : ∀ x ∈ (reconcileDelete w env m).effects, MachineEffect x := by
  unfold reconcileDelete
  dsimp only
  split
  · simp
  · rename_i w' effects hreleased
    -- the release reports only the spec write
    repeat' split at hreleased
    all_goals (cases hreleased <;> simp)

theorem reconcileNormal_machineEffects :
    ∀ x ∈ (r.reconcileNormal w env m).effects, (∃ mk hk st, x = .handle mk hk st) ∨ MachineEffect x := by
  unfold reconcileNormal
  intro x hx
  split at hx
  · simp at hx
  · dsimp only at hx
    split at hx
    · exact .inr (findAndClaim_machineEffects x hx)
    · exact .inr (findAndClaim_machineEffects x hx)
    · split at hx
      · exact .inr (findAndClaim_machineEffects x hx)
      · rcases List.mem_append.mp hx with hx | hx
        · exact .inr (findAndClaim_machineEffects x hx)
        · rcases handlePhysicalHostState_machineEffects x hx with rfl | hx
          · exact .inl ⟨_, _, _, rfl⟩
          · exact .inr hx

/-- A reconcile of a machine emits dispatches and the handlers' effects. -/
theorem Reconcile_machineEffects (r : Beskar7MachineReconciler) (w : World)
    (env : MachineReconcileEnv) (k : ObjectKey) :
    ∀ x ∈ (r.Reconcile w k env).effects, (∃ mk hk st, x = .handle mk hk st) ∨ MachineEffect x := by
  intro x hx
  rcases Reconcile_cases r w env k with ⟨-, he⟩ | ⟨m, -, out, hout, -, he⟩
  · simp [he] at hx
  · rw [he] at hx
    rcases hout with rfl | rfl
    · exact .inr (reconcileDelete_machineEffects x hx)
    · exact reconcileNormal_machineEffects x hx

end Beskar7MachineReconciler

end Beskar7
