import Beskar7.Controllers.PhysicalHost

/-!
# What one PhysicalHost reconcile does

A reconcile of the host at `k` makes at most one write, to that host: its
finalizers (the status is kept), or its status. A status write either marks
the connection failed, State Error, when the reconcile did not get through
credentials, client and `GetSystemInfo`, or records what the BMC said and
sets State from the ConsumerRef. `Outcome` lists these; the rest of the
development reasons about a PhysicalHost reconcile through it.

On the states: a reconcile that reaches the BMC keeps a claimed host that
is Ready, Ready, and no reconcile makes a host Ready that was not.
-/

namespace Beskar7

-- ---------------------------------------------------------------------------
-- The pieces of the status
-- ---------------------------------------------------------------------------

@[simp] theorem updateStatus_state (ph : PhysicalHost) (state : HostState) (ready : Bool) :
    (updateStatus ph state ready).status.state = state := rfl

@[simp] theorem updateStatus_inspectionReport (ph : PhysicalHost) (state : HostState)
    (ready : Bool) :
    (updateStatus ph state ready).status.inspectionReport = ph.status.inspectionReport := rfl

@[simp] theorem updateStatus_spec (ph : PhysicalHost) (state : HostState) (ready : Bool) :
    (updateStatus ph state ready).spec = ph.spec := rfl

@[simp] theorem PhysicalHost.setConditions_state (ph : PhysicalHost) (f : Conditions → Conditions) :
    (ph.setConditions f).status.state = ph.status.state := rfl

@[simp] theorem PhysicalHost.setConditions_inspectionReport (ph : PhysicalHost)
    (f : Conditions → Conditions) :
    (ph.setConditions f).status.inspectionReport = ph.status.inspectionReport := rfl

@[simp] theorem PhysicalHost.setConditions_metadata (ph : PhysicalHost) (f : Conditions → Conditions) :
    (ph.setConditions f).metadata = ph.metadata := rfl

@[simp] theorem PhysicalHost.setConditions_spec (ph : PhysicalHost) (f : Conditions → Conditions) :
    (ph.setConditions f).spec = ph.spec := rfl

@[simp] theorem markConnectionFailed_state (ph : PhysicalHost) (reason : String) :
    (markConnectionFailed ph reason).status.state = .error := rfl

@[simp] theorem markConnectionFailed_inspectionReport (ph : PhysicalHost) (reason : String) :
    (markConnectionFailed ph reason).status.inspectionReport = ph.status.inspectionReport := rfl

@[simp] theorem markConnectionFailed_metadata (ph : PhysicalHost) (reason : String) :
    (markConnectionFailed ph reason).metadata = ph.metadata := rfl

-- What the BMC reports changes neither the state nor the report.

@[simp] theorem recordSystem_metadata (ph : PhysicalHost) (sysInfo : SystemInfo) (client : Client) :
    (recordSystem ph sysInfo client).metadata = ph.metadata := by
  unfold recordSystem; split <;> split <;> rfl

@[simp] theorem recordSystem_spec (ph : PhysicalHost) (sysInfo : SystemInfo) (client : Client) :
    (recordSystem ph sysInfo client).spec = ph.spec := by
  unfold recordSystem; split <;> split <;> rfl

@[simp] theorem recordSystem_state (ph : PhysicalHost) (sysInfo : SystemInfo) (client : Client) :
    (recordSystem ph sysInfo client).status.state = ph.status.state := by
  unfold recordSystem; split <;> split <;> rfl

@[simp] theorem recordSystem_inspectionReport (ph : PhysicalHost) (sysInfo : SystemInfo)
    (client : Client) :
    (recordSystem ph sysInfo client).status.inspectionReport = ph.status.inspectionReport := by
  unfold recordSystem; split <;> split <;> rfl

@[simp] theorem stateFromConsumerRef_metadata (ph : PhysicalHost) :
    (stateFromConsumerRef ph).metadata = ph.metadata := by
  unfold stateFromConsumerRef; split <;> split <;> rfl

@[simp] theorem stateFromConsumerRef_spec (ph : PhysicalHost) :
    (stateFromConsumerRef ph).spec = ph.spec := by
  unfold stateFromConsumerRef; split <;> split <;> rfl

@[simp] theorem stateFromConsumerRef_inspectionReport (ph : PhysicalHost) :
    (stateFromConsumerRef ph).status.inspectionReport = ph.status.inspectionReport := by
  unfold stateFromConsumerRef; split <;> split <;> rfl

/-- A claimed host that is Ready stays Ready. -/
theorem stateFromConsumerRef_ready {ph : PhysicalHost} (hclaimed : ph.spec.consumerRef.isSome)
    (hready : ph.status.state = .ready) : (stateFromConsumerRef ph).status.state = .ready := by
  obtain ⟨ref, href⟩ := Option.isSome_iff_exists.mp hclaimed
  simp [stateFromConsumerRef, href, hready]

/-- The state is InUse or Available unless it was kept. -/
theorem stateFromConsumerRef_state (ph : PhysicalHost) :
    (stateFromConsumerRef ph).status.state = ph.status.state ∨
    (stateFromConsumerRef ph).status.state = .inUse ∨
    (stateFromConsumerRef ph).status.state = .available := by
  unfold stateFromConsumerRef
  split <;> split <;> simp

-- Only the machine controller starts an inspection, so every write here
-- keeps the time it started.

@[simp] theorem updateStatus_inspectionTimestamp (ph : PhysicalHost) (state : HostState) (ready : Bool) :
    (updateStatus ph state ready).status.inspectionTimestamp = ph.status.inspectionTimestamp := rfl

@[simp] theorem PhysicalHost.setConditions_inspectionTimestamp (ph : PhysicalHost)
    (f : Conditions → Conditions) :
    (ph.setConditions f).status.inspectionTimestamp = ph.status.inspectionTimestamp := rfl

@[simp] theorem PhysicalHost.setConditions_conditions (ph : PhysicalHost) (f : Conditions → Conditions) :
    (ph.setConditions f).status.conditions = f ph.status.conditions := rfl

@[simp] theorem markConnectionFailed_inspectionTimestamp (ph : PhysicalHost) (reason : String) :
    (markConnectionFailed ph reason).status.inspectionTimestamp = ph.status.inspectionTimestamp := rfl

@[simp] theorem recordSystem_inspectionTimestamp (ph : PhysicalHost) (sysInfo : SystemInfo)
    (client : Client) :
    (recordSystem ph sysInfo client).status.inspectionTimestamp = ph.status.inspectionTimestamp := by
  unfold recordSystem; split <;> split <;> rfl

@[simp] theorem recordSystem_conditions (ph : PhysicalHost) (sysInfo : SystemInfo) (client : Client) :
    (recordSystem ph sysInfo client).status.conditions = ph.status.conditions := by
  unfold recordSystem; split <;> split <;> rfl

@[simp] theorem PhysicalHost.setConditions_addresses (ph : PhysicalHost) (f : Conditions → Conditions) :
    (ph.setConditions f).status.addresses = ph.status.addresses :=
  rfl

@[simp] theorem stateFromConsumerRef_addresses (ph : PhysicalHost) :
    (stateFromConsumerRef ph).status.addresses = ph.status.addresses := by
  unfold stateFromConsumerRef; split <;> split <;> rfl

/-- The addresses are replaced when the query succeeds, and kept when it fails. -/
theorem recordSystem_addresses (ph : PhysicalHost) (sysInfo : SystemInfo) (client : Client) :
    (recordSystem ph sysInfo client).status.addresses =
      match client.getNetworkAddresses with
      | .ok addresses => ConvertToMachineAddresses addresses
      | .error _ => ph.status.addresses := by
  unfold recordSystem
  split <;> split <;> simp_all

@[simp] theorem stateFromConsumerRef_inspectionTimestamp (ph : PhysicalHost) :
    (stateFromConsumerRef ph).status.inspectionTimestamp = ph.status.inspectionTimestamp := by
  unfold stateFromConsumerRef; split <;> split <;> rfl

/-- A host left Ready keeps its conditions: only the branches that change
the state write them. -/
theorem stateFromConsumerRef_conditions_of_ready {ph : PhysicalHost}
    (hready : (stateFromConsumerRef ph).status.state = .ready) :
    (stateFromConsumerRef ph).status.conditions = ph.status.conditions := by
  unfold stateFromConsumerRef at hready ⊢
  split <;> split <;> simp_all

-- ---------------------------------------------------------------------------
-- The outcomes of a reconcile
-- ---------------------------------------------------------------------------

namespace PhysicalHostReconciler

/-- Whether the reconcile gets credentials, a client from its factory, and
the system's info from the BMC. -/
def reachesBMC (r : PhysicalHostReconciler) (w : World) (env : HostReconcileEnv)
    (ph : PhysicalHost) : Bool :=
  match getRedfishCredentials w env ph, r.redfishClientFactory with
  | .ok (username, password), some factory =>
    match factory ph.spec.redfishConnection.address username password
        (ph.spec.redfishConnection.insecureSkipVerify.getD false) with
    | .ok client => client.getSystemInfo.isOk
    | .error _ => false
  | _, _ => false

/-- The world after a reconcile of the stored host `ph`, by the write it made. -/
inductive Outcome (r : PhysicalHostReconciler) (w : World) (env : HostReconcileEnv)
    (ph : PhysicalHost) : World → Prop
  | unchanged : Outcome r w env ph w
  | finalizers (fs : List String) :
      Outcome r w env ph (w.updateHost { ph with metadata := { ph.metadata with finalizers := fs } })
  | failed (reason : String) (hfail : r.reachesBMC w env ph = false) :
      Outcome r w env ph (w.updateHostStatus (markConnectionFailed ph reason))
  | connected (sysInfo : SystemInfo) (client : Client) :
      Outcome r w env ph (w.updateHostStatus (stateFromConsumerRef
        ((recordSystem ph sysInfo client).setConditions (·.markTrue .redfishConnectionReady))))

variable {r : PhysicalHostReconciler} {w : World} {env : HostReconcileEnv} {ph : PhysicalHost}

/-- `reconcileNormal` makes one of the writes of `Outcome` and dispatches nothing. -/
theorem reconcileNormal_spec :
    Outcome r w env ph (r.reconcileNormal w env ph).world ∧
    ∀ x ∈ (r.reconcileNormal w env ph).effects, x.isHandle = false := by
  unfold reconcileNormal
  cases hcred : getRedfishCredentials w env ph with
  | error err =>
    -- a credentials failure cannot reach the BMC
    have hfail : r.reachesBMC w env ph = false := by simp [reachesBMC, hcred]
    dsimp only
    split
    · exact ⟨.unchanged, by simp [Effect.isHandle]⟩
    · exact ⟨.failed _ hfail, by simp [Effect.isHandle]⟩
  | ok creds =>
    obtain ⟨username, password⟩ := creds
    dsimp only
    cases hfactory : r.redfishClientFactory with
    | none => exact ⟨.unchanged, by simp⟩
    | some factory =>
      dsimp only
      cases hclient : factory ph.spec.redfishConnection.address username password
          (ph.spec.redfishConnection.insecureSkipVerify.getD false) with
      | error e =>
        have hfail : r.reachesBMC w env ph = false := by simp [reachesBMC, hcred, hfactory, hclient]
        dsimp only
        split
        · exact ⟨.unchanged, by simp [Effect.isHandle]⟩
        · exact ⟨.failed _ hfail, by simp [Effect.isHandle]⟩
      | ok client =>
        dsimp only
        cases hsys : client.getSystemInfo with
        | error e =>
          have hfail : r.reachesBMC w env ph = false := by
            simp [reachesBMC, hcred, hfactory, hclient, hsys, Except.isOk, Except.toBool]
          dsimp only
          split
          · exact ⟨.unchanged, by simp [Effect.isHandle]⟩
          · exact ⟨.failed _ hfail, by simp [Effect.isHandle]⟩
        | ok sysInfo =>
          dsimp only
          split
          · exact ⟨.unchanged, by simp [Effect.isHandle]⟩
          · exact ⟨.connected sysInfo client, by simp [Effect.isHandle]⟩

/-- A reconcile of the stored host `ph` that gets through to the status
write of `reconcileNormal`: the host has its finalizer and is not being
deleted, its credentials are there, the factory connects with `client`,
which answers `GetSystemInfo` with `sysInfo`, and the API server takes the
write. -/
structure Connects (r : PhysicalHostReconciler) (w : World) (env : HostReconcileEnv) (ph : PhysicalHost)
    (client : Client) (sysInfo : SystemInfo) : Prop where
  get_ok : env.getFails = false
  update_ok : env.updateFails = false
  live : ph.metadata.deletionTimestamp = none
  finalized : PhysicalHostFinalizer ∈ ph.metadata.finalizers
  connects : ∃ username password factory, getRedfishCredentials w env ph = .ok (username, password) ∧
    r.redfishClientFactory = some factory ∧
    factory ph.spec.redfishConnection.address username password
      (ph.spec.redfishConnection.insecureSkipVerify.getD false) = .ok client
  systemInfo : client.getSystemInfo = .ok sysInfo

/-- Such a reconcile writes what the BMC reported, with State from the
ConsumerRef: the `connected` write of `Outcome`, with the factory's client. -/
theorem Connects.Reconcile_world {k : ObjectKey} {client : Client} {sysInfo : SystemInfo}
    (hget : w.hosts.get k = some ph) (hc : Connects r w env ph client sysInfo) :
    (r.Reconcile w k env).world = w.updateHostStatus (stateFromConsumerRef
      ((recordSystem ph sysInfo client).setConditions (·.markTrue .redfishConnectionReady))) := by
  obtain ⟨username, password, factory, hcred, hfactory, hclient⟩ := hc.connects
  unfold Reconcile reconcileNormal
  simp [hc.get_ok, hget, hc.live, hc.finalized, hcred, hfactory, hclient, hc.systemInfo, hc.update_ok]

/-- The host such a reconcile stores has the status it writes. -/
theorem Connects.stored {k : ObjectKey} {client : Client} {sysInfo : SystemInfo}
    (hget : w.hosts.get k = some ph) (hc : Connects r w env ph client sysInfo) :
    (r.Reconcile w k env).world.hosts.get k = some { ph with status := (stateFromConsumerRef
      ((recordSystem ph sysInfo client).setConditions (·.markTrue .redfishConnectionReady))).status } := by
  have hk : k = key ph := (Store.key_of_get hget).symm
  rw [hc.Reconcile_world hget, World.updateHostStatus_get, if_pos, hget]
  · rfl
  · simp [hk, PhysicalHost.key_def]

/-- The effects a reconcile of the host at `k` can have: its three queries
of the BMC, its two writes, and the warning event. -/
inductive HostEffect (k : ObjectKey) : Effect → Prop
  | getSystemInfo : HostEffect k (.redfish k .getSystemInfo)
  | getPowerState : HostEffect k (.redfish k .getPowerState)
  | getNetworkAddresses : HostEffect k (.redfish k .getNetworkAddresses)
  | writeHostStatus : HostEffect k (.writeHostStatus k)
  | writeHostSpec : HostEffect k (.writeHostSpec k)
  | event (reason : String) : HostEffect k (.event k reason)

attribute [simp] HostEffect.getSystemInfo HostEffect.getPowerState HostEffect.getNetworkAddresses
  HostEffect.writeHostStatus HostEffect.writeHostSpec HostEffect.event

theorem HostEffect.isHandle {k : ObjectKey} {x : Effect} (hx : HostEffect k x) :
    x.isHandle = false := by
  cases hx <;> rfl

theorem reconcileNormal_effects : ∀ x ∈ (r.reconcileNormal w env ph).effects, HostEffect (key ph) x := by
  unfold reconcileNormal
  -- one case per answer, as in `reconcileNormal_spec`; each leaf lists its effects
  cases getRedfishCredentials w env ph with
  | error err => dsimp only; split <;> simp
  | ok creds =>
    dsimp only
    cases r.redfishClientFactory with
    | none => simp
    | some factory =>
      dsimp only
      cases factory ph.spec.redfishConnection.address creds.1 creds.2
          (ph.spec.redfishConnection.insecureSkipVerify.getD false) with
      | error e => dsimp only; split <;> simp
      | ok client =>
        dsimp only
        cases client.getSystemInfo with
        | error e => dsimp only; split <;> simp
        | ok sysInfo => dsimp only; split <;> simp

theorem reconcileDelete_effects : ∀ x ∈ (r.reconcileDelete w env ph).effects, HostEffect (key ph) x := by
  unfold reconcileDelete
  dsimp only
  -- the warning event, if any, and the spec write
  have hevents : ∀ x ∈ (if ph.spec.consumerRef.isSome then [Effect.event (key ph) "DeletingClaimedHost"]
      else []), HostEffect (key ph) x := by
    split <;> simp
  split
  · simp
  · split
    · split
      · exact hevents
      · intro x hx
        rcases List.mem_append.mp hx with hx | hx
        · exact hevents x hx
        · simp_all
    · exact hevents

theorem reconcileDelete_spec :
    Outcome r w env ph (r.reconcileDelete w env ph).world ∧
    ∀ x ∈ (r.reconcileDelete w env ph).effects, x.isHandle = false := by
  unfold reconcileDelete
  dsimp only
  by_cases hnil : ph.spec.consumerRef.isSome = true ∧ r.recorder.isNone = true
  · rw [if_pos hnil]
    exact ⟨.unchanged, by simp [Effect.isHandle]⟩
  · rw [if_neg hnil]
    by_cases hfin : PhysicalHostFinalizer ∈ ph.metadata.finalizers
    · rw [if_pos hfin]
      split
      · exact ⟨.unchanged, by simp [Effect.isHandle]⟩
      · refine ⟨.finalizers _, ?_⟩
        -- the warning event, if any, and the spec write
        simp only [List.mem_append]
        rintro x (hx | hx)
        · split at hx <;> simp_all [Effect.isHandle]
        · simp_all [Effect.isHandle]
    · rw [if_neg hfin]
      exact ⟨.unchanged, by simp [Effect.isHandle]⟩

/-- A reconcile of the host at `k` reads the stored host there and makes one
of the writes of `Outcome`, or none. -/
theorem Reconcile_outcome (r : PhysicalHostReconciler) (w : World) (env : HostReconcileEnv)
    (k : ObjectKey) :
    (r.Reconcile w k env).world = w ∨
    ∃ ph, w.hosts.get k = some ph ∧ Outcome r w env ph (r.Reconcile w k env).world := by
  unfold Reconcile
  split
  · exact .inl rfl
  · split
    · exact .inl rfl
    · rename_i ph hget
      refine .inr ⟨ph, hget, ?_⟩
      split
      · exact reconcileDelete_spec.1
      · split
        · rename_i hfin
          rw [ObjectMeta.addFinalizer_of_not_mem hfin]
          split
          · exact .unchanged
          · exact .finalizers _
        · exact reconcileNormal_spec.1

theorem Reconcile_hostEffects (r : PhysicalHostReconciler) (w : World) (env : HostReconcileEnv)
    (k : ObjectKey) : ∀ x ∈ (r.Reconcile w k env).effects, HostEffect k x := by
  unfold Reconcile
  split
  · simp
  · split
    · simp
    · rename_i ph hget
      rw [← Store.key_of_get hget]
      split
      · exact reconcileDelete_effects
      · split
        · split <;> simp
        · exact reconcileNormal_effects

/-- The PhysicalHost controller dispatches nothing. -/
theorem Reconcile_effects (r : PhysicalHostReconciler) (w : World) (env : HostReconcileEnv)
    (k : ObjectKey) : ∀ x ∈ (r.Reconcile w k env).effects, x.isHandle = false :=
  fun x hx => (Reconcile_hostEffects r w env k x hx).isHandle

-- ---------------------------------------------------------------------------
-- What the outcomes leave
-- ---------------------------------------------------------------------------

theorem Outcome.machines {w' : World} (h : Outcome r w env ph w') : w'.machines = w.machines := by
  cases h <;> simp

theorem Outcome.now {w' : World} (h : Outcome r w env ph w') : w'.now = w.now := by
  cases h <;> simp

/-- Only the host reconciled is written. -/
theorem Outcome.get_ne {w' : World} (h : Outcome r w env ph w') {k : ObjectKey} (hk : k ≠ key ph) :
    w'.hosts.get k = w.hosts.get k := by
  cases h with
  | unchanged => rfl
  | finalizers fs => exact (World.updateHost_get _ _ _).trans (if_neg hk)
  | failed reason => exact (World.updateHostStatus_get _ _ _).trans (if_neg hk)
  | connected sysInfo client =>
    rw [World.updateHostStatus_get, if_neg]
    simpa [PhysicalHost.key_def] using hk

-- ---------------------------------------------------------------------------
-- The status written
-- ---------------------------------------------------------------------------

/-- The status a reconcile of `ph` writes: the connection failed, or what
the BMC reported with State from the ConsumerRef. -/
inductive StatusWrite (r : PhysicalHostReconciler) (w : World) (env : HostReconcileEnv)
    (ph : PhysicalHost) : PhysicalHostStatus → Prop
  | failed (reason : String) (hfail : r.reachesBMC w env ph = false) :
      StatusWrite r w env ph (markConnectionFailed ph reason).status
  | connected (sysInfo : SystemInfo) (client : Client) :
      StatusWrite r w env ph (stateFromConsumerRef
        ((recordSystem ph sysInfo client).setConditions (·.markTrue .redfishConnectionReady))).status

/-- After a reconcile of `ph`, a host has the status it had, or `ph`'s key
and a status the reconcile wrote. -/
theorem Outcome.status {w' : World} (ho : Outcome r w env ph w') {k : ObjectKey} {h' : PhysicalHost}
    (hmem : h' ∈ w'.hosts.get k) :
    (∃ h ∈ w.hosts.get k, h'.status = h.status) ∨ (k = key ph ∧ StatusWrite r w env ph h'.status) := by
  cases ho with
  | unchanged => exact .inl ⟨h', hmem, rfl⟩
  | finalizers fs => exact .inl (World.updateHost_status hmem)
  | failed reason hfail =>
    rcases World.updateHostStatus_status hmem with hkept | ⟨hk, -, hs⟩
    · exact .inl hkept
    · exact .inr ⟨hk, hs ▸ .failed reason hfail⟩
  | connected sysInfo client =>
    rcases World.updateHostStatus_status hmem with hkept | ⟨hk, -, hs⟩
    · exact .inl hkept
    · refine .inr ⟨?_, hs ▸ .connected sysInfo client⟩
      simpa [PhysicalHost.key_def] using hk

theorem StatusWrite.inspectionReport {s : PhysicalHostStatus} (hw : StatusWrite r w env ph s) :
    s.inspectionReport = ph.status.inspectionReport := by
  cases hw <;> simp

/-- A reconcile that reaches the BMC keeps a claimed, Ready host Ready. -/
theorem StatusWrite.ready {s : PhysicalHostStatus} (hw : StatusWrite r w env ph s)
    (hreach : r.reachesBMC w env ph = true) (hclaimed : ph.spec.consumerRef.isSome)
    (hready : ph.status.state = .ready) : s.state = .ready := by
  cases hw with
  | failed reason hfail => simp [hfail] at hreach
  | connected sysInfo client => exact stateFromConsumerRef_ready (by simpa using hclaimed) (by simpa using hready)

/-- No reconcile makes a host Ready that was not. -/
theorem StatusWrite.ne_ready {s : PhysicalHostStatus} (hw : StatusWrite r w env ph s)
    (hnot : ph.status.state ≠ .ready) : s.state ≠ .ready := by
  cases hw with
  | failed reason hfail => simp
  | connected sysInfo client =>
    rcases stateFromConsumerRef_state
        ((recordSystem ph sysInfo client).setConditions (·.markTrue .redfishConnectionReady)) with
      h | h | h <;> simp_all

/-- The state written is the one the host had, or InUse, Available or Error. -/
theorem StatusWrite.state_cases {s : PhysicalHostStatus} (hw : StatusWrite r w env ph s) :
    s.state = ph.status.state ∨ s.state = .inUse ∨ s.state = .available ∨ s.state = .error := by
  cases hw with
  | failed reason hfail => simp
  | connected sysInfo client =>
    rcases stateFromConsumerRef_state
        ((recordSystem ph sysInfo client).setConditions (·.markTrue .redfishConnectionReady)) with
      h | h | h <;> simp_all

theorem StatusWrite.inspectionTimestamp {s : PhysicalHostStatus} (hw : StatusWrite r w env ph s) :
    s.inspectionTimestamp = ph.status.inspectionTimestamp := by
  cases hw <;> simp

/-- A status written Ready has the host's `HostInspected`: the reconcile
marks only `RedfishConnectionReady` on it. -/
theorem StatusWrite.isTrue_hostInspected {s : PhysicalHostStatus} (hw : StatusWrite r w env ph s)
    (hready : s.state = .ready) :
    s.conditions.isTrue .hostInspected = ph.status.conditions.isTrue .hostInspected := by
  cases hw with
  | failed reason hfail => simp at hready
  | connected sysInfo client =>
    rw [stateFromConsumerRef_conditions_of_ready hready]
    simp [Conditions.isTrue_markTrue_ne]

end PhysicalHostReconciler

end Beskar7
