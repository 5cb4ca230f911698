import Beskar7.Coordination.Workers
import Beskar7.Coordination.QueueLaws

/-!
# The map of operations in flight

`processing` is keyed by host name, so it can stand for the operations in
flight only while no host has two of them: `second_request_overwrites_first`
shows two requests for one host sharing one entry. This module proves that
the map is exact on every run in which no operation is submitted for a host
with one queued, and no permit taken for a host with one queued or in flight
(`startsAlone`): its keys are the hosts in flight, each once, and a busy
worker's entry is its own request (`Exact`). A submit for a host in flight
needs no guard, since `SubmitRequest` turns it away; a permit does, since
`AcquireBMCPermit` lets a host in flight through. Each event is one of four kinds: an operation starts
(`Exact.after_start`), one ends (`Exact.after_finish`), the queue changes
(`Exact.with_queue`), or nothing the invariant reads changes.
-/

namespace Beskar7

namespace QueueSystem

open ProvisioningQueue

/-- No operation is submitted for a host that has one queued, and no permit
taken for a host that has one queued or in flight. -/
def startsAlone (s : QueueSystem) : QueueEvent → Bool
  | .submit host _ => decide (host.metadata.name ∉ s.queuedNames)
  | .acquire _ host => decide (host.metadata.name ∉ s.queuedNames ∧ host.metadata.name ∉ s.inFlightNames)
  | _ => true

variable {s : QueueSystem}

theorem inFlightNames_eq (s : QueueSystem) :
    s.inFlightNames =
      s.workers.items.map (fun b => key b.request) ++ s.permits.items.map (·.host.metadata.name) := by
  simp [inFlightNames, inFlight, Function.comp_def, ProvisioningRequest.key_def]

theorem worker_mem_inFlightNames {b : Busy} (hb : b ∈ s.workers.items) :
    key b.request ∈ s.inFlightNames := by
  rw [inFlightNames_eq]
  exact List.mem_append_left _ (List.mem_map_of_mem hb)

-- What the four writes to the workers and the permits do to the names in flight.

theorem inFlightNames_put_worker {w : Nat} (hw : s.workers.get w = none)
    (x : ProvisioningRequest) (pq : ProvisioningQueue) :
    ({ s with pq, workers := s.workers.put ⟨w, x⟩ } : QueueSystem).inFlightNames.Perm
      (key x :: s.inFlightNames) := by
  have hitems := Store.put_items_of_get_none (x := (⟨w, x⟩ : Busy)) hw
  simp only [inFlightNames_eq, hitems, List.map_append, List.map_singleton]
  rw [List.append_assoc, List.singleton_append]
  exact List.perm_middle

theorem inFlightNames_put_permit {c : Nat} (hc : s.permits.get c = none) (host : PhysicalHost)
    (pq : ProvisioningQueue) :
    ({ s with pq, permits := s.permits.put ⟨c, host⟩ } : QueueSystem).inFlightNames.Perm
      (host.metadata.name :: s.inFlightNames) := by
  have hitems := Store.put_items_of_get_none (x := (⟨c, host⟩ : Permit)) hc
  simp only [inFlightNames_eq, hitems, List.map_append, List.map_singleton]
  rw [← List.append_assoc]
  exact List.perm_append_singleton _ _

theorem inFlightNames_erase_worker {w : Nat} {b : Busy} (hw : s.workers.get w = some b)
    (pq : ProvisioningQueue) :
    s.inFlightNames.Perm
      (key b.request :: ({ s with pq, workers := s.workers.erase w } : QueueSystem).inFlightNames) := by
  have hperm := (Store.perm_erase hw).map (fun b : Busy => key b.request)
  simp only [inFlightNames_eq, List.map_cons] at hperm ⊢
  exact hperm.append_right _

theorem inFlightNames_erase_permit {c : Nat} {p : Permit} (hc : s.permits.get c = some p)
    (pq : ProvisioningQueue) :
    s.inFlightNames.Perm (p.host.metadata.name ::
      ({ s with pq, permits := s.permits.erase c } : QueueSystem).inFlightNames) := by
  have hperm := (Store.perm_erase hc).map (fun p : Permit => p.host.metadata.name)
  simp only [inFlightNames_eq, List.map_cons] at hperm ⊢
  exact (hperm.append_left _).trans List.perm_middle

/-- The map holds one entry for each operation in flight, under its host's
name, and a busy worker's entry is its request; queued requests are for
distinct hosts with nothing in flight. -/
structure Exact (s : QueueSystem) : Prop where
  names_perm : s.inFlightNames.Perm (s.pq.processing.items.map key)
  worker_entry : ∀ b ∈ s.workers.items, s.pq.processing.get (key b.request) = some b.request
  worker_id : ∀ b ∈ s.workers.items, b.request.id ≠ ""
  /-- only a permit's entry, which has no ID, lacks a `CancelFunc` -/
  entry_cancelable : ∀ x ∈ s.pq.processing.items, x.id ≠ "" → x.cancelable = true
  queued_nodup : s.queuedNames.Nodup
  queued_idle : ∀ r ∈ s.pq.queue, key r ∉ s.inFlightNames
  queued_request : ∀ r ∈ s.pq.queue, r.cancelable = true ∧ r.id ≠ ""
  bounded : s.pq.processing.items.length ≤ s.pq.maxConcurrentOps.toNat

theorem Exact.nodup (h : Exact s) : s.inFlightNames.Nodup :=
  h.names_perm.nodup_iff.mpr s.pq.processing.nodup

theorem Exact.mem_iff (h : Exact s) {n : String} :
    n ∈ s.inFlightNames ↔ (s.pq.processing.get n).isSome :=
  h.names_perm.mem_iff.trans Store.mem_keys_iff

/-- An operation for a host with nothing in flight starts, with room in the
map: its name and its entry are added. -/
theorem Exact.after_start (h : Exact s) {s' : QueueSystem} {x : ProvisioningRequest}
    (hnames : s'.inFlightNames.Perm (key x :: s.inFlightNames)) (hidle : key x ∉ s.inFlightNames)
    (hproc : s'.pq.processing = s.pq.processing.put x)
    (hroom : (s.pq.processing.items.length : Int) < s.pq.maxConcurrentOps)
    (hmax : s'.pq.maxConcurrentOps = s.pq.maxConcurrentOps)
    (hworkers : ∀ b ∈ s'.workers.items, b ∈ s.workers.items ∨ (b.request = x ∧ x.id ≠ ""))
    (hx : x.id ≠ "" → x.cancelable = true)
    (hqueue : s'.pq.queue.Sublist s.pq.queue) (hqueued : ∀ r ∈ s'.pq.queue, key r ≠ key x) :
    Exact s' := by
  have hnew : s.pq.processing.get (key x) = none := by
    simpa [h.mem_iff] using hidle
  refine ⟨hproc ▸ hnames.trans (Store.perm_keys_put hnew h.names_perm), ?_, ?_, ?_, ?_, ?_, ?_, ?_⟩
  · intro b hb
    rw [hproc]
    rcases hworkers b hb with hold | ⟨rfl, -⟩
    · have hne : key b.request ≠ key x := fun heq => hidle (heq ▸ worker_mem_inFlightNames hold)
      rw [Store.get_put_ne _ _ hne]
      exact h.worker_entry b hold
    · exact Store.get_put_self _ _
  · intro b hb
    rcases hworkers b hb with hold | ⟨rfl, hid⟩
    · exact h.worker_id b hold
    · exact hid
  · intro y hy hid
    rw [hproc] at hy
    rcases Store.mem_put.mp hy with rfl | ⟨hy, -⟩
    · exact hx hid
    · exact h.entry_cancelable y hy hid
  · exact h.queued_nodup.sublist (hqueue.map _)
  · intro r hr hin
    rcases List.mem_cons.mp (hnames.mem_iff.mp hin) with heq | hold
    · exact hqueued r hr heq
    · exact h.queued_idle r (hqueue.subset hr) hold
  · exact fun r hr => h.queued_request r (hqueue.subset hr)
  · rw [hproc, hmax, Store.put_items_of_get_none hnew, List.length_append, List.length_singleton]
    omega

/-- An operation in flight ends: its name and its entry go. -/
theorem Exact.after_finish (h : Exact s) {s' : QueueSystem} {n : String}
    (hnames : s.inFlightNames.Perm (n :: s'.inFlightNames))
    (hproc : s'.pq.processing = s.pq.processing.erase n)
    (hmax : s'.pq.maxConcurrentOps = s.pq.maxConcurrentOps)
    (hworkers : ∀ b ∈ s'.workers.items, b ∈ s.workers.items)
    (hqueue : s'.pq.queue = s.pq.queue) : Exact s' := by
  -- the name was in flight once, so it is no longer
  have hgone : n ∉ s'.inFlightNames := (List.nodup_cons.mp (hnames.nodup_iff.mp h.nodup)).1
  obtain ⟨x, hx⟩ : ∃ x, s.pq.processing.get n = some x :=
    Option.isSome_iff_exists.mp (h.mem_iff.mp (hnames.mem_iff.mpr (List.mem_cons_self ..)))
  refine ⟨hproc ▸ Store.perm_keys_erase hx (hnames.symm.trans h.names_perm),
    ?_, ?_, ?_, ?_, ?_, ?_, ?_⟩
  · intro b hb
    have hne : key b.request ≠ n := fun heq => hgone (heq ▸ worker_mem_inFlightNames hb)
    rw [hproc, Store.get_erase_ne _ hne]
    exact h.worker_entry b (hworkers b hb)
  · exact fun b hb => h.worker_id b (hworkers b hb)
  · intro y hy
    rw [hproc] at hy
    exact h.entry_cancelable y (Store.mem_erase.mp hy).1
  · rw [queuedNames, hqueue]
    exact h.queued_nodup
  · intro r hr hin
    exact h.queued_idle r (hqueue ▸ hr) (hnames.mem_iff.mpr (List.mem_cons_of_mem _ hin))
  · exact fun r hr => h.queued_request r (hqueue ▸ hr)
  · rw [hproc, hmax]
    exact Nat.le_trans (Store.length_erase_le _ _) h.bounded

/-- The queue changes and nothing else. -/
theorem Exact.with_queue (h : Exact s) {q : List ProvisioningRequest}
    (hnodup : (q.map (·.host.metadata.name)).Nodup) (hidle : ∀ r ∈ q, key r ∉ s.inFlightNames)
    (hrequest : ∀ r ∈ q, r.cancelable = true ∧ r.id ≠ "") :
    Exact { s with pq := { s.pq with queue := q } } :=
  ⟨h.names_perm, h.worker_entry, h.worker_id, h.entry_cancelable, hnodup, hidle, hrequest,
    h.bounded⟩

theorem Exact.after_submit (h : Exact s) {host : PhysicalHost} {operation : ProvisioningOperation}
    (halone : s.startsAlone (.submit host operation) = true) :
    Exact (step s (.submit host operation)).1 := by
  simp only [startsAlone, decide_eq_true_eq] at halone
  rcases s.pq.SubmitRequest_spec s.now host operation with hsame | ⟨hnone, req, rfl, hcancel, hid, hpq⟩
  · simp only [step, hsame]
    exact h
  · -- `SubmitRequest` queues only a host that is not processing, so not in flight
    have hidle : key req ∉ s.inFlightNames := by
      rw [h.mem_iff, ProvisioningRequest.key_def, hnone]
      exact Bool.false_ne_true
    simp only [step, hpq]
    refine h.with_queue ?_ ?_ ?_
    · rw [List.map_append, List.map_singleton, List.nodup_append_comm]
      exact List.nodup_cons.mpr ⟨halone, h.queued_nodup⟩
    · intro r hr
      rcases List.mem_append.mp hr with hr | hr
      · exact h.queued_idle r hr
      · rw [List.mem_singleton.mp hr]
        exact hidle
    · intro r hr
      rcases List.mem_append.mp hr with hr | hr
      · exact h.queued_request r hr
      · rw [List.mem_singleton.mp hr]
        exact ⟨hcancel, hid⟩

theorem Exact.after_next (h : Exact s) (w : Nat) : Exact (step s (.next w)).1 := by
  cases hw : s.workers.get w with
  | some b =>
    simp only [step, hw]
    exact h
  | none =>
    rcases s.pq.getNextRequest_spec s.now with hnone | ⟨l₁, r, l₂, hqueue, hroom, -, hnext⟩
    · simp only [step, hw, hnone]
      exact h
    · simp only [step, hw, hnext]
      have hr : r ∈ s.pq.queue := hqueue ▸ List.mem_append_right _ (List.mem_cons_self ..)
      -- the queued hosts are distinct, so no request left in the queue is for r's host
      have hfresh : r.host.metadata.name ∉ (l₁ ++ l₂).map (·.host.metadata.name) := by
        have hnodup := h.queued_nodup
        rw [queuedNames, hqueue, List.map_append, List.map_cons, List.nodup_middle,
          ← List.map_append] at hnodup
        exact (List.nodup_cons.mp hnodup).1
      refine h.after_start (inFlightNames_put_worker hw _ _) (h.queued_idle r hr) rfl hroom rfl
        ?_ (fun _ => (h.queued_request r hr).1) ?_ ?_
      · intro b hb
        rcases Store.mem_put.mp hb with rfl | ⟨hold, -⟩
        · exact .inr ⟨rfl, (h.queued_request r hr).2⟩
        · exact .inl hold
      · rw [hqueue]
        exact (List.sublist_cons_self r l₂).append_left l₁
      · intro q hq heq
        exact hfresh (List.mem_map.mpr ⟨q, hq, heq⟩)

theorem Exact.after_complete (h : Exact s) (w : Nat) : Exact (step s (.complete w)).1 := by
  cases hw : s.workers.get w with
  | none =>
    simp only [step, hw]
    exact h
  | some b =>
    simp only [step, hw, processRequest_fst]
    exact h.after_finish (inFlightNames_erase_worker hw _) rfl rfl
      (fun _ hb => (Store.mem_erase.mp hb).1) rfl

theorem Exact.after_acquire (h : Exact s) {c : Nat} {host : PhysicalHost}
    (halone : s.startsAlone (.acquire c host) = true) :
    Exact (step s (.acquire c host)).1 := by
  simp only [startsAlone, decide_eq_true_eq] at halone
  obtain ⟨hqueued, hidle⟩ := halone
  cases hc : s.permits.get c with
  | some p =>
    simp only [step, hc]
    exact h
  | none =>
    rcases s.pq.AcquireBMCPermit_spec s.now host with ⟨hproc, -⟩ | ⟨-, hroom, -, hacq⟩ | hwait
    · -- the re-entrant path needs the host in flight, which the guard excludes
      exact absurd (h.mem_iff.mpr hproc) hidle
    · simp only [step, hc, hacq]
      refine h.after_start (inFlightNames_put_permit hc host _) hidle rfl hroom rfl
        (fun b hb => .inl hb) (fun hid => absurd rfl hid) (List.Sublist.refl _) ?_
      intro r hr heq
      exact hqueued (List.mem_map.mpr ⟨r, hr, heq⟩)
    · simp only [step, hc, hwait]
      exact h

theorem Exact.after_release (h : Exact s) (c : Nat) : Exact (step s (.release c)).1 := by
  cases hc : s.permits.get c with
  | none =>
    simp only [step, hc]
    exact h
  | some p =>
    simp only [step, hc, ReleaseBMCPermit_eq]
    exact h.after_finish (inFlightNames_erase_permit hc _) rfl rfl
      (fun _ hb => hb) rfl

theorem Exact.after_cancel (h : Exact s) (requestID : String) :
    Exact (step s (.cancel requestID)).1 := by
  cases hcancel : s.pq.CancelRequest requestID with
  | error msg =>
    simp only [step, hcancel]
    exact h
  | ok result =>
    obtain ⟨pq', found⟩ := result
    simp only [step, hcancel]
    rcases s.pq.CancelRequest_spec hcancel with rfl | rfl
    · exact h
    · have hsub := List.eraseP_sublist (l := s.pq.queue) (p := (·.id = requestID))
      exact h.with_queue (h.queued_nodup.sublist (hsub.map _))
        (fun r hr => h.queued_idle r (hsub.subset hr)) (fun r hr => h.queued_request r (hsub.subset hr))

theorem Exact.after_step (h : Exact s) {e : QueueEvent} (halone : s.startsAlone e = true) :
    Exact (step s e).1 := by
  cases e with
  | submit host operation => exact h.after_submit halone
  | next w => exact h.after_next w
  | complete w => exact h.after_complete w
  | acquire c host => exact h.after_acquire halone
  | release c => exact h.after_release c
  | cancel requestID => exact h.after_cancel requestID
  | tick d =>
    exact ⟨h.names_perm, h.worker_entry, h.worker_id, h.entry_cancelable, h.queued_nodup,
      h.queued_idle, h.queued_request, h.bounded⟩

end QueueSystem

open QueueSystem

end Beskar7
