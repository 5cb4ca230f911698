import Beskar7.Coordination.QueueLaws
import Beskar7.Coordination.Workers

/-!
# The queue and the map stay within their bounds

`SubmitRequest` turns a request away once `maxQueueSize` requests are
queued, and a worker or a permit adds an entry to the map only while fewer
than `maxConcurrentOps` are there. The bounds are never written, so in every
run of submissions, workers, permit holders and cancellations, in any order,
the queue and the map stay within them (`run_within_capacity`). The map
bounds its entries, not the operations in flight, which can share an entry.
-/

namespace Beskar7

namespace ProvisioningQueue

variable (pq : ProvisioningQueue) (now : Duration)

/-- `SubmitRequest` changes nothing, or queues one request below the bound. -/
theorem SubmitRequest_room (host : PhysicalHost) (operation : ProvisioningOperation) :
    (pq.SubmitRequest now host operation).1 = pq ∨
      ((pq.queue.length : Int) < pq.maxQueueSize ∧
        ∃ req, (pq.SubmitRequest now host operation).1 = { pq with queue := pq.queue ++ [req] }) := by
  unfold SubmitRequest
  split
  · exact .inl rfl
  · rename_i hroom
    split
    · exact .inl rfl
    · exact .inr ⟨by omega, _, rfl⟩

theorem length_put_le {α κ : Type} [HasKey α κ] [DecidableEq κ] (s : Store α) (x : α) :
    (s.put x).items.length ≤ s.items.length + 1 := by
  rw [Store.length_put]
  split <;> omega

end ProvisioningQueue

namespace QueueSystem

open ProvisioningQueue

/-- The queue and the map within the bounds the queue was made with. -/
structure Capacity (maxConcurrent maxQueueSize : Int) (pq : ProvisioningQueue) : Prop where
  concurrent_eq : pq.maxConcurrentOps = maxConcurrent
  queueSize_eq : pq.maxQueueSize = maxQueueSize
  queue_le : (pq.queue.length : Int) ≤ max maxQueueSize 0
  processing_le : (pq.processing.items.length : Int) ≤ max maxConcurrent 0

variable {maxConcurrent maxQueueSize : Int} {s : QueueSystem}

theorem capacity_init : Capacity maxConcurrent maxQueueSize (init maxConcurrent maxQueueSize).pq where
  concurrent_eq := rfl
  queueSize_eq := rfl
  queue_le := Int.le_trans (by simp [init, NewProvisioningQueue]) (Int.le_max_right _ _)
  processing_le := Int.le_trans (by simp [init, NewProvisioningQueue]) (Int.le_max_right _ _)

/-- A step that keeps the bounds, does not lengthen the queue and adds an
entry to the map only below its bound. -/
theorem Capacity.of_step {pq pq' : ProvisioningQueue} (h : Capacity maxConcurrent maxQueueSize pq)
    (hmax : pq'.maxConcurrentOps = pq.maxConcurrentOps ∧ pq'.maxQueueSize = pq.maxQueueSize)
    (hqueue : pq'.queue.length ≤ pq.queue.length)
    (hproc : pq'.processing.items.length ≤ pq.processing.items.length ∨
      ((pq.processing.items.length : Int) < pq.maxConcurrentOps ∧
        pq'.processing.items.length ≤ pq.processing.items.length + 1)) :
    Capacity maxConcurrent maxQueueSize pq' := by
  have hc := h.concurrent_eq
  have hq := h.queue_le
  have hp := h.processing_le
  refine ⟨hmax.1.trans hc, hmax.2.trans h.queueSize_eq, by omega, ?_⟩
  rcases hproc with hle | ⟨hroom, hle⟩ <;> omega

theorem Capacity.after_submit (h : Capacity maxConcurrent maxQueueSize s.pq) (host : PhysicalHost)
    (operation : ProvisioningOperation) : Capacity maxConcurrent maxQueueSize (step s (.submit host operation)).1.pq := by
  rcases s.pq.SubmitRequest_room s.now host operation with hsame | ⟨hroom, req, hpq⟩
  · simp only [step, hsame]
    exact h
  · simp only [step, hpq]
    -- a request joins only below the bound
    have hq := h.queueSize_eq
    refine ⟨h.concurrent_eq, hq, ?_, h.processing_le⟩
    simp only [List.length_append, List.length_singleton]
    omega

theorem Capacity.after_next (h : Capacity maxConcurrent maxQueueSize s.pq) (w : Nat) :
    Capacity maxConcurrent maxQueueSize (step s (.next w)).1.pq := by
  cases hw : s.workers.get w with
  | some b =>
    simp only [step, hw]
    exact h
  | none =>
    rcases s.pq.getNextRequest_spec s.now with hnone | ⟨l₁, r, l₂, hqueue, hroom, -, hnext⟩
    · simp only [step, hw, hnone]
      exact h
    · simp only [step, hw, hnext]
      refine h.of_step ⟨rfl, rfl⟩ ?_ (.inr ⟨hroom, length_put_le _ _⟩)
      rw [hqueue]
      simp

theorem Capacity.after_complete (h : Capacity maxConcurrent maxQueueSize s.pq) (w : Nat) :
    Capacity maxConcurrent maxQueueSize (step s (.complete w)).1.pq := by
  cases hw : s.workers.get w with
  | none =>
    simp only [step, hw]
    exact h
  | some b =>
    simp only [step, hw, processRequest_fst]
    exact h.of_step ⟨rfl, rfl⟩ (Nat.le_refl _) (.inl (Store.length_erase_le _ _))

theorem Capacity.after_acquire (h : Capacity maxConcurrent maxQueueSize s.pq) (c : Nat) (host : PhysicalHost) :
    Capacity maxConcurrent maxQueueSize (step s (.acquire c host)).1.pq := by
  cases hc : s.permits.get c with
  | some p =>
    simp only [step, hc]
    exact h
  | none =>
    rcases s.pq.AcquireBMCPermit_spec s.now host with ⟨-, hacq⟩ | ⟨-, hroom, -, hacq⟩ | hwait
    · simp only [step, hc, hacq]
      exact h
    · simp only [step, hc, hacq]
      exact h.of_step ⟨rfl, rfl⟩ (Nat.le_refl _) (.inr ⟨hroom, length_put_le _ _⟩)
    · simp only [step, hc, hwait]
      exact h

theorem Capacity.after_release (h : Capacity maxConcurrent maxQueueSize s.pq) (c : Nat) :
    Capacity maxConcurrent maxQueueSize (step s (.release c)).1.pq := by
  cases hc : s.permits.get c with
  | none =>
    simp only [step, hc]
    exact h
  | some p =>
    simp only [step, hc, ReleaseBMCPermit_eq]
    exact h.of_step ⟨rfl, rfl⟩ (Nat.le_refl _) (.inl (Store.length_erase_le _ _))

theorem Capacity.after_cancel (h : Capacity maxConcurrent maxQueueSize s.pq) (requestID : String) :
    Capacity maxConcurrent maxQueueSize (step s (.cancel requestID)).1.pq := by
  cases hcancel : s.pq.CancelRequest requestID with
  | error msg =>
    simp only [step, hcancel]
    exact h
  | ok result =>
    obtain ⟨pq', found⟩ := result
    simp only [step, hcancel]
    rcases s.pq.CancelRequest_spec hcancel with rfl | rfl
    · exact h
    · exact h.of_step ⟨rfl, rfl⟩ List.length_eraseP_le (.inl (Nat.le_refl _))

theorem Capacity.after_step (h : Capacity maxConcurrent maxQueueSize s.pq) (e : QueueEvent) :
    Capacity maxConcurrent maxQueueSize (step s e).1.pq := by
  cases e with
  | submit host operation => exact h.after_submit host operation
  | next w => exact h.after_next w
  | complete w => exact h.after_complete w
  | acquire c host => exact h.after_acquire c host
  | release c => exact h.after_release c
  | cancel requestID => exact h.after_cancel requestID
  | tick d => exact h

/-- In every run, in any order of its steps, at most `maxQueueSize` requests
are queued and the map has at most `maxConcurrentOps` entries. -/
theorem run_within_capacity (maxConcurrent maxQueueSize : Int) (es : List QueueEvent) :
    ((run (init maxConcurrent maxQueueSize) es).pq.queue.length : Int) ≤ max maxQueueSize 0 ∧
      ((run (init maxConcurrent maxQueueSize) es).pq.processing.items.length : Int) ≤ max maxConcurrent 0 := by
  have keep : ∀ s e, True → Capacity maxConcurrent maxQueueSize s.pq →
      Capacity maxConcurrent maxQueueSize (step s e).1.pq :=
    fun s e _ hs => hs.after_step e
  have h : Capacity maxConcurrent maxQueueSize (run (init maxConcurrent maxQueueSize) es).pq :=
    Trace.run_invariant step keep (fun _ _ => trivial) capacity_init
  exact ⟨h.queue_le, h.processing_le⟩

end QueueSystem

end Beskar7
