import Beskar7.Coordination.ProvisioningQueue

/-!
# What each method of the queue does

One lemma per method, listing what it can do to the queue, the map and the
BMC times; the proofs about runs cite these and never unfold a method.
-/

namespace Beskar7

namespace ProvisioningQueue

variable (pq : ProvisioningQueue) (now : Duration)

-- The parameters are never written.

@[simp] theorem setLastBMCOperation_queue (address : String) :
    (pq.setLastBMCOperation address now).queue = pq.queue := rfl

@[simp] theorem setLastBMCOperation_processing (address : String) :
    (pq.setLastBMCOperation address now).processing = pq.processing := rfl

@[simp] theorem setLastBMCOperation_maxConcurrentOps (address : String) :
    (pq.setLastBMCOperation address now).maxConcurrentOps = pq.maxConcurrentOps := rfl

@[simp] theorem setLastBMCOperation_bmcCooldownPeriod (address : String) :
    (pq.setLastBMCOperation address now).bmcCooldownPeriod = pq.bmcCooldownPeriod := rfl

theorem setLastBMCOperation_lastBMCOperation (address a : String) :
    (pq.setLastBMCOperation address now).lastBMCOperation a =
      if a = address then some now else pq.lastBMCOperation a := rfl

/-- A request's ID is never empty: it has the host's name, the operation and
the time, joined by dashes. -/
theorem requestID_ne_empty (name operation : String) :
    name ++ "-" ++ operation ++ "-" ++ toString now ≠ "" := by
  intro h
  have hlen := congrArg String.length h
  simp at hlen

/-- `SubmitRequest` changes nothing, or queues a new cancelable request for
a host that is not processing. -/
theorem SubmitRequest_spec (host : PhysicalHost) (operation : ProvisioningOperation) :
    (pq.SubmitRequest now host operation).1 = pq ∨
    (pq.processing.get host.metadata.name = none ∧ ∃ req : ProvisioningRequest,
      req.host = host ∧ req.cancelable = true ∧ req.id ≠ "" ∧
      (pq.SubmitRequest now host operation).1 = { pq with queue := pq.queue ++ [req] }) := by
  unfold SubmitRequest
  split
  · exact .inl rfl
  · split
    · exact .inl rfl
    · rename_i hnone
      exact .inr ⟨hnone, _, rfl, rfl, requestID_ne_empty now _ _, rfl⟩

/-- `getNextRequest` changes nothing, or, with room in the map, takes the
first request whose BMC has cooled down out of the queue and puts it in the
map with its start time. -/
theorem getNextRequest_spec :
    pq.getNextRequest now = (pq, none) ∨
    ∃ l₁ r l₂, pq.queue = l₁ ++ r :: l₂ ∧ (pq.processing.items.length : Int) < pq.maxConcurrentOps ∧
      pq.cooledDown now r.host.bmcAddress = true ∧
      pq.getNextRequest now =
        ({ pq with queue := l₁ ++ l₂, processing := pq.processing.put { r with startedAt := some now } },
          some { r with startedAt := some now }) := by
  unfold getNextRequest
  split
  · exact .inl rfl
  · rename_i hroom
    rw [List.extractP_eq_find?_eraseP]
    cases hfind : pq.queue.find? (fun r => pq.cooledDown now r.host.bmcAddress) with
    | none => exact .inl rfl
    | some r =>
      obtain ⟨hcool, l₁, l₂, hqueue, hskip⟩ := List.find?_eq_some_iff_append.mp hfind
      -- the loop skips `l₁` and removes `r`
      have herase : pq.queue.eraseP (fun r => pq.cooledDown now r.host.bmcAddress) = l₁ ++ l₂ := by
        rw [hqueue, List.eraseP_append_right _ (fun b hb => by simpa using hskip b hb)]
        simp [hcool]
      refine .inr ⟨l₁, r, l₂, hqueue, by omega, hcool, ?_⟩
      rw [herase]

@[simp] theorem processRequest_fst (request : ProvisioningRequest) :
    (pq.processRequest now request).1 =
      { pq.setLastBMCOperation request.host.bmcAddress now with
        processing := pq.processing.erase request.host.metadata.name } := rfl

/-- One pass of `AcquireBMCPermit`: the host is processing and the caller
goes on, or there is room and the BMC has cooled down and the host's entry
is added, or the caller waits. -/
theorem AcquireBMCPermit_spec (host : PhysicalHost) :
    ((pq.processing.get host.metadata.name).isSome ∧ pq.AcquireBMCPermit now host = (pq, true)) ∨
    (pq.processing.get host.metadata.name = none ∧
      (pq.processing.items.length : Int) < pq.maxConcurrentOps ∧
      pq.cooledDown now host.bmcAddress = true ∧
      pq.AcquireBMCPermit now host = ({ pq with processing := pq.processing.put { host } }, true)) ∨
    pq.AcquireBMCPermit now host = (pq, false) := by
  unfold AcquireBMCPermit
  by_cases hproc : (pq.processing.get host.metadata.name).isSome
  · exact .inl ⟨hproc, by simp [hproc]⟩
  · have hnone : pq.processing.get host.metadata.name = none := by simpa using hproc
    rw [if_neg hproc]
    split
    · rename_i hcond
      exact .inr (.inl ⟨hnone, hcond.1, hcond.2, rfl⟩)
    · exact .inr (.inr rfl)

@[simp] theorem ReleaseBMCPermit_eq (host : PhysicalHost) :
    pq.ReleaseBMCPermit now host =
      { pq with processing := pq.processing.erase host.metadata.name }.setLastBMCOperation
        host.bmcAddress now := rfl

/-- A cancellation that does not panic leaves the map and the BMC times, and
at most removes a queued request. -/
theorem CancelRequest_spec {requestID : String} {pq' : ProvisioningQueue} {found : Bool}
    (hok : pq.CancelRequest requestID = .ok (pq', found)) :
    pq' = pq ∨ pq' = { pq with queue := pq.queue.eraseP (·.id = requestID) } := by
  unfold CancelRequest at hok
  split at hok
  · split at hok
    · cases hok
      exact .inr rfl
    · cases hok
  · split at hok
    · split at hok
      · cases hok
        exact .inl rfl
      · cases hok
    · cases hok
      exact .inl rfl

end ProvisioningQueue

end Beskar7
