import Beskar7.Coordination.ProvisioningQueue
import Beskar7.Lib.Trace

/-!
# Workers and permit holders

The queue is shared by its workers, each of which takes a request with
`getNextRequest` and later runs the locked section of `processRequest`, and
by callers that hold a BMC permit from `AcquireBMCPermit` to
`ReleaseBMCPermit`. Every method is atomic, so a run of the whole is a list
of method calls in any order. `QueueSystem` keeps, besides the queue, what
each busy worker is processing and the host each caller holds a permit
for: the operations in flight.

A step reports what it does to the BMCs: an operation starts, through the
cooldown check or not, or ends.
-/

namespace Beskar7

/-- A worker between `getNextRequest` and the end of `processRequest`. -/
structure Busy where
  worker : Nat
  request : ProvisioningRequest
  deriving DecidableEq, Repr

instance : HasKey Busy Nat := ⟨Busy.worker⟩

/-- A caller between `AcquireBMCPermit` and `ReleaseBMCPermit`. -/
structure Permit where
  caller : Nat
  host : PhysicalHost
  deriving DecidableEq, Repr

instance : HasKey Permit Nat := ⟨Permit.caller⟩

structure QueueSystem where
  pq : ProvisioningQueue
  now : Duration
  workers : Store Busy
  permits : Store Permit

inductive QueueEvent
  | submit (host : PhysicalHost) (operation : ProvisioningOperation)
  /-- an idle worker's tick: `getNextRequest` -/
  | next (worker : Nat)
  /-- the end of the worker's `processRequest` -/
  | complete (worker : Nat)
  /-- one pass of `AcquireBMCPermit` by a caller without a permit -/
  | acquire (caller : Nat) (host : PhysicalHost)
  | release (caller : Nat)
  | cancel (requestID : String)
  | tick (d : Duration)

inductive QueueEffect
  /-- an operation on the host's BMC starts; `checked` when the cooldown was checked -/
  | start (host : PhysicalHost) (time : Duration) (checked : Bool)
  | finish (host : PhysicalHost) (time : Duration)
  | panic (msg : String)
  deriving DecidableEq, Repr

namespace QueueSystem

def init (maxConcurrent maxQueueSize : Int) : QueueSystem :=
  { pq := NewProvisioningQueue maxConcurrent maxQueueSize, now := 0, workers := ∅, permits := ∅ }

def step (s : QueueSystem) : QueueEvent → QueueSystem × List QueueEffect
  | .submit host operation => ({ s with pq := (s.pq.SubmitRequest s.now host operation).1 }, [])
  | .next w =>
    match s.workers.get w with
    | some _ => (s, [])
    | none =>
      match s.pq.getNextRequest s.now with
      | (pq, some request) =>
        ({ s with pq, workers := s.workers.put ⟨w, request⟩ }, [.start request.host s.now true])
      | (pq, none) => ({ s with pq }, [])
  | .complete w =>
    match s.workers.get w with
    | some b =>
      ({ s with pq := (s.pq.processRequest s.now b.request).1, workers := s.workers.erase w },
        [.finish b.request.host s.now])
    | none => (s, [])
  | .acquire c host =>
    match s.permits.get c with
    | some _ => (s, [])
    | none =>
      match s.pq.AcquireBMCPermit s.now host with
      | (pq, true) =>
        -- the re-entrant path lets the caller through without the cooldown check
        ({ s with pq, permits := s.permits.put ⟨c, host⟩ },
          [.start host s.now !(s.pq.processing.get host.metadata.name).isSome])
      | (pq, false) => ({ s with pq }, [])
  | .release c =>
    match s.permits.get c with
    | some p =>
      ({ s with pq := s.pq.ReleaseBMCPermit s.now p.host, permits := s.permits.erase c },
        [.finish p.host s.now])
    | none => (s, [])
  | .cancel requestID =>
    match s.pq.CancelRequest requestID with
    | .ok (pq, _) => ({ s with pq }, [])
    | .error msg => (s, [.panic msg])
  | .tick d => ({ s with now := s.now + d }, [])

def run (s : QueueSystem) (es : List QueueEvent) : QueueSystem := Trace.run step s es

def effects (s : QueueSystem) (es : List QueueEvent) : List QueueEffect := Trace.effects step s es

/-- The hosts of the operations in flight: the requests the workers took,
and the permits held. -/
def inFlight (s : QueueSystem) : List PhysicalHost :=
  s.workers.items.map (·.request.host) ++ s.permits.items.map (·.host)

def inFlightNames (s : QueueSystem) : List String := s.inFlight.map (·.metadata.name)

def queuedNames (s : QueueSystem) : List String := s.pq.queue.map (·.host.metadata.name)

end QueueSystem

-- ---------------------------------------------------------------------------
-- Two operations on one host
-- ---------------------------------------------------------------------------

open QueueSystem

/-- A host behind the BMC at `address`. -/
def queueHost (name address : String) : PhysicalHost :=
  { metadata := { ns := "default", name, uid := 0 },
    spec := { redfishConnection := { address, credentialsSecretRef := "bmc-creds" } } }

end Beskar7
