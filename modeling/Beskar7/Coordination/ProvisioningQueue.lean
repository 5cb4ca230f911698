import Beskar7.Api.Types

/-!
# The provisioning queue

`ProvisioningQueue` of `internal/coordination/provisioning_queue.go`: a queue
of provisioning requests that workers take one at a time, a map of what is
being processed keyed by host name, and for each BMC address the time of
its last operation, which spaces operations on one BMC by a cooldown.
Callers outside the queue take BMC permits through the same map.

Every method holds the queue's mutex for its whole body, so each is one
atomic step here, given the time `now` that its `time.Now()` reads.
`AcquireBMCPermit` is one pass of its polling loop, and `processRequest` is
its section under the lock with the result it sends: the operation itself
only sleeps and does not touch the queue. Request contexts, result channels
and log lines are not modelled, nor the Beskar7Machine a request carries,
which nothing reads.
-/

namespace Beskar7

/-- `ProvisioningOperation`, a string type. -/
abbrev ProvisioningOperation := String

def OperationClaim : ProvisioningOperation := "claim"
def OperationProvision : ProvisioningOperation := "provision"
def OperationDeprovision : ProvisioningOperation := "deprovision"
def OperationRelease : ProvisioningOperation := "release"

/-- `ProvisioningRequest`. A permit's entry in the map is a request with
only its host set: no ID, and no `CancelFunc`. -/
structure ProvisioningRequest where
  id : String := ""
  host : PhysicalHost
  operation : ProvisioningOperation := ""
  submittedAt : Duration := 0
  startedAt : Option Duration := none
  /-- whether `CancelFunc` is set -/
  cancelable : Bool := false
  deriving DecidableEq, Repr

/-- The map `processing` is keyed by the host's name, without its namespace. -/
instance : HasKey ProvisioningRequest String := ⟨fun r => r.host.metadata.name⟩

theorem ProvisioningRequest.key_def (r : ProvisioningRequest) : key r = r.host.metadata.name := rfl

structure ProvisioningResult where
  success : Bool
  error : Option String := none
  host : Option PhysicalHost := none
  retryable : Bool := false
  deriving DecidableEq, Repr

structure ProvisioningQueue where
  queue : List ProvisioningRequest
  processing : Store ProvisioningRequest
  maxConcurrentOps : Int
  maxQueueSize : Int
  operationTimeout : Duration
  bmcCooldownPeriod : Duration
  /-- keyed by BMC address -/
  lastBMCOperation : String → Option Duration

def NewProvisioningQueue (maxConcurrent maxQueueSize : Int) : ProvisioningQueue :=
  { queue := [], processing := ∅, maxConcurrentOps := maxConcurrent, maxQueueSize,
    operationTimeout := 5 * minute, bmcCooldownPeriod := 10 * second,
    lastBMCOperation := fun _ => none }

/-- The BMC a host's operations go to. -/
def PhysicalHost.bmcAddress (h : PhysicalHost) : String := h.spec.redfishConnection.address

namespace ProvisioningQueue

/-- The check both `AcquireBMCPermit` and `getNextRequest` make: no
operation on the BMC yet, or the last one at least a cooldown ago. -/
def cooledDown (pq : ProvisioningQueue) (now : Duration) (address : String) : Bool :=
  match pq.lastBMCOperation address with
  | some last => !decide (now - last < pq.bmcCooldownPeriod)
  | none => true

/-- `pq.lastBMCOperation[address] = time.Now()`. -/
def setLastBMCOperation (pq : ProvisioningQueue) (address : String) (now : Duration) :
    ProvisioningQueue :=
  { pq with lastBMCOperation := fun a => if a = address then some now else pq.lastBMCOperation a }

/-- One pass of `AcquireBMCPermit`'s loop: `true` when the caller may go on,
`false` when it waits for the next tick. -/
def AcquireBMCPermit (pq : ProvisioningQueue) (now : Duration) (host : PhysicalHost) :
    ProvisioningQueue × Bool :=
  -- a host already processing is let through, whoever is processing it
  if (pq.processing.get host.metadata.name).isSome then (pq, true)
  else if (pq.processing.items.length : Int) < pq.maxConcurrentOps ∧
      pq.cooledDown now host.bmcAddress then
    ({ pq with processing := pq.processing.put { host } }, true)
  else (pq, false)

def ReleaseBMCPermit (pq : ProvisioningQueue) (now : Duration) (host : PhysicalHost) :
    ProvisioningQueue :=
  { pq with processing := pq.processing.erase host.metadata.name }.setLastBMCOperation
    host.bmcAddress now

/-- What `SubmitRequest` returns: a request and an error, either or both. -/
structure Submitted where
  request : Option ProvisioningRequest
  err : Option String := none

def SubmitRequest (pq : ProvisioningQueue) (now : Duration) (host : PhysicalHost)
    (operation : ProvisioningOperation) : ProvisioningQueue × Submitted :=
  if (pq.queue.length : Int) ≥ pq.maxQueueSize then
    (pq, { request := none,
           err := some ("provisioning queue is full (max: " ++ toString pq.maxQueueSize ++ ")") })
  else
    -- only a host being processed is turned away, not one already queued
    match pq.processing.get host.metadata.name with
    | some existing =>
      (pq, { request := some existing,
             err := some ("host " ++ host.metadata.name ++ " already has operation " ++
               existing.operation ++ " in progress") })
    | none =>
      let request : ProvisioningRequest :=
        { id := host.metadata.name ++ "-" ++ operation ++ "-" ++ toString now, host, operation,
          submittedAt := now, cancelable := true }
      ({ pq with queue := pq.queue ++ [request] }, { request := some request })

/-- The first queued request whose BMC has cooled down leaves the queue and
is processing, under its host's name. -/
def getNextRequest (pq : ProvisioningQueue) (now : Duration) :
    ProvisioningQueue × Option ProvisioningRequest :=
  if (pq.processing.items.length : Int) ≥ pq.maxConcurrentOps then (pq, none)
  else
    -- the loop over the queue: the first eligible request, and the queue without it
    match pq.queue.extractP fun r => pq.cooledDown now r.host.bmcAddress with
    | (some request, queue) =>
      let request := { request with startedAt := some now }
      ({ pq with queue, processing := pq.processing.put request }, some request)
    | (none, _) => (pq, none)

def processClaim (request : ProvisioningRequest) : ProvisioningResult :=
  { success := true, host := some request.host, retryable := false }

def processProvision (request : ProvisioningRequest) : ProvisioningResult :=
  { success := true, host := some request.host, retryable := true }

def processDeprovision (request : ProvisioningRequest) : ProvisioningResult :=
  { success := true, host := some request.host, retryable := true }

def processRelease (request : ProvisioningRequest) : ProvisioningResult :=
  { success := true, host := some request.host, retryable := false }

/-- The operation's result and the section under the lock after it: the
BMC's last operation is now, and the host's entry leaves the map. -/
def processRequest (pq : ProvisioningQueue) (now : Duration) (request : ProvisioningRequest) :
    ProvisioningQueue × ProvisioningResult :=
  let result :=
    if request.operation = OperationClaim then processClaim request
    else if request.operation = OperationProvision then processProvision request
    else if request.operation = OperationDeprovision then processDeprovision request
    else if request.operation = OperationRelease then processRelease request
    else { success := false, error := some ("unknown operation: " ++ request.operation) }
  let pq := pq.setLastBMCOperation request.host.bmcAddress now
  ({ pq with processing := pq.processing.erase request.host.metadata.name }, result)

/-- `CancelRequest`; calling a permit's nil `CancelFunc` panics. -/
def CancelRequest (pq : ProvisioningQueue) (requestID : String) :
    Except String (ProvisioningQueue × Bool) :=
  match pq.queue.find? (·.id = requestID) with
  | some req =>
    if req.cancelable then .ok ({ pq with queue := pq.queue.eraseP (·.id = requestID) }, true)
    else .error "invalid memory address or nil pointer dereference"
  | none =>
    match pq.processing.items.find? (·.id = requestID) with
    | some req =>
      if req.cancelable then .ok (pq, true)
      else .error "invalid memory address or nil pointer dereference"
    | none => .ok (pq, false)

def GetQueueStatus (pq : ProvisioningQueue) : Nat × Nat :=
  (pq.queue.length, pq.processing.items.length)

end ProvisioningQueue

end Beskar7
