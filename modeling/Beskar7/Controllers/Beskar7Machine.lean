import Beskar7.Api.Server
import Beskar7.Controllers.ProviderID

/-!
# The Beskar7Machine controller

`Beskar7MachineReconciler.Reconcile` of `controllers/beskar7machine_controller.go`.
A machine finds its host through its ProviderID, or claims an Available,
unclaimed host in its namespace; it then drives the host through inspection
(`triggerInspection`, `handleInspectingHost`, `validateInspectionReport`)
and, once the host is Ready, copies it into its own status
(`handleReadyHost`). On deletion it releases the host its ProviderID names.

Host writes go to the world as they happen; the machine is changed in
memory and written by the patch deferred in `Reconcile`.
-/

namespace Beskar7

open GoString

def Beskar7MachineFinalizer : String := "beskar7machine.infrastructure.cluster.x-k8s.io"

def DefaultInspectionTimeout : Duration := 10 * minute

structure Beskar7MachineReconciler where
  redfishClientFactory : Option RedfishClientFactory

/-- How `Reconcile` gets past the steps before its deferred patch: the owner
Machine, the Cluster and its pause, the patch helper. -/
inductive MachinePrelude
  | getOwnerFailed
  | ownerNotSet
  | getClusterFailed
  | clusterPaused
  | patchHelperFailed
  | ready
  deriving DecidableEq, Repr

/-- The answers of the API server and of the owner lookups to one reconcile
of a machine; it makes at most one host write. -/
structure MachineReconcileEnv where
  prelude : MachinePrelude := .ready
  getFails : Bool := false
  hostGetFails : Bool := false
  listFails : Bool := false
  secretGetFails : Bool := false
  hostWriteFails : Bool := false
  patchFails : Bool := false

/-- What a handler leaves: the world after its host writes, the machine as
it changed it in memory, and what it returns. -/
structure Handled where
  world : World
  machine : Beskar7Machine
  result : Result := {}
  err : Option ReconcileError := none
  effects : List Effect := []

def Beskar7Machine.setStatus (m : Beskar7Machine)
    (f : Beskar7MachineStatus → Beskar7MachineStatus) : Beskar7Machine :=
  { m with status := f m.status }

def Beskar7Machine.setConditions (m : Beskar7Machine) (f : Conditions → Conditions) :
    Beskar7Machine :=
  m.setStatus fun s => { s with conditions := f s.conditions }

/-- The reference a claim writes into the host. -/
def consumerRefFor (m : Beskar7Machine) : ObjectReference :=
  ⟨m.kind, m.apiVersion, m.metadata.name, m.metadata.ns, m.metadata.uid⟩

-- ---------------------------------------------------------------------------
-- Hardware validation
-- ---------------------------------------------------------------------------

/-- The checks of `validateInspectionReport`, summing in Go's 64-bit `int`.
A memory capacity that does not scan is skipped. -/
def checkHardwareRequirements (reqs : HardwareRequirements) (report : InspectionReport) :
    Option ReconcileError :=
  let totalCores := report.cpus.foldl (fun total cpu => total + cpu.cores) 0
  if reqs.minCPUCores > 0 ∧ totalCores < reqs.minCPUCores then
    some (.insufficientCPUCores totalCores reqs.minCPUCores)
  else
    let totalMemoryGB := report.memory.foldl (fun total mem =>
      match sscanfInt mem.capacity with
      | .ok memGB => total + memGB
      | .error _ => total) 0
    if reqs.minMemoryGB > 0 ∧ totalMemoryGB < reqs.minMemoryGB then
      some (.insufficientMemory totalMemoryGB reqs.minMemoryGB)
    else if reqs.minDiskGB > 0 then
      let totalDisk := report.disks.foldl (fun total disk => total + disk.sizeGB) 0
      if totalDisk < reqs.minDiskGB then some (.insufficientDiskSpace totalDisk reqs.minDiskGB)
      else none
    else none

namespace Beskar7MachineReconciler

def getRedfishClientForHost (r : Beskar7MachineReconciler) (w : World) (env : MachineReconcileEnv)
    (h : PhysicalHost) : Except ReconcileError Client :=
  let secret := if env.secretGetFails then none
    else w.secrets.get ⟨h.metadata.ns, h.spec.redfishConnection.credentialsSecretRef⟩
  match secret with
  | none => .error .getCredentialsSecret
  | some secret =>
    -- a missing key reads as the empty string
    let username := (secret.data.lookup "username").getD ""
    let password := (secret.data.lookup "password").getD ""
    let insecure := h.spec.redfishConnection.insecureSkipVerify.getD false
    match r.redfishClientFactory with
    | none => .error (.nilCall "RedfishClientFactory")
    | some factory =>
      (factory h.spec.redfishConnection.address username password insecure).mapError .redfish

def triggerInspection (r : Beskar7MachineReconciler) (w : World) (env : MachineReconcileEnv)
    (m : Beskar7Machine) (h : PhysicalHost) : Handled :=
  let k := key h
  match r.getRedfishClientForHost w env h with
  | .error e => { world := w, machine := m, err := some e }
  | .ok client =>
    match client.setBootSourcePXE with
    | .error e =>
      { world := w, machine := m, err := some (.redfish e), effects := [.redfish k .setBootSourcePXE] }
    | .ok () =>
      let calls := [Effect.redfish k .setBootSourcePXE, .redfish k .getPowerState]
      match client.getPowerState with
      | .error e => { world := w, machine := m, err := some (.redfish e), effects := calls }
      | .ok powerState =>
        -- a system that is On already gets no power action
        let (powerOn, calls) : Except String Unit × List Effect :=
          if powerState ≠ OnPowerState then
            (client.setPowerState OnPowerState, calls ++ [.redfish k (.setPowerState OnPowerState)])
          else (.ok (), calls)
        match powerOn with
        | .error e => { world := w, machine := m, err := some (.redfish e), effects := calls }
        | .ok () =>
          let h := { h with status := { h.status with
            state := .inspecting, inspectionPhase := .booting, inspectionTimestamp := some w.metaNow } }
          if env.hostWriteFails then { world := w, machine := m, err := some .api, effects := calls }
          else
            { world := w.updateHostStatus h,
              machine := m.setStatus fun s => { s with phase := some .inspecting },
              result := { requeueAfter := 30 * second }, effects := calls ++ [.writeHostStatus k] }

def validateInspectionReport (w : World) (env : MachineReconcileEnv) (m : Beskar7Machine)
    (h : PhysicalHost) : Handled :=
  match h.status.inspectionReport with
  | none => { world := w, machine := m, result := { requeueAfter := 10 * second } }
  | some report =>
    match m.spec.hardwareRequirements.bind (checkHardwareRequirements · report) with
    | some err => { world := w, machine := m, err := some err }
    | none =>
      let h := { h with status := { h.status with
        state := .ready, conditions := h.status.conditions.markTrue .hostInspected } }
      if env.hostWriteFails then { world := w, machine := m, err := some .api }
      else
        { world := w.updateHostStatus h, machine := m, result := { requeue := true },
          effects := [.writeHostStatus (key h)] }

/-- Whether the inspection started more than `DefaultInspectionTimeout` ago. -/
def inspectionTimedOut (w : World) (h : PhysicalHost) : Bool :=
  match h.status.inspectionTimestamp with
  | some ts => w.now - ts * second > DefaultInspectionTimeout
  | none => false

def handleInspectingHost (w : World) (env : MachineReconcileEnv) (m : Beskar7Machine)
    (h : PhysicalHost) : Handled :=
  if inspectionTimedOut w h then
    let h := { h with status := { h.status with inspectionPhase := .timeout, state := .error } }
    -- a failed write is only logged
    { world := if env.hostWriteFails then w else w.updateHostStatus h, machine := m,
      err := some .inspectionTimeout,
      effects := if env.hostWriteFails then [] else [.writeHostStatus (key h)] }
  else if h.status.inspectionPhase = .complete then validateInspectionReport w env m h
  else
    { world := w, machine := m.setStatus fun s => { s with phase := some .inspecting },
      result := { requeueAfter := 30 * second } }

def handleReadyHost (m : Beskar7Machine) (h : PhysicalHost) : Beskar7Machine :=
  let currentProviderID := providerID h.metadata.ns h.metadata.name
  let m := if m.spec.providerID ≠ some currentProviderID then
      { m with spec := { m.spec with providerID := some currentProviderID } }
    else m
  let m := if h.status.addresses ≠ [] then
      m.setStatus fun s => { s with addresses := h.status.addresses }
    else m
  (m.setConditions (·.markTrue .infrastructureReady)).setStatus fun s =>
    { s with ready := true, phase := some .provisioned }

def handlePhysicalHostState (r : Beskar7MachineReconciler) (w : World) (env : MachineReconcileEnv)
    (m : Beskar7Machine) (h : PhysicalHost) : Handled :=
  let out : Handled :=
    match h.status.state with
    | .ready => { world := w, machine := handleReadyHost m h }
    | .inspecting => handleInspectingHost w env m h
    | .inUse => r.triggerInspection w env m h
    | .error =>
      { world := w,
        machine := (m.setConditions (·.markFalse .infrastructureReady "PhysicalHostError" .error)).setStatus
          fun s => { s with phase := some .failed, ready := false } }
    | _ =>
      { world := w,
        machine := (m.setConditions (·.markFalse .infrastructureReady "PhysicalHostNotReady" .info)).setStatus
          fun s => { s with phase := some .pending },
        result := { requeueAfter := 30 * second } }
  { out with effects := .handle (key m) (key h) h.status.state :: out.effects }

/-- The host the ProviderID names, when it parses to the machine's own
namespace and the Get finds the host. -/
def hostByProviderID (w : World) (env : MachineReconcileEnv) (m : Beskar7Machine) :
    Option PhysicalHost :=
  match m.spec.providerID with
  | some id =>
    if id = "" then none
    else
      match parseProviderID id with
      | .ok (ns, name) =>
        if ns = bytes m.metadata.ns ∧ env.hostGetFails = false then w.getHostBytes ns name else none
      | .error _ => none
  | none => none

/-- What `findAndClaimOrGetAssociatedHost` returns, with the world after it. -/
structure Found where
  world : World
  host : Option PhysicalHost
  result : Result := {}
  err : Option ReconcileError := none
  effects : List Effect := []

def isClaimable (h : PhysicalHost) : Bool :=
  h.status.state = .available ∧ h.spec.consumerRef = none

def findAndClaimOrGetAssociatedHost (w : World) (env : MachineReconcileEnv) (m : Beskar7Machine) :
    Found :=
  match hostByProviderID w env m with
  | some host => { world := w, host := some host }
  | none =>
    if env.listFails then { world := w, host := none, err := some .api }
    else
      match (w.listHosts m.metadata.ns).find? isClaimable with
      | none => { world := w, host := none }
      | some host =>
        let host := { host with spec := { host.spec with consumerRef := some (consumerRefFor m) } }
        if env.hostWriteFails then { world := w, host := none, err := some .api }
        else
          { world := w.updateHost host, host := some host, result := { requeueAfter := 5 * second },
            effects := [.writeHostSpec (key host)] }

def reconcileNormal (r : Beskar7MachineReconciler) (w : World) (env : MachineReconcileEnv)
    (m : Beskar7Machine) : Handled :=
  if Beskar7MachineFinalizer ∉ m.metadata.finalizers then
    { world := w, machine := { m with metadata := m.metadata.addFinalizer Beskar7MachineFinalizer },
      result := { requeue := true } }
  else
    let found := findAndClaimOrGetAssociatedHost w env m
    match found.err, found.host with
    | some err, _ =>
      { world := found.world, result := found.result, err := some err, effects := found.effects,
        machine := m.setConditions
          (·.markFalse .physicalHostAssociated "PhysicalHostAssociationFailed" .warning) }
    | none, none =>
      { world := found.world, result := { requeueAfter := minute }, effects := found.effects,
        machine := m.setConditions
          (·.markFalse .physicalHostAssociated "WaitingForPhysicalHost" .info) }
    | none, some host =>
      let m := m.setConditions (·.markTrue .physicalHostAssociated)
      -- a claim returns its requeue: the host is handled only by a later reconcile
      if !found.result.isZero then
        { world := found.world, machine := m, result := found.result, effects := found.effects }
      else
        let out := r.handlePhysicalHostState found.world env m host
        { out with effects := found.effects ++ out.effects }

def reconcileDelete (w : World) (env : MachineReconcileEnv) (m : Beskar7Machine) : Handled :=
  -- `none` when the release was tried and its write failed
  let released : Option (World × List Effect) :=
    match m.spec.providerID with
    | some id =>
      if id = "" then some (w, [])
      else
        match parseProviderID id with
        | .ok (ns, name) =>
          match if env.hostGetFails then none else w.getHostBytes ns name with
          | some host =>
            -- only the name of the consumer is compared
            if host.spec.consumerRef.any (·.name = m.metadata.name) then
              if env.hostWriteFails then none
              else
                some (w.updateHost { host with spec := { host.spec with consumerRef := none } },
                  [.writeHostSpec (key host)])
            else some (w, [])
          | none => some (w, [])
        | .error _ => some (w, [])
    | none => some (w, [])
  match released with
  | none => { world := w, machine := m, err := some .api }
  | some (w, effects) =>
    { world := w, effects,
      machine := { m with metadata := m.metadata.removeFinalizer Beskar7MachineFinalizer } }

def Reconcile (r : Beskar7MachineReconciler) (w : World) (k : ObjectKey)
    (env : MachineReconcileEnv) : Reconciled :=
  if env.getFails then { world := w, err := some .api }
  else
    match w.machines.get k with
    | none => { world := w }
    | some m =>
      if isPaused m.metadata then { world := w }
      else
        match env.prelude with
        | .getOwnerFailed => { world := w, err := some .api }
        | .ownerNotSet => { world := w, result := { requeueAfter := 10 * second } }
        | .getClusterFailed => { world := w, err := some .api }
        | .clusterPaused => { world := w }
        | .patchHelperFailed => { world := w, err := some .api }
        | .ready =>
          let out := if m.metadata.deletionTimestamp.isSome then reconcileDelete w env m
            else r.reconcileNormal w env m
          -- the deferred patch; `conditions.SetSummary` before it is not modelled
          if env.patchFails then
            { world := out.world, result := out.result, err := out.err.orElse fun _ => some .api,
              effects := out.effects }
          else
            { world := out.world.patchMachine out.machine, result := out.result, err := out.err,
              effects := out.effects }

end Beskar7MachineReconciler

end Beskar7
