import Beskar7.Api.Server

/-!
# The PhysicalHost controller

`PhysicalHostReconciler.Reconcile` of `controllers/physicalhost_controller.go`:
it adds the finalizer, connects to the host's BMC with the credentials of its
secret, records what the BMC reports, and sets `Status.State` from
`Spec.ConsumerRef`; on deletion it warns about a claimed host and removes the
finalizer.

The collaborators are fields that may be nil, as in Go; a reconcile that
calls through a nil one stops with `nilCall`. `ErrorMessage` and the
condition messages are not modelled.
-/

namespace Beskar7

def PhysicalHostFinalizer : String := "physicalhost.infrastructure.cluster.x-k8s.io"

/-- `record.EventRecorder`: only whether there is one matters here. -/
structure EventRecorder where

structure PhysicalHostReconciler where
  recorder : Option EventRecorder
  redfishClientFactory : Option RedfishClientFactory

/-- The API server's answers to the calls of one reconcile of a host: each
reconcile makes at most one write. -/
structure HostReconcileEnv where
  getFails : Bool := false
  secretGetFails : Bool := false
  updateFails : Bool := false

/-- `updateStatus`; its message goes to `ErrorMessage`. -/
def updateStatus (ph : PhysicalHost) (state : HostState) (ready : Bool) : PhysicalHost :=
  { ph with status := { ph.status with state, ready } }

def PhysicalHost.setConditions (ph : PhysicalHost) (f : Conditions → Conditions) : PhysicalHost :=
  { ph with status := { ph.status with conditions := f ph.status.conditions } }

/-- A failed connection: State Error, `RedfishConnectionReady` false. -/
def markConnectionFailed (ph : PhysicalHost) (reason : String) : PhysicalHost :=
  (updateStatus ph .error false).setConditions (·.markFalse .redfishConnectionReady reason .error)

/-- The state a reconcile that reached the BMC gives the host: a claimed host
becomes InUse unless it is InUse, Inspecting or Ready already; an unclaimed
one becomes Available. -/
def stateFromConsumerRef (ph : PhysicalHost) : PhysicalHost :=
  match ph.spec.consumerRef with
  | some _ =>
    if ph.status.state ≠ .inUse ∧ ph.status.state ≠ .inspecting ∧ ph.status.state ≠ .ready then
      updateStatus ph .inUse true
    else ph
  | none =>
    if ph.status.state ≠ .available then
      (updateStatus ph .available true).setConditions (·.markTrue .hostAvailable)
    else ph

/-- What the BMC reported: hardware details, and the power state and the
addresses when their queries succeed. -/
def recordSystem (ph : PhysicalHost) (sysInfo : SystemInfo) (client : Client) : PhysicalHost :=
  let ph := { ph with status := { ph.status with hardwareDetails :=
    { manufacturer := sysInfo.manufacturer, model := sysInfo.model,
      serialNumber := sysInfo.serialNumber,
      status := { health := sysInfo.status.health, healthRollup := sysInfo.status.healthRollup,
                  state := sysInfo.status.state } } } }
  let ph := match client.getPowerState with
    | .ok powerState => { ph with status := { ph.status with observedPowerState := powerState } }
    | .error _ => ph
  match client.getNetworkAddresses with
  | .ok addresses =>
    { ph with status := { ph.status with addresses := ConvertToMachineAddresses addresses } }
  | .error _ => ph

namespace PhysicalHostReconciler

def getRedfishCredentials (w : World) (env : HostReconcileEnv) (ph : PhysicalHost) :
    Except ReconcileError (String × String) :=
  let secretName := ph.spec.redfishConnection.credentialsSecretRef
  if secretName = "" then .error .credentialsSecretRefEmpty
  else if env.secretGetFails then .error .getCredentialsSecret
  else
    match w.secrets.get ⟨ph.metadata.ns, secretName⟩ with
    | none => .error (.credentialsSecretNotFound secretName)
    | some secret =>
      match secret.data.lookup "username", secret.data.lookup "password" with
      | none, _ => .error (.usernameNotFound secretName)
      | some _, none => .error (.passwordNotFound secretName)
      | some username, some password => .ok (username, password)

def reconcileNormal (r : PhysicalHostReconciler) (w : World) (env : HostReconcileEnv)
    (ph : PhysicalHost) : Reconciled :=
  let k := key ph
  match getRedfishCredentials w env ph with
  | .error err =>
    -- here, unlike below, a failed status write replaces the error
    if env.updateFails then { world := w, err := some .api }
    else
      { world := w.updateHostStatus (markConnectionFailed ph "MissingCredentials"),
        result := { requeueAfter := minute }, err := some err, effects := [.writeHostStatus k] }
  | .ok (username, password) =>
    let insecure := ph.spec.redfishConnection.insecureSkipVerify.getD false
    match r.redfishClientFactory with
    | none => { world := w, err := some (.nilCall "RedfishClientFactory") }
    | some factory =>
      match factory ph.spec.redfishConnection.address username password insecure with
      | .error e =>
        { world := if env.updateFails then w
            else w.updateHostStatus (markConnectionFailed ph "RedfishConnectionFailed"),
          result := { requeueAfter := minute }, err := some (.redfish e),
          effects := if env.updateFails then [] else [.writeHostStatus k] }
      | .ok client =>
        match client.getSystemInfo with
        | .error e =>
          { world := if env.updateFails then w
              else w.updateHostStatus (markConnectionFailed ph "RedfishQueryFailed"),
            result := { requeueAfter := minute }, err := some (.redfish e),
            effects := .redfish k .getSystemInfo ::
              if env.updateFails then [] else [.writeHostStatus k] }
        | .ok sysInfo =>
          let ph := recordSystem ph sysInfo client
          let ph := stateFromConsumerRef (ph.setConditions (·.markTrue .redfishConnectionReady))
          let calls := [RedfishCall.getSystemInfo, .getPowerState, .getNetworkAddresses].map
            (.redfish k)
          if env.updateFails then { world := w, err := some .api, effects := calls }
          else
            { world := w.updateHostStatus ph, result := { requeueAfter := 5 * minute },
              effects := calls ++ [.writeHostStatus k] }

def reconcileDelete (r : PhysicalHostReconciler) (w : World) (env : HostReconcileEnv)
    (ph : PhysicalHost) : Reconciled :=
  let k := key ph
  -- a host still claimed is deleted anyway, with a warning event
  if ph.spec.consumerRef.isSome ∧ r.recorder.isNone then
    { world := w, err := some (.nilCall "Recorder") }
  else
    let events := if ph.spec.consumerRef.isSome then [Effect.event k "DeletingClaimedHost"] else []
    if PhysicalHostFinalizer ∈ ph.metadata.finalizers then
      if env.updateFails then { world := w, err := some .api, effects := events }
      else
        { world := w.updateHost
            { ph with metadata := ph.metadata.removeFinalizer PhysicalHostFinalizer },
          effects := events ++ [.writeHostSpec k] }
    else { world := w, effects := events }

def Reconcile (r : PhysicalHostReconciler) (w : World) (k : ObjectKey) (env : HostReconcileEnv) :
    Reconciled :=
  if env.getFails then { world := w, err := some .api }
  else
    match w.hosts.get k with
    | none => { world := w }
    | some ph =>
      if ph.metadata.deletionTimestamp.isSome then r.reconcileDelete w env ph
      else if PhysicalHostFinalizer ∉ ph.metadata.finalizers then
        if env.updateFails then { world := w, err := some .api }
        else
          { world := w.updateHost
              { ph with metadata := ph.metadata.addFinalizer PhysicalHostFinalizer },
            result := { requeue := true }, effects := [.writeHostSpec k] }
      else r.reconcileNormal w env ph

end PhysicalHostReconciler

end Beskar7
