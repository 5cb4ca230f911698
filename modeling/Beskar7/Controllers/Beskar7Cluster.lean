import Beskar7.Api.Server

/-!
# The Beskar7Cluster controller

`Beskar7ClusterReconciler.Reconcile` of `controllers/beskar7cluster_controller.go`.
A cluster takes its failure domains from the zone labels of the PhysicalHosts
in its namespace (`reconcileFailureDomains`), and its control plane endpoint
from the first ready control-plane Machine with an address, preferring that
Machine's first InternalIP (`findControlPlaneEndpoint`).

The controller writes no object but its own, and reads the PhysicalHosts and
the Cluster API Machines and Cluster only through List and Get: they are the
API server's answers, given with each reconcile in `ClusterReconcileEnv`,
filtered here by the options of the List. The Beskar7Clusters are kept in a
store of their own; the object is changed in memory and written by the patch
deferred in `Reconcile`.
-/

namespace Beskar7

def Beskar7ClusterFinalizer : String := "beskar7cluster.infrastructure.cluster.x-k8s.io"

def zoneLabelKey : String := "topology.kubernetes.io/zone"

def ControlPlaneEndpointNotSetReason : String := "ControlPlaneEndpointNotSet"

/-- `clusterv1.DeletingReason`. -/
def DeletingReason : String := "Deleting"

/-- `clusterv1.APIEndpoint`. -/
structure APIEndpoint where
  host : String := ""
  port : Int32 := 0
  deriving DecidableEq, Repr

/-- `clusterv1.FailureDomainSpec`; the controller sets no `Attributes`. -/
structure FailureDomainSpec where
  controlPlane : Bool := false
  deriving DecidableEq, Repr

/-- `clusterv1.FailureDomains`, a map from zone name, one entry per zone. As
the API server stores it, a nil map and an empty one are the same. -/
abbrev FailureDomains := List (String × FailureDomainSpec)

structure Beskar7ClusterStatus where
  ready : Bool := false
  controlPlaneEndpoint : APIEndpoint := {}
  failureDomains : FailureDomains := []
  conditions : Conditions := []
  deriving DecidableEq, Repr

/-- `Beskar7ClusterSpec`; the controller does not read it, the webhook does. -/
structure Beskar7ClusterSpec where
  controlPlaneEndpoint : APIEndpoint := {}
  deriving DecidableEq, Repr

structure Beskar7Cluster where
  metadata : ObjectMeta
  spec : Beskar7ClusterSpec := {}
  status : Beskar7ClusterStatus := {}
  deriving DecidableEq, Repr

instance : HasKey Beskar7Cluster ObjectKey := ⟨fun c => ⟨c.metadata.ns, c.metadata.name⟩⟩

theorem Beskar7Cluster.key_def (c : Beskar7Cluster) : key c = ⟨c.metadata.ns, c.metadata.name⟩ :=
  rfl

/-- What the controller reads of a Cluster API `clusterv1.Machine`. -/
structure Machine where
  metadata : ObjectMeta
  /-- `Status.Conditions` -/
  conditions : Conditions := []
  /-- `Status.Addresses` -/
  addresses : List MachineAddress := []
  deriving DecidableEq, Repr

/-- The owner `clusterv1.Cluster`. -/
structure Cluster where
  metadata : ObjectMeta
  deriving DecidableEq, Repr

/-- How `util.GetOwnerCluster` answers. -/
inductive ClusterOwner
  | getOwnerFailed
  | ownerNotSet
  | owner (cluster : Cluster)
  deriving DecidableEq, Repr

/-- The answers of the API server to one reconcile of a Beskar7Cluster: the
objects each List returns, before its namespace and label options. -/
structure ClusterReconcileEnv where
  getFails : Bool := false
  owner : ClusterOwner
  patchHelperFails : Bool := false
  hostListFails : Bool := false
  physicalHosts : List PhysicalHost := []
  machineListFails : Bool := false
  machines : List Machine := []
  patchFails : Bool := false
  deriving DecidableEq, Repr

inductive ClusterReconcileError
  /-- an error from the API server: a failed Get, owner lookup, patch helper or Patch -/
  | api
  /-- `failed to list PhysicalHosts for failure domain discovery` -/
  | listPhysicalHosts
  /-- `failed to find control plane endpoint for cluster %s/%s` -/
  | findControlPlaneEndpoint (ns name : String)
  deriving DecidableEq, Repr

/-- What a handler leaves: the cluster as it changed it in memory, and what it
returns. -/
structure ClusterHandled where
  cluster : Beskar7Cluster
  result : Result := {}
  err : Option ClusterReconcileError := none

structure ClusterReconciled where
  clusters : Store Beskar7Cluster
  result : Result := {}
  err : Option ClusterReconcileError := none

def Beskar7Cluster.setStatus (c : Beskar7Cluster)
    (f : Beskar7ClusterStatus → Beskar7ClusterStatus) : Beskar7Cluster :=
  { c with status := f c.status }

/-- `fd[zone] = spec`. -/
def FailureDomains.insert (fd : FailureDomains) (zone : String) (spec : FailureDomainSpec) :
    FailureDomains :=
  if fd.any (·.1 = zone) then fd.map (fun e => if e.1 = zone then (zone, spec) else e)
  else fd ++ [(zone, spec)]

/-- `failureDomainsEqual`: `reflect.DeepEqual` of two maps, with a nil map
equal to an empty one. -/
def failureDomainsEqual (a b : FailureDomains) : Bool :=
  a.length == b.length && a.all fun e => b.lookup e.1 == some e.2

namespace Beskar7ClusterReconciler

def reconcileFailureDomains (env : ClusterReconcileEnv) (b7cluster : Beskar7Cluster) :
    Except ClusterReconcileError Beskar7Cluster :=
  let currentFailureDomains := b7cluster.status.failureDomains
  if env.hostListFails then .error .listPhysicalHosts
  else
    let phList := env.physicalHosts.filter (·.metadata.ns = b7cluster.metadata.ns)
    if phList.isEmpty && currentFailureDomains.isEmpty then .ok b7cluster
    else
      let newFailureDomains := phList.foldl (fun fd ph =>
        match ph.metadata.labels.lookup zoneLabelKey with
        | some zone => if zone ≠ "" then FailureDomains.insert fd zone { controlPlane := true } else fd
        | none => fd) []
      if failureDomainsEqual currentFailureDomains newFailureDomains then .ok b7cluster
      else .ok (b7cluster.setStatus fun s => { s with failureDomains := newFailureDomains })

/-- The Machine List's options: the cluster's namespace, its name label, and
the control-plane label with the empty value. -/
def isControlPlaneMachineOf (cluster : Cluster) (machine : Machine) : Bool :=
  machine.metadata.ns == cluster.metadata.ns &&
    machine.metadata.labels.lookup "cluster.x-k8s.io/cluster-name" == some cluster.metadata.name &&
    machine.metadata.labels.lookup "cluster.x-k8s.io/control-plane" == some ""

/-- The first InternalIP's address, or, when there is none or it is empty,
the first address. -/
def selectAddress (addresses : List MachineAddress) : String :=
  let selectedAddress :=
    match addresses.find? (·.type = .internalIP) with
    | some addr => addr.address
    | none => ""
  if selectedAddress = "" then (addresses.head?.map (·.address)).getD "" else selectedAddress

def findControlPlaneEndpoint (env : ClusterReconcileEnv) (cluster : Cluster) :
    Except ClusterReconcileError (Option APIEndpoint) :=
  if env.machineListFails then .error .api
  else
    let machineList := env.machines.filter (isControlPlaneMachineOf cluster)
    -- the loop returns at the first machine whose infrastructure is ready and
    -- that has an address; on an empty list it finds none, as the early return
    match machineList.find? (fun m => m.conditions.isTrue .infrastructureReady && !m.addresses.isEmpty) with
    | some machine => .ok (some { host := selectAddress machine.addresses, port := 6443 })
    | none => .ok none

def reconcileControlPlaneEndpoint (env : ClusterReconcileEnv) (cluster : Cluster)
    (b7cluster : Beskar7Cluster) : Except ClusterReconcileError Beskar7Cluster :=
  match findControlPlaneEndpoint env cluster with
  | .error _ => .error (.findControlPlaneEndpoint cluster.metadata.ns cluster.metadata.name)
  | .ok none =>
    -- the endpoint found before is kept
    .ok (b7cluster.setStatus fun s => { s with
      conditions := s.conditions.markFalse .controlPlaneEndpointReady
        ControlPlaneEndpointNotSetReason .info,
      ready := false })
  | .ok (some cpEndpoint) =>
    .ok (b7cluster.setStatus fun s => { s with
      controlPlaneEndpoint := cpEndpoint,
      conditions := s.conditions.markTrue .controlPlaneEndpointReady,
      ready := true })

def reconcileNormal (env : ClusterReconcileEnv) (cluster : Cluster) (b7cluster : Beskar7Cluster) :
    ClusterHandled :=
  if Beskar7ClusterFinalizer ∉ b7cluster.metadata.finalizers then
    { cluster := { b7cluster with metadata := b7cluster.metadata.addFinalizer Beskar7ClusterFinalizer },
      result := { requeue := true } }
  else
    match reconcileFailureDomains env b7cluster with
    | .error e => { cluster := b7cluster, err := some e }
    | .ok b7cluster =>
      match reconcileControlPlaneEndpoint env cluster b7cluster with
      | .error e => { cluster := b7cluster, err := some e }
      | .ok b7cluster =>
        if !b7cluster.status.ready then
          { cluster := b7cluster, result := { requeueAfter := 30 * second } }
        else { cluster := b7cluster }

def reconcileDelete (b7cluster : Beskar7Cluster) : ClusterHandled :=
  let b7cluster := b7cluster.setStatus fun s => { s with
    conditions := s.conditions.markFalse .controlPlaneEndpointReady DeletingReason .info }
  { cluster := { b7cluster with
      metadata := b7cluster.metadata.removeFinalizer Beskar7ClusterFinalizer } }

def Reconcile (clusters : Store Beskar7Cluster) (k : ObjectKey) (env : ClusterReconcileEnv) :
    ClusterReconciled :=
  if env.getFails then { clusters, err := some .api }
  else
    match clusters.get k with
    | none => { clusters }
    | some b7cluster =>
      if isPaused b7cluster.metadata then { clusters }
      else
        match env.owner with
        | .getOwnerFailed => { clusters, err := some .api }
        | .ownerNotSet => { clusters, result := { requeueAfter := 10 * second } }
        | .owner cluster =>
          if isPaused cluster.metadata then { clusters }
          else if env.patchHelperFails then { clusters, err := some .api }
          else
            let out := if b7cluster.metadata.deletionTimestamp.isSome then reconcileDelete b7cluster
              else reconcileNormal env cluster b7cluster
            -- the deferred patch; `conditions.SetSummary` before it is not modelled
            if env.patchFails then
              { clusters, result := out.result, err := out.err.orElse fun _ => some .api }
            else
              { clusters := writeObject (·.metadata) clusters out.cluster, result := out.result,
                err := out.err }

end Beskar7ClusterReconciler

end Beskar7
