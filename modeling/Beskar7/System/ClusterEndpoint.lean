import Beskar7.Controllers.Beskar7Cluster
import Beskar7.Lib.Trace

/-!
# The control plane endpoint over runs

A reconcile of a Beskar7Cluster writes `Status.ControlPlaneEndpoint` only
with the endpoint `findControlPlaneEndpoint` returns, and keeps it when
nothing is found (`Reconcile_endpoint`). The endpoint therefore follows the
Machines: it moves when another ready control-plane Machine comes first in
the List (`endpoint_follows_machine_order`), and stays only through
reconciles that find it or nothing (`endpoint_stays_while_found`). Found
endpoints have the API server's port, so once set the endpoint is never
zero again (`endpoint_never_cleared`).

The clusters form a system of their own: reconciles, with any answers of
the API server, and requests for deletion.
-/

namespace Beskar7

/-- The endpoint a reconcile finds, when it gets as far as looking. -/
def ClusterReconcileEnv.foundEndpoint (env : ClusterReconcileEnv) : Option APIEndpoint :=
  match env.owner with
  | .owner cluster =>
    match Beskar7ClusterReconciler.findControlPlaneEndpoint env cluster with
    | .ok found => found
    | .error _ => none
  | _ => none

namespace Beskar7ClusterReconciler

variable {env : ClusterReconcileEnv} {cluster : Cluster} {b b' : Beskar7Cluster}

theorem findControlPlaneEndpoint_port {ep : APIEndpoint}
    (h : findControlPlaneEndpoint env cluster = .ok (some ep)) : ep.port = 6443 := by
  unfold findControlPlaneEndpoint at h
  split at h
  · cases h
  · dsimp only at h
    split at h
    · cases h
      rfl
    · cases h

theorem foundEndpoint_port {ep : APIEndpoint} (h : env.foundEndpoint = some ep) :
    ep.port = 6443 := by
  unfold ClusterReconcileEnv.foundEndpoint at h
  split at h
  · split at h
    · rename_i found hfind
      subst h
      exact findControlPlaneEndpoint_port hfind
    · cases h
  · cases h

/-- The failure domains are all that `reconcileFailureDomains` writes. -/
theorem reconcileFailureDomains_ok (h : reconcileFailureDomains env b = .ok b') :
    b'.metadata = b.metadata ∧ b'.status.controlPlaneEndpoint = b.status.controlPlaneEndpoint := by
  unfold reconcileFailureDomains at h
  dsimp only at h
  split at h
  · cases h
  · split at h
    · cases h
      exact ⟨rfl, rfl⟩
    · split at h <;> (cases h; exact ⟨rfl, rfl⟩)

theorem reconcileControlPlaneEndpoint_ok (h : reconcileControlPlaneEndpoint env cluster b = .ok b') :
    b'.metadata = b.metadata ∧
      (b'.status.controlPlaneEndpoint = b.status.controlPlaneEndpoint ∨
        findControlPlaneEndpoint env cluster = .ok (some b'.status.controlPlaneEndpoint)) := by
  unfold reconcileControlPlaneEndpoint at h
  split at h
  · cases h
  · cases h
    exact ⟨rfl, .inl rfl⟩
  · rename_i cpEndpoint hfind
    cases h
    exact ⟨rfl, .inr hfind⟩

/-- What a handler leaves of the cluster it reconciled: its key, and its
endpoint or the one found. -/
def EndpointFrom (env : ClusterReconcileEnv) (cluster : Cluster) (b b' : Beskar7Cluster) : Prop :=
  key b' = key b ∧
    (b'.status.controlPlaneEndpoint = b.status.controlPlaneEndpoint ∨
      findControlPlaneEndpoint env cluster = .ok (some b'.status.controlPlaneEndpoint))

theorem EndpointFrom.of_metadata (hmeta : b'.metadata = b.metadata)
    (hep : b'.status.controlPlaneEndpoint = b.status.controlPlaneEndpoint ∨
      findControlPlaneEndpoint env cluster = .ok (some b'.status.controlPlaneEndpoint)) :
    EndpointFrom env cluster b b' :=
  ⟨by simp [Beskar7Cluster.key_def, hmeta], hep⟩

theorem reconcileNormal_endpoint (env : ClusterReconcileEnv) (cluster : Cluster) (b : Beskar7Cluster) :
    EndpointFrom env cluster b (reconcileNormal env cluster b).cluster := by
  unfold reconcileNormal
  split
  · exact ⟨by simp [Beskar7Cluster.key_def], .inl rfl⟩
  · cases hfd : reconcileFailureDomains env b with
    | error e => exact ⟨rfl, .inl rfl⟩
    | ok b₁ =>
      obtain ⟨hmeta₁, hep₁⟩ := reconcileFailureDomains_ok hfd
      dsimp only
      cases hcp : reconcileControlPlaneEndpoint env cluster b₁ with
      | error e => exact .of_metadata hmeta₁ (.inl hep₁)
      | ok b₂ =>
        obtain ⟨hmeta₂, hep₂⟩ := reconcileControlPlaneEndpoint_ok hcp
        dsimp only
        have hfrom : EndpointFrom env cluster b b₂ :=
          .of_metadata (hmeta₂.trans hmeta₁) (hep₂.imp_left fun h => h.trans hep₁)
        -- both branches on readiness return `b₂`
        split <;> exact hfrom

theorem reconcileDelete_endpoint (env : ClusterReconcileEnv) (cluster : Cluster) (b : Beskar7Cluster) :
    EndpointFrom env cluster b (reconcileDelete b).cluster :=
  ⟨rfl, .inl rfl⟩

/-- A reconcile writes nothing, or writes back the cluster it read after one
of the handlers. -/
theorem Reconcile_cases (clusters : Store Beskar7Cluster) (k : ObjectKey) (env : ClusterReconcileEnv) :
    (Reconcile clusters k env).clusters = clusters ∨
      ∃ b cluster, clusters.get k = some b ∧ env.owner = .owner cluster ∧
        (Reconcile clusters k env).clusters = writeObject (·.metadata) clusters
          (if b.metadata.deletionTimestamp.isSome then reconcileDelete b
            else reconcileNormal env cluster b).cluster := by
  unfold Reconcile
  split
  · exact .inl rfl
  · split
    · exact .inl rfl
    · rename_i b hget
      split
      · exact .inl rfl
      · split
        · exact .inl rfl
        · exact .inl rfl
        · rename_i cluster howner
          split
          · exact .inl rfl
          · split
            · exact .inl rfl
            · -- the deferred patch writes unless it fails
              cases hpatch : env.patchFails
              · refine .inr ⟨b, cluster, hget, howner, ?_⟩
                simp only [Bool.false_eq_true, ↓reduceIte]
              · refine .inl ?_
                simp only [↓reduceIte]

/-- After a reconcile, a cluster has the endpoint it had, or is the one
reconciled, with the endpoint the reconcile found. -/
theorem Reconcile_endpoint {clusters : Store Beskar7Cluster} {k k' : ObjectKey}
    {env : ClusterReconcileEnv} (hmem : b' ∈ (Reconcile clusters k env).clusters.get k') :
    (∃ b ∈ clusters.get k', b'.status.controlPlaneEndpoint = b.status.controlPlaneEndpoint) ∨
      (k' = k ∧ env.foundEndpoint = some b'.status.controlPlaneEndpoint) := by
  rcases Reconcile_cases clusters k env with hsame | ⟨b, cluster, hget, howner, hwrite⟩
  · exact .inl ⟨b', hsame ▸ hmem, rfl⟩
  · rw [hwrite] at hmem
    rcases writeObject_mem_get hmem with ⟨hk, rfl⟩ | hold
    · -- the written cluster is at the key it was read from
      have hfrom : EndpointFrom env cluster b (if b.metadata.deletionTimestamp.isSome then
          reconcileDelete b else reconcileNormal env cluster b).cluster := by
        split
        · exact reconcileDelete_endpoint env cluster b
        · exact reconcileNormal_endpoint env cluster b
      have hk' : k' = k := hk.trans (hfrom.1.trans (Store.key_of_get hget))
      subst hk'
      rcases hfrom.2 with hkept | hfound
      · exact .inl ⟨b, hget, hkept⟩
      · refine .inr ⟨rfl, ?_⟩
        simp [ClusterReconcileEnv.foundEndpoint, howner, hfound]
    · exact .inl ⟨b', hold, rfl⟩

end Beskar7ClusterReconciler

-- ---------------------------------------------------------------------------
-- Runs
-- ---------------------------------------------------------------------------

inductive ClusterEvent
  | reconcile (k : ObjectKey) (env : ClusterReconcileEnv)
  /-- a user requests the cluster's deletion -/
  | delete (k : ObjectKey) (now : MetaTime)

/-- What a reconcile returns to controller-runtime. -/
structure ClusterReturn where
  k : ObjectKey
  result : Result
  err : Option ClusterReconcileError

namespace ClusterEvent

def step (clusters : Store Beskar7Cluster) : ClusterEvent → Store Beskar7Cluster × List ClusterReturn
  | .reconcile k env =>
    let out := Beskar7ClusterReconciler.Reconcile clusters k env
    (out.clusters, [⟨k, out.result, out.err⟩])
  | .delete k now =>
    match clusters.get k with
    | some b => (writeObject (·.metadata) clusters { b with metadata := b.metadata.requestDeletion now }, [])
    | none => (clusters, [])

def run (clusters : Store Beskar7Cluster) (es : List ClusterEvent) : Store Beskar7Cluster :=
  Trace.run step clusters es

/-- The endpoint of the cluster at `k`. -/
def endpointAt (clusters : Store Beskar7Cluster) (k : ObjectKey) : Option APIEndpoint :=
  (clusters.get k).map (·.status.controlPlaneEndpoint)

/-- After an event, a cluster has the endpoint it had, or was reconciled and
has the endpoint found. -/
theorem step_endpoint {clusters : Store Beskar7Cluster} {e : ClusterEvent} {k : ObjectKey}
    {b' : Beskar7Cluster} (hmem : b' ∈ (step clusters e).1.get k) :
    (∃ b ∈ clusters.get k, b'.status.controlPlaneEndpoint = b.status.controlPlaneEndpoint) ∨
      ∃ env, e = .reconcile k env ∧ env.foundEndpoint = some b'.status.controlPlaneEndpoint := by
  cases e with
  | reconcile k' env =>
    rcases Beskar7ClusterReconciler.Reconcile_endpoint hmem with hkept | ⟨rfl, hfound⟩
    · exact .inl hkept
    · exact .inr ⟨env, rfl, hfound⟩
  | delete k' now =>
    simp only [step] at hmem
    split at hmem
    · rcases writeObject_mem_get hmem with ⟨hk, rfl⟩ | hold
      · rename_i b hget
        have hk' : k = k' := by
          rw [hk, ← Store.key_of_get hget]
          simp [Beskar7Cluster.key_def, ObjectMeta.requestDeletion]
        exact .inl ⟨b, hk' ▸ hget, rfl⟩
      · exact .inl ⟨b', hold, rfl⟩
    · exact .inl ⟨b', hmem, rfl⟩

/-- No reconcile of the cluster at `k` finds an endpoint other than `E`. -/
def findsOnly (k : ObjectKey) (E : APIEndpoint) : ClusterEvent → Bool
  | .reconcile k' env => k' != k || env.foundEndpoint.all (· == E)
  | .delete _ _ => true

/-- The endpoint of the cluster at `k` is `E`, if there is a cluster. -/
def EndpointIs (k : ObjectKey) (E : APIEndpoint) (clusters : Store Beskar7Cluster) : Prop :=
  ∀ b ∈ clusters.get k, b.status.controlPlaneEndpoint = E

theorem EndpointIs.after_step {k : ObjectKey} {E : APIEndpoint} {clusters : Store Beskar7Cluster}
    {e : ClusterEvent} (honly : e.findsOnly k E = true) (hset : EndpointIs k E clusters) :
    EndpointIs k E (step clusters e).1 := by
  intro b' hmem
  rcases step_endpoint hmem with ⟨b, hget, hkept⟩ | ⟨env, rfl, hfound⟩
  · exact hkept.trans (hset b hget)
  · simpa [findsOnly, hfound] using honly

/-- The endpoint of the cluster at `k` is set: it is not the zero endpoint. -/
def EndpointSet (k : ObjectKey) (clusters : Store Beskar7Cluster) : Prop :=
  ∀ b ∈ clusters.get k, b.status.controlPlaneEndpoint ≠ {}

theorem EndpointSet.after_step {k : ObjectKey} {clusters : Store Beskar7Cluster} (e : ClusterEvent)
    (hset : EndpointSet k clusters) : EndpointSet k (step clusters e).1 := by
  intro b' hmem hzero
  rcases step_endpoint hmem with ⟨b, hget, hkept⟩ | ⟨env, -, hfound⟩
  · exact hset b hget (hkept.symm.trans hzero)
  · -- a found endpoint has the API server's port
    have hport := Beskar7ClusterReconciler.foundEndpoint_port hfound
    rw [hzero] at hport
    exact absurd hport (by decide)

/-- Once set, the endpoint is never cleared: whatever the Machines do, a
reconcile that finds nothing keeps it. -/
theorem endpoint_never_cleared {clusters : Store Beskar7Cluster} {k : ObjectKey}
    (hset : EndpointSet k clusters) (es : List ClusterEvent) : EndpointSet k (run clusters es) := by
  have keep : ∀ (s : Store Beskar7Cluster) (e : ClusterEvent), True →
      EndpointSet k s → EndpointSet k (step s e).1 :=
    fun _ e _ hs => hs.after_step e
  exact Trace.run_invariant step keep (fun _ _ => trivial) hset

end ClusterEvent

open ClusterEvent

-- ---------------------------------------------------------------------------
-- Two control-plane Machines
-- ---------------------------------------------------------------------------

def clusterAKey : ObjectKey := ⟨"default", "cluster-a"⟩

/-- default/cluster-a, with its finalizer and no endpoint yet. -/
def clustersA : Store Beskar7Cluster :=
  (∅ : Store Beskar7Cluster).put
    { metadata := { ns := "default", name := "cluster-a", uid := 1,
                    finalizers := [Beskar7ClusterFinalizer] } }

/-- A control-plane Machine of cluster-a with one InternalIP, ready or not. -/
def controlPlaneMachine (name address : String) (ready : Bool) : Machine :=
  { metadata := { ns := "default", name, uid := 0,
                  labels := [("cluster.x-k8s.io/cluster-name", "cluster-a"),
                             ("cluster.x-k8s.io/control-plane", "")] },
    conditions := [⟨.infrastructureReady, if ready then .conditionTrue else .conditionFalse, .none, ""⟩],
    addresses := [⟨.internalIP, address⟩] }

/-- A reconcile of cluster-a whose Machine List returns `machines`. -/
def reconcileAWith (machines : List Machine) : ClusterEvent :=
  .reconcile clusterAKey
    { owner := .owner { metadata := { ns := "default", name := "cluster-a", uid := 0 } }, machines }

/-- The endpoint is set from machine-a; the next reconcile lists machine-b
first, and the one after finds machine-a not ready: each moves the endpoint. -/
theorem endpoint_follows_machine_order :
    endpointAt (run clustersA [reconcileAWith [controlPlaneMachine "machine-a" "10.0.0.1" true]])
        clusterAKey = some { host := "10.0.0.1", port := 6443 } ∧
    endpointAt (run clustersA [reconcileAWith [controlPlaneMachine "machine-a" "10.0.0.1" true],
        reconcileAWith [controlPlaneMachine "machine-b" "10.0.0.2" true,
          controlPlaneMachine "machine-a" "10.0.0.1" true]])
        clusterAKey = some { host := "10.0.0.2", port := 6443 } ∧
    endpointAt (run clustersA [reconcileAWith [controlPlaneMachine "machine-a" "10.0.0.1" true],
        reconcileAWith [controlPlaneMachine "machine-a" "10.0.0.1" false,
          controlPlaneMachine "machine-b" "10.0.0.2" true]])
        clusterAKey = some { host := "10.0.0.2", port := 6443 } := by
  decide

theorem endpoint_stays_while_found {clusters : Store Beskar7Cluster} {k : ObjectKey}
    {E : APIEndpoint} {es : List ClusterEvent}
    (hset : ∀ b ∈ clusters.get k, b.status.controlPlaneEndpoint = E)
    (hes : ∀ e ∈ es, e.findsOnly k E = true) :
    ∀ b ∈ (run clusters es).get k, b.status.controlPlaneEndpoint = E := by
  have keep : ∀ (s : Store Beskar7Cluster) (e : ClusterEvent), e.findsOnly k E = true →
      EndpointIs k E s → EndpointIs k E (step s e).1 :=
    fun _ _ honly hs => hs.after_step honly
  exact Trace.run_invariant step keep hes hset

/-- cluster-a's endpoint, set from machine-a. -/
def settledA : Store Beskar7Cluster :=
  run clustersA [reconcileAWith [controlPlaneMachine "machine-a" "10.0.0.1" true]]

/-- machine-b joins behind machine-a, both leave the List, and deletion is
requested. -/
def stayRun : List ClusterEvent :=
  [reconcileAWith [controlPlaneMachine "machine-a" "10.0.0.1" true,
     controlPlaneMachine "machine-b" "10.0.0.2" true],
   reconcileAWith [], .delete clusterAKey 5]

theorem cluster_a_endpoint_stays :
    (∀ b ∈ settledA.get clusterAKey, b.status.controlPlaneEndpoint = { host := "10.0.0.1", port := 6443 }) ∧
    (∀ e ∈ stayRun, e.findsOnly clusterAKey { host := "10.0.0.1", port := 6443 } = true) ∧
    ∀ b ∈ (run settledA stayRun).get clusterAKey,
      b.status.controlPlaneEndpoint = { host := "10.0.0.1", port := 6443 } := by
  have hset : ∀ b ∈ settledA.get clusterAKey,
      b.status.controlPlaneEndpoint = { host := "10.0.0.1", port := 6443 } := by
    decide
  have hes : ∀ e ∈ stayRun, e.findsOnly clusterAKey { host := "10.0.0.1", port := 6443 } = true := by
    decide
  exact ⟨hset, hes, endpoint_stays_while_found hset hes⟩

/-- The endpoint set from machine-a is still set after the Machines change
and deletion is requested. -/
theorem settled_endpoint_never_cleared :
    EndpointSet clusterAKey settledA ∧ EndpointSet clusterAKey (run settledA stayRun) := by
  have hset : EndpointSet clusterAKey settledA := by
    unfold EndpointSet
    decide
  exact ⟨hset, endpoint_never_cleared hset stayRun⟩

end Beskar7
