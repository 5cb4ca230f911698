import Beskar7.System.Ownership

/-!
# The reconcilers as `main` wires them

`cmd/manager/main.go` builds both reconcilers with `RedfishClientFactory: nil`
("Use default", but nothing installs one) and the PhysicalHost reconciler
without a `Recorder`. So every reconcile that would talk to a BMC stops with
a nil call: a PhysicalHost reconcile past the finalizer and the credentials,
a machine reconcile that triggers inspection, and the deletion of a claimed
host, which warns through the recorder.
-/

namespace Beskar7

def mainPhysicalHostReconciler : PhysicalHostReconciler :=
  { recorder := none, redfishClientFactory := none }

def mainBeskar7MachineReconciler : Beskar7MachineReconciler := { redfishClientFactory := none }

open PhysicalHostReconciler in
/-- A PhysicalHost reconcile that gets past the finalizer and the
credentials calls the nil factory. -/
theorem main_host_reconcile_calls_nil_factory {w : World} {k : ObjectKey} {env : HostReconcileEnv}
    (henv : env.getFails = false)
    (hhost : ∃ ph ∈ w.hosts.get k, ph.metadata.deletionTimestamp = none ∧
      PhysicalHostFinalizer ∈ ph.metadata.finalizers ∧ (getRedfishCredentials w env ph).isOk) :
    (mainPhysicalHostReconciler.Reconcile w k env).err = some (.nilCall "RedfishClientFactory") := by
  obtain ⟨ph, hget, hlive, hfin, hcred⟩ := hhost
  obtain ⟨creds, hc⟩ : ∃ c, getRedfishCredentials w env ph = .ok c := by
    cases h : getRedfishCredentials w env ph with
    | error e => simp [h, Except.isOk, Except.toBool] at hcred
    | ok c => exact ⟨c, rfl⟩
  have hget : w.hosts.get k = some ph := hget
  simp [Reconcile, reconcileNormal, henv, hget, hlive, hfin, hc, mainPhysicalHostReconciler]

/-- host-a and its credentials, after main's first reconcile of host-a,
which adds the finalizer. -/
def enrolledByMain : World :=
  (mainPhysicalHostReconciler.Reconcile
    (run {} [createCredentials, .createHost hostA.ns hostA.name [] bmcSpec]) hostA {}).world

theorem main_second_host_reconcile_calls_nil_factory :
    (mainPhysicalHostReconciler.Reconcile enrolledByMain hostA {}).err =
      some (.nilCall "RedfishClientFactory") :=
  main_host_reconcile_calls_nil_factory rfl (by decide)

/-- A machine reconcile that triggers inspection of a host whose credentials
secret it finds calls the nil factory. -/
theorem main_triggerInspection_calls_nil_factory {w : World} {env : MachineReconcileEnv}
    {m : Beskar7Machine} {h : PhysicalHost} (henv : env.secretGetFails = false)
    (hsecret : (w.secrets.get ⟨h.metadata.ns, h.spec.redfishConnection.credentialsSecretRef⟩).isSome) :
    (mainBeskar7MachineReconciler.triggerInspection w env m h).err =
      some (.nilCall "RedfishClientFactory") := by
  obtain ⟨s, hs⟩ := Option.isSome_iff_exists.mp hsecret
  simp [Beskar7MachineReconciler.triggerInspection, Beskar7MachineReconciler.getRedfishClientForHost,
    henv, hs, mainBeskar7MachineReconciler]

/-- Deleting a claimed host calls the nil recorder. -/
theorem main_delete_claimed_host_calls_nil_recorder (w : World) (env : HostReconcileEnv)
    {ph : PhysicalHost} (hclaimed : ph.spec.consumerRef.isSome) :
    (mainPhysicalHostReconciler.reconcileDelete w env ph).err = some (.nilCall "Recorder") := by
  simp [PhysicalHostReconciler.reconcileDelete, hclaimed, mainPhysicalHostReconciler]

end Beskar7
