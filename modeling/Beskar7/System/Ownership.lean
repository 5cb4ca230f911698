import Beskar7.System.Step
import Beskar7.Controllers.Beskar7MachineLaws

/-!
# Which hosts a machine's reconcile acts on

A claim records the machine only in the host's `Spec.ConsumerRef`; the
machine records its host only in `Spec.ProviderID`, which `handleReadyHost`
sets once inspection is done. The two records are never compared:

* the ProviderID path of `findAndClaimOrGetAssociatedHost` takes the host
  the ProviderID names whatever its ConsumerRef says, and the reconcile
  dispatches on it (`providerID_host_dispatched`), so a machine drives the
  inspection of a host another machine claimed;
* without a ProviderID a reconcile acts on no host: a claim returns a
  requeue before `handlePhysicalHostState` (`no_providerID_acts_on_no_host`),
  and the next reconcile, still without a ProviderID, skips the claimed host
  (it is no longer claimable) and claims another;
* `reconcileDelete` releases only the host the ProviderID names, so the
  deletion of a machine without one writes no host
  (`deletion_without_providerID_keeps_hosts`) and leaves its host claimed.

Each is shown, after the general statement, by a run from the empty world
with BMCs that answer every call. The runs are built from a few steps that
the later modules share.
-/

namespace Beskar7

open Beskar7MachineReconciler

-- ---------------------------------------------------------------------------
-- The statements
-- ---------------------------------------------------------------------------

/-- The host an effect of a machine reconcile acts on: a Redfish command, a
status write, or readiness copied into the machine. -/
def Effect.hostActedOn : Effect → Option ObjectKey
  | .redfish k _ => some k
  | .writeHostStatus k => some k
  | .handle _ k .ready => some k
  | _ => none

/-- Every host the reconcile of the machine at `k` acts on is claimed by
that machine. -/
def ActsOnlyOnClaimedHosts (w : World) (k : ObjectKey) (env : MachineReconcileEnv)
    (f : RedfishClientFactory) : Prop :=
  ∀ m ∈ w.machines.get k, ∀ x ∈ (step w (.reconcileMachine k env f)).2,
    ∀ hk ∈ x.hostActedOn, ∃ h ∈ w.hosts.get hk, h.ClaimedBy m

instance (w : World) (k : ObjectKey) (env : MachineReconcileEnv) (f : RedfishClientFactory) :
    Decidable (ActsOnlyOnClaimedHosts w k env f) :=
  inferInstanceAs (Decidable (∀ m ∈ w.machines.get k, ∀ x ∈ (step w (.reconcileMachine k env f)).2,
    ∀ hk ∈ x.hostActedOn, ∃ h ∈ w.hosts.get hk, h.ClaimedBy m))

/-- No machine has two hosts claimed for it. -/
def AtMostOneHostPerMachine (w : World) : Prop :=
  ∀ m ∈ w.machines.items, ∀ h₁ ∈ w.hosts.items, ∀ h₂ ∈ w.hosts.items,
    h₁.ClaimedBy m → h₂.ClaimedBy m → key h₁ = key h₂

instance (w : World) : Decidable (AtMostOneHostPerMachine w) :=
  inferInstanceAs (Decidable (∀ m ∈ w.machines.items, ∀ h₁ ∈ w.hosts.items, ∀ h₂ ∈ w.hosts.items,
    h₁.ClaimedBy m → h₂.ClaimedBy m → key h₁ = key h₂))

-- ---------------------------------------------------------------------------
-- Steps of the runs
-- ---------------------------------------------------------------------------

/-- A client whose BMC answers every call; the system is powered off. -/
def workingClient : Client :=
  { getSystemInfo := .ok {}, getPowerState := .ok OffPowerState,
    setPowerState := fun _ => .ok (), setBootSourcePXE := .ok (), reset := .ok (),
    getNetworkAddresses := .ok [] }

def workingBMCs : RedfishClientFactory := fun _ _ _ _ => .ok workingClient

def bmcSpec : PhysicalHostSpec :=
  { redfishConnection := { address := "https://10.0.0.5", credentialsSecretRef := "bmc-creds" } }

def hostA : ObjectKey := ⟨"default", "host-a"⟩
def hostB : ObjectKey := ⟨"default", "host-b"⟩
def machineA : ObjectKey := ⟨"default", "machine-a"⟩
def machineB : ObjectKey := ⟨"default", "machine-b"⟩

/-- The BMC credentials every host of the runs uses. -/
def createCredentials : Event :=
  .createSecret "default" "bmc-creds" [("username", "admin"), ("password", "secret")]

/-- A host is created and enrolled: the first reconcile adds the finalizer,
the second reaches the BMC and makes the host Available. -/
def enrollHost (k : ObjectKey) : List Event :=
  [.createHost k.ns k.name [] bmcSpec, .reconcileHost k {} workingBMCs,
   .reconcileHost k {} workingBMCs]

/-- A machine is created and its first reconcile adds the finalizer. -/
def createMachine (k : ObjectKey) (spec : Beskar7MachineSpec) : List Event :=
  [.createMachine k.ns k.name [] spec, .reconcileMachine k {} workingBMCs]

-- ---------------------------------------------------------------------------
-- A host claimed by one machine, inspected by another
-- ---------------------------------------------------------------------------

variable {w : World} {k : ObjectKey} {env : MachineReconcileEnv} {f : RedfishClientFactory}
  {m : Beskar7Machine}

/-- A reconcile that finds a host through the machine's ProviderID dispatches
on it, whatever the host's ConsumerRef says. -/
theorem providerID_host_dispatched {h : PhysicalHost} (hget : w.machines.get k = some m)
    (hfails : env.getFails = false) (hpaused : isPaused m.metadata = false) (hprelude : env.prelude = .ready)
    (hlive : m.metadata.deletionTimestamp = none) (hfin : Beskar7MachineFinalizer ∈ m.metadata.finalizers)
    (hfound : hostByProviderID w env m = some h) :
    Effect.handle k (key h) h.status.state ∈ (step w (.reconcileMachine k env f)).2 := by
  have hkey : key m = k := Store.key_of_get hget
  change _ ∈ ((machineReconciler f).Reconcile w k env).effects
  rw [Reconcile_effects_of_ready hget hfails hpaused hprelude, hlive, ← hkey]
  exact handle_mem_reconcileNormal_of_providerID hfin hfound

/-- machine-b claims host-a, which becomes InUse; machine-a is created with a
ProviderID that names host-a. -/
def adoptRun : List Event :=
  createCredentials :: enrollHost hostA ++ createMachine machineB {} ++
    [.reconcileMachine machineB {} workingBMCs, .reconcileHost hostA {} workingBMCs] ++
    createMachine machineA { providerID := some "b7://default/host-a" }

def adopted : World := run {} adoptRun

/-- The reconcile of machine-a PXE-boots host-a, whose ConsumerRef names
machine-b. -/
theorem providerID_path_inspects_host_of_other_machine :
    (∃ m ∈ adopted.machines.get machineB, ∃ h ∈ adopted.hosts.get hostA, h.ClaimedBy m) ∧
    Effect.redfish hostA .setBootSourcePXE ∈
      (step adopted (.reconcileMachine machineA {} workingBMCs)).2 ∧
    ¬ ActsOnlyOnClaimedHosts adopted machineA {} workingBMCs := by
  decide

-- ---------------------------------------------------------------------------
-- A second claim
-- ---------------------------------------------------------------------------

/-- Without a ProviderID a reconcile acts on no host: its only write to a
host is a claim, and a claim returns before `handlePhysicalHostState`. -/
theorem no_providerID_acts_on_no_host (hget : w.machines.get k = some m) (hnone : m.spec.providerID = none) :
    ∀ x ∈ (step w (.reconcileMachine k env f)).2, x.hostActedOn = none := by
  intro x hx
  change x ∈ ((machineReconciler f).Reconcile w k env).effects at hx
  rcases Reconcile_cases_of_get (machineReconciler f) env hget with ⟨-, he⟩ | ⟨out, hout, -, he⟩
  · simp [he] at hx
  · rw [he, hout] at hx
    split at hx
    · simp [(reconcileDelete_of_no_providerID hnone).2] at hx
    · obtain ⟨hk, rfl⟩ := reconcileNormal_effects_of_no_providerID hnone x hx
      rfl

/-- Two Available hosts; machine-a, with no ProviderID, claims host-a. -/
def doubleClaimRun : List Event :=
  createCredentials :: enrollHost hostA ++ enrollHost hostB ++ createMachine machineA {} ++
    [.reconcileMachine machineA {} workingBMCs]

def claimedOnce : World := run {} doubleClaimRun

/-- The next reconcile of machine-a does not take up host-a: it claims
host-b as well. -/
theorem claimed_host_skipped_and_second_claimed :
    (∃ m ∈ claimedOnce.machines.get machineA, ∃ h ∈ claimedOnce.hosts.get hostA, h.ClaimedBy m) ∧
    Effect.writeHostSpec hostB ∈ (step claimedOnce (.reconcileMachine machineA {} workingBMCs)).2 ∧
    ¬ AtMostOneHostPerMachine (step claimedOnce (.reconcileMachine machineA {} workingBMCs)).1 := by
  decide

-- ---------------------------------------------------------------------------
-- A deletion that releases nothing
-- ---------------------------------------------------------------------------

/-- The reconcile of a deletion without a ProviderID writes no host, so a
host the machine claimed stays claimed by it. -/
theorem deletion_without_providerID_keeps_hosts (hget : w.machines.get k = some m)
    (hdel : m.metadata.deletionTimestamp.isSome) (hnone : m.spec.providerID = none) :
    (step w (.reconcileMachine k env f)).1.hosts = w.hosts := by
  change ((machineReconciler f).Reconcile w k env).world.hosts = w.hosts
  rcases Reconcile_cases_of_get (machineReconciler f) env hget with ⟨hw, -⟩ | ⟨out, hout, hw, -⟩
  · rw [hw]
  · rw [if_pos hdel] at hout
    subst hout
    have hworld : (reconcileDelete w env m).world = w := (reconcileDelete_of_no_providerID hnone).1
    rcases hw with hw | hw
    · rw [hw, hworld]
    · rw [hw, World.patchMachine_hosts, hworld]

/-- machine-a claims host-a and its deletion is requested before it has a
ProviderID. -/
def orphanRun : List Event :=
  createCredentials :: enrollHost hostA ++ createMachine machineA {} ++
    [.reconcileMachine machineA {} workingBMCs, .deleteMachine machineA]

def deleting : World := run {} orphanRun

/-- The reconcile of the deletion succeeds and removes machine-a, and host-a
stays claimed by it. -/
theorem delete_before_providerID_leaves_host_claimed :
    ((machineReconciler workingBMCs).Reconcile deleting machineA {}).err = none ∧
    ((machineReconciler workingBMCs).Reconcile deleting machineA {}).world.machines.get machineA =
      none ∧
    ∃ m ∈ deleting.machines.get machineA, m.metadata.deletionTimestamp.isSome ∧
      ∃ h ∈ ((machineReconciler workingBMCs).Reconcile deleting machineA {}).world.hosts.get hostA,
        h.ClaimedBy m := by
  decide

end Beskar7
