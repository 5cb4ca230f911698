import Beskar7.Api.Types
import Beskar7.Redfish.Client
import Beskar7.Lib.GoString

/-!
# The API server the controllers share

`World` is what the controllers and the users act on: the stored
PhysicalHosts, Beskar7Machines and Secrets, and the clock. A reconcile runs
as one step against it: its reads see the stored objects, and each write it
makes either applies or fails, as the step's environment says. With the
reads current, a compare-and-swap on `resourceVersion` cannot fail for
staleness, so write failures are the only conflicts left.

Writes follow the API server: `Update` takes spec and metadata from the
object written and keeps the stored status, `Status().Update` takes the
status only, and an object whose deletion was requested goes away when its
last finalizer is removed.
-/

namespace Beskar7

open GoString

structure World where
  hosts : Store PhysicalHost := ∅
  machines : Store Beskar7Machine := ∅
  secrets : Store Secret := ∅
  /-- the controllers' clock, in nanoseconds -/
  now : Duration := 0
  nextUID : UID := 0

/-- `metav1.Now()`, as it is stored. -/
def World.metaNow (w : World) : MetaTime := w.now / second

/-- What a reconcile returns besides an error: `ctrl.Result`. -/
structure Result where
  requeue : Bool := false
  requeueAfter : Duration := 0
  deriving DecidableEq, Repr

def Result.isZero (r : Result) : Bool := !r.requeue && r.requeueAfter == 0

inductive ReconcileError
  /-- an error from the API server: a failed Get, List, Update or Patch -/
  | api
  /-- an error returned by the Redfish client or its factory -/
  | redfish (msg : String)
  | credentialsSecretRefEmpty
  | credentialsSecretNotFound (secretName : String)
  | usernameNotFound (secretName : String)
  | passwordNotFound (secretName : String)
  /-- `failed to get credentials secret`, wrapping the Get's error -/
  | getCredentialsSecret
  | inspectionTimeout
  | insufficientCPUCores (found required : Int64)
  | insufficientMemory (found required : Int64)
  | insufficientDiskSpace (found required : Int64)
  /-- a run-time panic: a call through a nil function or interface -/
  | nilCall (collaborator : String)
  deriving DecidableEq, Repr

inductive Effect
  | redfish (host : ObjectKey) (call : RedfishCall)
  | writeHostSpec (host : ObjectKey)
  | writeHostStatus (host : ObjectKey)
  /-- `handlePhysicalHostState` of the machine took the branch of the host's state -/
  | handle (machine host : ObjectKey) (state : HostState)
  /-- an event recorded on the host -/
  | event (host : ObjectKey) (reason : String)
  deriving DecidableEq, Repr

/-- Only the machine controller dispatches on a host's state. -/
def Effect.isHandle : Effect → Bool
  | .handle .. => true
  | _ => false

/-- What a reconcile leaves behind: the world after its writes, what it
returns to controller-runtime, and what it did. -/
structure Reconciled where
  world : World
  result : Result := {}
  err : Option ReconcileError := none
  effects : List Effect := []

/-- `controllerutil.AddFinalizer`. -/
def ObjectMeta.addFinalizer (om : ObjectMeta) (f : String) : ObjectMeta :=
  if f ∈ om.finalizers then om else { om with finalizers := om.finalizers ++ [f] }

@[simp] theorem ObjectMeta.addFinalizer_ns (om : ObjectMeta) (f : String) :
    (om.addFinalizer f).ns = om.ns := by
  unfold addFinalizer; split <;> rfl

@[simp] theorem ObjectMeta.addFinalizer_name (om : ObjectMeta) (f : String) :
    (om.addFinalizer f).name = om.name := by
  unfold addFinalizer; split <;> rfl

theorem ObjectMeta.addFinalizer_of_not_mem {om : ObjectMeta} {f : String} (h : f ∉ om.finalizers) :
    om.addFinalizer f = { om with finalizers := om.finalizers ++ [f] } := by
  simp [addFinalizer, h]

/-- `controllerutil.RemoveFinalizer`. -/
def ObjectMeta.removeFinalizer (om : ObjectMeta) (f : String) : ObjectMeta :=
  { om with finalizers := om.finalizers.filter (· ≠ f) }

-- ---------------------------------------------------------------------------
-- Reads
-- ---------------------------------------------------------------------------

/-- `Get` of a host by a namespace and a name given as bytes. -/
def World.getHostBytes (w : World) (ns name : List UInt8) : Option PhysicalHost :=
  w.hosts.items.find? fun h => bytes h.metadata.ns = ns ∧ bytes h.metadata.name = name

/-- `List` of the hosts in a namespace, in store order. -/
def World.listHosts (w : World) (ns : String) : List PhysicalHost :=
  w.hosts.items.filter (·.metadata.ns = ns)

theorem World.getHostBytes_bytes (w : World) (k : ObjectKey) :
    w.getHostBytes (bytes k.ns) (bytes k.name) = w.hosts.get k := by
  unfold getHostBytes Store.get
  congr 1
  funext h
  simp only [bytes_eq_bytes]
  cases k
  simp [key, HasKey.key]

-- ---------------------------------------------------------------------------
-- Writes
-- ---------------------------------------------------------------------------

/-- Store an object, or remove it when its deletion was requested and it
has no finalizer left. -/
def writeObject {α : Type} [HasKey α ObjectKey] (md : α → ObjectMeta) (s : Store α) (x : α) :
    Store α :=
  if (md x).deletionTimestamp.isSome ∧ (md x).finalizers = [] then s.erase (key x) else s.put x

/-- `Update` of a host. -/
def World.updateHost (w : World) (h : PhysicalHost) : World :=
  match w.hosts.get (key h) with
  | some old => { w with hosts := writeObject (·.metadata) w.hosts { h with status := old.status } }
  | none => w

/-- `Status().Update` of a host. -/
def World.updateHostStatus (w : World) (h : PhysicalHost) : World :=
  match w.hosts.get (key h) with
  | some old => { w with hosts := w.hosts.put { old with status := h.status } }
  | none => w

/-- The patch helper's `Patch` of a machine: spec, metadata and status. -/
def World.patchMachine (w : World) (m : Beskar7Machine) : World :=
  match w.machines.get (key m) with
  | some _ => { w with machines := writeObject (·.metadata) w.machines m }
  | none => w

-- ---------------------------------------------------------------------------
-- What users do
-- ---------------------------------------------------------------------------

def World.createHost (w : World) (ns name : String) (labels : List (String × String))
    (spec : PhysicalHostSpec) : World :=
  match w.hosts.get ⟨ns, name⟩ with
  | some _ => w
  | none =>
    { w with hosts := w.hosts.put { metadata := { ns, name, uid := w.nextUID, labels }, spec },
             nextUID := w.nextUID + 1 }

def World.createMachine (w : World) (ns name : String) (annotations : List (String × String))
    (spec : Beskar7MachineSpec) : World :=
  match w.machines.get ⟨ns, name⟩ with
  | some _ => w
  | none =>
    { w with machines := w.machines.put { metadata := { ns, name, uid := w.nextUID, annotations }, spec },
             nextUID := w.nextUID + 1 }

def World.createSecret (w : World) (ns name : String) (data : List (String × String)) : World :=
  match w.secrets.get ⟨ns, name⟩ with
  | some _ => w
  | none =>
    { w with secrets := w.secrets.put { metadata := { ns, name, uid := w.nextUID }, data },
             nextUID := w.nextUID + 1 }

def World.editHostSpec (w : World) (k : ObjectKey) (spec : PhysicalHostSpec) : World :=
  match w.hosts.get k with
  | some h => { w with hosts := w.hosts.put { h with spec } }
  | none => w

def World.editMachineSpec (w : World) (k : ObjectKey) (spec : Beskar7MachineSpec) : World :=
  match w.machines.get k with
  | some m => { w with machines := w.machines.put { m with spec } }
  | none => w

/-- Request deletion: an object with finalizers keeps them and gets a
deletion timestamp; one without goes away. -/
def ObjectMeta.requestDeletion (om : ObjectMeta) (now : MetaTime) : ObjectMeta :=
  { om with deletionTimestamp := om.deletionTimestamp.orElse fun _ => some now }

def World.deleteHost (w : World) (k : ObjectKey) : World :=
  match w.hosts.get k with
  | some h =>
    let h := { h with metadata := h.metadata.requestDeletion w.metaNow }
    { w with hosts := writeObject (·.metadata) w.hosts h }
  | none => w

def World.deleteMachine (w : World) (k : ObjectKey) : World :=
  match w.machines.get k with
  | some m =>
    let m := { m with metadata := m.metadata.requestDeletion w.metaNow }
    { w with machines := writeObject (·.metadata) w.machines m }
  | none => w

-- ---------------------------------------------------------------------------
-- Laws of the reads and writes
-- ---------------------------------------------------------------------------

theorem World.getHostBytes_get {w : World} {ns name : List UInt8} {h : PhysicalHost}
    (hfound : w.getHostBytes ns name = some h) :
    w.hosts.get (key h) = some h ∧ bytes h.metadata.ns = ns := by
  have hsat := List.find?_some hfound
  simp only [decide_eq_true_eq] at hsat
  exact ⟨Store.get_of_mem (List.mem_of_find?_eq_some hfound), hsat.1⟩

theorem World.mem_listHosts {w : World} {ns : String} {h : PhysicalHost} :
    h ∈ w.listHosts ns ↔ h ∈ w.hosts.items ∧ h.metadata.ns = ns := by
  simp [listHosts]

theorem writeObject_get {α : Type} [HasKey α ObjectKey] (md : α → ObjectMeta) (s : Store α) (x : α)
    (k : ObjectKey) :
    (writeObject md s x).get k =
      if k = key x then
        (if (md x).deletionTimestamp.isSome ∧ (md x).finalizers = [] then none else some x)
      else s.get k := by
  unfold writeObject
  by_cases hk : k = key x
  · subst hk
    split <;> simp [Store.get_put]
  · split <;> simp [Store.get_put, Store.get_erase, hk]

/-- An object after a write is the one written, at its key, or was there
before. -/
theorem writeObject_mem_get {α : Type} [HasKey α ObjectKey] {md : α → ObjectMeta} {s : Store α}
    {x y : α} {k : ObjectKey} (hmem : y ∈ (writeObject md s x).get k) :
    (k = key x ∧ y = x) ∨ s.get k = some y := by
  have hget : (writeObject md s x).get k = some y := hmem
  rw [writeObject_get] at hget
  split at hget
  · rename_i hk
    split at hget
    · cases hget
    · cases hget
      exact .inl ⟨hk, rfl⟩
  · exact .inr hget

section Frame

variable (w : World)

@[simp] theorem World.updateHost_machines (h : PhysicalHost) : (w.updateHost h).machines = w.machines := by
  unfold updateHost; split <;> rfl

@[simp] theorem World.updateHost_secrets (h : PhysicalHost) : (w.updateHost h).secrets = w.secrets := by
  unfold updateHost; split <;> rfl

@[simp] theorem World.updateHost_now (h : PhysicalHost) : (w.updateHost h).now = w.now := by
  unfold updateHost; split <;> rfl

@[simp] theorem World.updateHostStatus_machines (h : PhysicalHost) :
    (w.updateHostStatus h).machines = w.machines := by
  unfold updateHostStatus; split <;> rfl

@[simp] theorem World.updateHostStatus_secrets (h : PhysicalHost) :
    (w.updateHostStatus h).secrets = w.secrets := by
  unfold updateHostStatus; split <;> rfl

@[simp] theorem World.updateHostStatus_now (h : PhysicalHost) : (w.updateHostStatus h).now = w.now := by
  unfold updateHostStatus; split <;> rfl

@[simp] theorem World.patchMachine_hosts (m : Beskar7Machine) : (w.patchMachine m).hosts = w.hosts := by
  unfold patchMachine; split <;> rfl

@[simp] theorem World.patchMachine_secrets (m : Beskar7Machine) :
    (w.patchMachine m).secrets = w.secrets := by
  unfold patchMachine; split <;> rfl

@[simp] theorem World.patchMachine_now (m : Beskar7Machine) : (w.patchMachine m).now = w.now := by
  unfold patchMachine; split <;> rfl

/-- `Update` of a host: spec and metadata from the object written, status from
the stored one; the host goes when its deletion is due. -/
theorem World.updateHost_get (h : PhysicalHost) (k : ObjectKey) :
    (w.updateHost h).hosts.get k =
      if k = key h then
        (w.hosts.get k).bind fun old =>
          if h.metadata.deletionTimestamp.isSome ∧ h.metadata.finalizers = [] then none
          else some { h with status := old.status }
      else w.hosts.get k := by
  unfold updateHost
  split
  · rename_i old hold
    have hkey : key { h with status := old.status } = key h := rfl
    rw [writeObject_get, hkey]
    by_cases hk : k = key h
    · subst hk
      simp [hold]
    · simp [hk]
  · rename_i hnone
    by_cases hk : k = key h
    · subst hk
      simp [hnone]
    · simp [hk]

/-- `Status().Update` of a host: the stored host takes the status written. -/
theorem World.updateHostStatus_get (h : PhysicalHost) (k : ObjectKey) :
    (w.updateHostStatus h).hosts.get k =
      if k = key h then (w.hosts.get k).map fun old => { old with status := h.status }
      else w.hosts.get k := by
  unfold updateHostStatus
  split
  · rename_i old hold
    have hkey : key { old with status := h.status } = key h :=
      show key old = key h from Store.key_of_get hold
    by_cases hk : k = key h
    · subst hk
      simp [Store.get_put, hkey, hold]
    · simp [Store.get_put, hkey, hk]
  · rename_i hnone
    by_cases hk : k = key h
    · subst hk
      simp [hnone]
    · simp [hk]

-- The user operations touch one kind of object.

@[simp] theorem World.createHost_machines (ns name : String) (labels : List (String × String))
    (spec : PhysicalHostSpec) : (w.createHost ns name labels spec).machines = w.machines := by
  unfold createHost; split <;> rfl

@[simp] theorem World.createMachine_hosts (ns name : String) (annotations : List (String × String))
    (spec : Beskar7MachineSpec) : (w.createMachine ns name annotations spec).hosts = w.hosts := by
  unfold createMachine; split <;> rfl

@[simp] theorem World.createSecret_hosts (ns name : String) (data : List (String × String)) :
    (w.createSecret ns name data).hosts = w.hosts := by
  unfold createSecret; split <;> rfl

@[simp] theorem World.createSecret_machines (ns name : String) (data : List (String × String)) :
    (w.createSecret ns name data).machines = w.machines := by
  unfold createSecret; split <;> rfl

@[simp] theorem World.editHostSpec_machines (k : ObjectKey) (spec : PhysicalHostSpec) :
    (w.editHostSpec k spec).machines = w.machines := by
  unfold editHostSpec; split <;> rfl

@[simp] theorem World.editMachineSpec_hosts (k : ObjectKey) (spec : Beskar7MachineSpec) :
    (w.editMachineSpec k spec).hosts = w.hosts := by
  unfold editMachineSpec; split <;> rfl

@[simp] theorem World.deleteHost_machines (k : ObjectKey) : (w.deleteHost k).machines = w.machines := by
  unfold deleteHost; split <;> rfl

@[simp] theorem World.deleteMachine_hosts (k : ObjectKey) : (w.deleteMachine k).hosts = w.hosts := by
  unfold deleteMachine; split <;> rfl

-- Where the status of a stored host comes from after a write.

theorem World.updateHost_status {w : World} {h h' : PhysicalHost} {k : ObjectKey}
    (hmem : h' ∈ (w.updateHost h).hosts.get k) : ∃ old ∈ w.hosts.get k, h'.status = old.status := by
  have hget : (w.updateHost h).hosts.get k = some h' := hmem
  rw [World.updateHost_get] at hget
  split at hget
  · cases hold : w.hosts.get k with
    | none => simp [hold] at hget
    | some old =>
      simp only [hold, Option.bind_some] at hget
      split at hget
      · cases hget
      · cases hget
        exact ⟨old, rfl, rfl⟩
  · exact ⟨h', hget, rfl⟩

theorem World.updateHostStatus_status {w : World} {h h' : PhysicalHost} {k : ObjectKey}
    (hmem : h' ∈ (w.updateHostStatus h).hosts.get k) :
    (∃ old ∈ w.hosts.get k, h'.status = old.status) ∨
    (k = key h ∧ (w.hosts.get k).isSome ∧ h'.status = h.status) := by
  have hget : (w.updateHostStatus h).hosts.get k = some h' := hmem
  rw [World.updateHostStatus_get] at hget
  split at hget
  · rename_i hk
    cases hold : w.hosts.get k with
    | none => simp [hold] at hget
    | some old =>
      simp only [hold, Option.map_some, Option.some.injEq] at hget
      subst hget
      exact .inr ⟨hk, rfl, rfl⟩
  · exact .inl ⟨h', hget, rfl⟩

/-- A host after a create was there before, or is the new one, with the
empty status. -/
theorem World.createHost_status {w : World} {ns name : String} {labels : List (String × String)}
    {spec : PhysicalHostSpec} {h' : PhysicalHost} {k : ObjectKey}
    (hmem : h' ∈ (w.createHost ns name labels spec).hosts.get k) :
    w.hosts.get k = some h' ∨ (w.hosts.get k = none ∧ h'.status = {}) := by
  have hget : (w.createHost ns name labels spec).hosts.get k = some h' := hmem
  unfold createHost at hget
  split at hget
  · exact .inl hget
  · rename_i hnone
    simp only [Store.get_put] at hget
    split at hget
    · rename_i hk
      cases hget
      refine .inr ⟨?_, rfl⟩
      rw [hk]
      exact hnone
    · exact .inl hget

theorem World.editHostSpec_status {w : World} {k' : ObjectKey} {spec : PhysicalHostSpec}
    {h' : PhysicalHost} {k : ObjectKey} (hmem : h' ∈ (w.editHostSpec k' spec).hosts.get k) :
    ∃ old ∈ w.hosts.get k, h'.status = old.status := by
  have hget : (w.editHostSpec k' spec).hosts.get k = some h' := hmem
  unfold editHostSpec at hget
  split at hget
  · rename_i old hold
    rcases Store.get_put_eq_some hget with ⟨hk, rfl⟩ | hkept
    · exact ⟨old, Store.get_of_key_eq hold rfl hk, rfl⟩
    · exact ⟨h', hkept, rfl⟩
  · exact ⟨h', hget, rfl⟩

theorem World.deleteHost_status {w : World} {k' : ObjectKey} {h' : PhysicalHost} {k : ObjectKey}
    (hmem : h' ∈ (w.deleteHost k').hosts.get k) : ∃ old ∈ w.hosts.get k, h'.status = old.status := by
  have hget : (w.deleteHost k').hosts.get k = some h' := hmem
  unfold deleteHost at hget
  split at hget
  · rename_i old hold
    rcases writeObject_mem_get hget with ⟨hk, rfl⟩ | hkept
    · exact ⟨old, Store.get_of_key_eq hold rfl hk, rfl⟩
    · exact ⟨h', hkept, rfl⟩
  · exact ⟨h', hget, rfl⟩

-- Where a stored machine comes from after a write.

theorem World.patchMachine_machine {w : World} {m m' : Beskar7Machine} {k : ObjectKey}
    (hmem : m' ∈ (w.patchMachine m).machines.get k) :
    (k = key m ∧ m' = m) ∨ w.machines.get k = some m' := by
  have hget : (w.patchMachine m).machines.get k = some m' := hmem
  unfold patchMachine at hget
  split at hget
  · exact writeObject_mem_get hget
  · exact .inr hget

/-- A machine after a create was there before, or is the new one, with the
empty status. -/
theorem World.createMachine_machine {w : World} {ns name : String}
    {annotations : List (String × String)} {spec : Beskar7MachineSpec} {m' : Beskar7Machine}
    {k : ObjectKey} (hmem : m' ∈ (w.createMachine ns name annotations spec).machines.get k) :
    w.machines.get k = some m' ∨ m'.status = {} := by
  have hget : (w.createMachine ns name annotations spec).machines.get k = some m' := hmem
  unfold createMachine at hget
  split at hget
  · exact .inl hget
  · simp only [Store.get_put] at hget
    split at hget
    · cases hget
      exact .inr rfl
    · exact .inl hget

theorem World.editMachineSpec_machine {w : World} {k' : ObjectKey} {spec : Beskar7MachineSpec}
    {m' : Beskar7Machine} {k : ObjectKey} (hmem : m' ∈ (w.editMachineSpec k' spec).machines.get k) :
    w.machines.get k = some m' ∨ (k = k' ∧ ∃ old ∈ w.machines.get k, m' = { old with spec }) := by
  have hget : (w.editMachineSpec k' spec).machines.get k = some m' := hmem
  unfold editMachineSpec at hget
  split at hget
  · rename_i old hold
    rcases Store.get_put_eq_some hget with ⟨hk, rfl⟩ | hkept
    · have hkey : key old = k' := Store.key_of_get hold
      have hk' : k = k' := by
        rw [hk]
        exact hkey
      exact .inr ⟨hk', old, Store.get_of_key_eq hold rfl hk, rfl⟩
    · exact .inl hkept
  · exact .inl hget

/-- A deletion request changes only the metadata of the machine. -/
theorem World.deleteMachine_machine {w : World} {k' : ObjectKey} {m' : Beskar7Machine}
    {k : ObjectKey} (hmem : m' ∈ (w.deleteMachine k').machines.get k) :
    ∃ old ∈ w.machines.get k, m'.spec = old.spec ∧ m'.status = old.status ∧ key m' = key old := by
  have hget : (w.deleteMachine k').machines.get k = some m' := hmem
  unfold deleteMachine at hget
  split at hget
  · rename_i old hold
    rcases writeObject_mem_get hget with ⟨hk, rfl⟩ | hkept
    · exact ⟨old, Store.get_of_key_eq hold rfl hk, rfl, rfl, rfl⟩
    · exact ⟨m', hkept, rfl, rfl, rfl⟩
  · exact ⟨m', hget, rfl, rfl, rfl⟩

end Frame

end Beskar7
