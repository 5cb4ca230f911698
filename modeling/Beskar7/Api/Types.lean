import Beskar7.Lib.Store

/-!
# The API types

The resources of `api/v1beta1` as far as the controllers read and write
them: `PhysicalHost`, `Beskar7Machine` and the inspection report, with the
core `Secret` and the Cluster API addresses and conditions they use. Fields
that no controller reads or writes (image URLs, failure reasons, error and
condition messages) are left out.

Times are the API server's: `metav1.Time` is stored with second precision,
so a `MetaTime` counts seconds, while the controllers' clock and durations
count nanoseconds as `time.Duration` does.
-/

namespace Beskar7

/-- `metav1.Time` as stored: whole seconds. -/
abbrev MetaTime := Nat

/-- `time.Time` and `time.Duration`: nanoseconds. -/
abbrev Duration := Nat

def second : Duration := 1000000000
def minute : Duration := 60 * second

/-- `types.UID`: the API server gives every object a fresh one. -/
abbrev UID := Nat

/-- `types.NamespacedName`. -/
structure ObjectKey where
  ns : String
  name : String
  deriving DecidableEq, Repr

structure ObjectMeta where
  ns : String
  name : String
  uid : UID
  labels : List (String × String) := []
  annotations : List (String × String) := []
  finalizers : List String := []
  deletionTimestamp : Option MetaTime := none
  deriving DecidableEq, Repr

/-- `corev1.ObjectReference`, the fields a claim fills in. -/
structure ObjectReference where
  kind : String
  apiVersion : String
  name : String
  ns : String
  uid : UID
  deriving DecidableEq, Repr

-- ---------------------------------------------------------------------------
-- Conditions
-- ---------------------------------------------------------------------------

inductive ConditionType
  | infrastructureReady
  | physicalHostAssociated
  | redfishConnectionReady
  | hostAvailable
  | hostInspected
  | controlPlaneEndpointReady
  deriving DecidableEq, Repr

inductive ConditionStatus
  | conditionTrue
  | conditionFalse
  | conditionUnknown
  deriving DecidableEq, Repr

inductive ConditionSeverity
  | error
  | warning
  | info
  | none
  deriving DecidableEq, Repr

structure Condition where
  type : ConditionType
  status : ConditionStatus
  severity : ConditionSeverity
  reason : String
  deriving DecidableEq, Repr

abbrev Conditions := List Condition

namespace Conditions

def get (cs : Conditions) (t : ConditionType) : Option Condition := cs.find? (·.type = t)

/-- `conditions.Set`: replace the condition of the same type, or add it. -/
def set (cs : Conditions) (c : Condition) : Conditions :=
  if cs.any (·.type = c.type) then cs.map (fun d => if d.type = c.type then c else d)
  else cs ++ [c]

def markTrue (cs : Conditions) (t : ConditionType) : Conditions :=
  cs.set ⟨t, .conditionTrue, .none, ""⟩

def markFalse (cs : Conditions) (t : ConditionType) (reason : String)
    (severity : ConditionSeverity) : Conditions :=
  cs.set ⟨t, .conditionFalse, severity, reason⟩

/-- `conditions.IsTrue`. -/
def isTrue (cs : Conditions) (t : ConditionType) : Bool :=
  match cs.get t with
  | some c => c.status = .conditionTrue
  | none => false

theorem get_set (cs : Conditions) (c : Condition) (t : ConditionType) :
    (cs.set c).get t = if t = c.type then some c else cs.get t := by
  unfold set get
  split
  · rename_i h
    -- replacing by `c` keeps every condition's type, so the search is the same
    have hp : ((fun d : Condition => decide (d.type = t)) ∘
        fun d => if d.type = c.type then c else d) = fun d => decide (d.type = t) := by
      funext d
      by_cases hd : d.type = c.type <;> simp [hd]
    rw [List.find?_map, hp]
    split
    · rename_i ht
      subst ht
      obtain ⟨d, hd, hdt⟩ := List.any_eq_true.mp h
      obtain ⟨e, he⟩ : ∃ e, cs.find? (·.type = c.type) = some e :=
        Option.isSome_iff_exists.mp (List.find?_isSome.mpr ⟨d, hd, hdt⟩)
      have het : e.type = c.type := by simpa using List.find?_some he
      simp [he, het]
    · rename_i ht
      cases hf : cs.find? (·.type = t) with
      | none => rfl
      | some e =>
        have het : e.type = t := by simpa using List.find?_some hf
        simp [het, ht]
  · rename_i h
    rw [List.find?_append]
    split
    · rename_i ht
      subst ht
      have hn : cs.find? (·.type = c.type) = none := by simpa using h
      simp [hn]
    · rename_i ht
      simp [Ne.symm ht]

@[simp] theorem isTrue_markTrue (cs : Conditions) (t : ConditionType) :
    (cs.markTrue t).isTrue t = true := by
  simp [markTrue, isTrue, get_set]

@[simp] theorem isTrue_markFalse (cs : Conditions) (t : ConditionType) (reason : String)
    (severity : ConditionSeverity) : (cs.markFalse t reason severity).isTrue t = false := by
  simp [markFalse, isTrue, get_set]

theorem isTrue_markTrue_ne (cs : Conditions) {t t' : ConditionType} (h : t' ≠ t) :
    (cs.markTrue t).isTrue t' = cs.isTrue t' := by
  simp [markTrue, isTrue, get_set, h]

theorem isTrue_markFalse_ne (cs : Conditions) {t t' : ConditionType} (h : t' ≠ t)
    (reason : String) (severity : ConditionSeverity) :
    (cs.markFalse t reason severity).isTrue t' = cs.isTrue t' := by
  simp [markFalse, isTrue, get_set, h]

end Conditions

-- ---------------------------------------------------------------------------
-- Addresses
-- ---------------------------------------------------------------------------

/-- `clusterv1.MachineAddressType`. -/
inductive MachineAddressType
  | hostname
  | externalIP
  | internalIP
  | externalDNS
  | internalDNS
  deriving DecidableEq, Repr

structure MachineAddress where
  type : MachineAddressType
  address : String
  deriving DecidableEq, Repr

-- ---------------------------------------------------------------------------
-- PhysicalHost
-- ---------------------------------------------------------------------------

/-- `Status.State`. The field is a string, but the controllers only ever
write these constants, and a created object starts with the empty one. -/
inductive HostState
  /-- `StateNone`, `""` -/
  | none
  | unknown
  | enrolling
  | available
  | inUse
  | inspecting
  | ready
  | error
  deriving DecidableEq, Repr

inductive InspectionPhase
  /-- the empty phase of a host never inspected -/
  | none
  | pending
  | booting
  | inProgress
  | complete
  | failed
  | timeout
  deriving DecidableEq, Repr

structure RedfishConnection where
  address : String
  credentialsSecretRef : String
  insecureSkipVerify : Option Bool := none
  deriving DecidableEq, Repr

structure PhysicalHostSpec where
  redfishConnection : RedfishConnection
  consumerRef : Option ObjectReference := none
  deriving DecidableEq, Repr

structure HardwareStatus where
  health : String := ""
  healthRollup : String := ""
  state : String := ""
  deriving DecidableEq, Repr

structure HardwareDetails where
  manufacturer : String := ""
  model : String := ""
  serialNumber : String := ""
  status : HardwareStatus := {}
  deriving DecidableEq, Repr

/-- Go's `int` fields are 64-bit. -/
structure CPUInfo where
  id : String := ""
  vendor : String := ""
  model : String := ""
  cores : Int64 := 0
  threads : Int64 := 0
  frequency : String := ""
  deriving DecidableEq, Repr

structure MemoryInfo where
  id : String := ""
  type : String := ""
  capacity : String := ""
  speed : String := ""
  deriving DecidableEq, Repr

structure DiskInfo where
  name : String := ""
  model : String := ""
  sizeGB : Int64 := 0
  type : String := ""
  serialNumber : String := ""
  deriving DecidableEq, Repr

structure NICInfo where
  name : String := ""
  macAddress : String := ""
  driver : String := ""
  speed : String := ""
  ipAddresses : List String := []
  deriving DecidableEq, Repr

structure InspectionReport where
  timestamp : MetaTime
  manufacturer : String := ""
  model : String := ""
  serialNumber : String := ""
  bootModeDetected : String := ""
  firmwareVersion : String := ""
  cpus : List CPUInfo := []
  memory : List MemoryInfo := []
  disks : List DiskInfo := []
  nics : List NICInfo := []
  deriving DecidableEq, Repr

/-- A host is created with this empty status; the status subresource ignores
what a create carries. -/
structure PhysicalHostStatus where
  ready : Bool := false
  state : HostState := .none
  observedPowerState : String := ""
  hardwareDetails : HardwareDetails := {}
  addresses : List MachineAddress := []
  inspectionReport : Option InspectionReport := none
  inspectionPhase : InspectionPhase := .none
  inspectionTimestamp : Option MetaTime := none
  conditions : Conditions := []
  deriving DecidableEq, Repr

structure PhysicalHost where
  metadata : ObjectMeta
  spec : PhysicalHostSpec
  status : PhysicalHostStatus := {}
  deriving DecidableEq, Repr

instance : HasKey PhysicalHost ObjectKey := ⟨fun h => ⟨h.metadata.ns, h.metadata.name⟩⟩

theorem PhysicalHost.key_def (h : PhysicalHost) : key h = ⟨h.metadata.ns, h.metadata.name⟩ := rfl

-- ---------------------------------------------------------------------------
-- Beskar7Machine
-- ---------------------------------------------------------------------------

structure HardwareRequirements where
  minCPUCores : Int64 := 0
  minMemoryGB : Int64 := 0
  minDiskGB : Int64 := 0
  deriving DecidableEq, Repr

structure Beskar7MachineSpec where
  providerID : Option String := none
  hardwareRequirements : Option HardwareRequirements := none
  deriving DecidableEq, Repr

/-- `Status.Phase`, a `*string` the controller sets to one of these. -/
inductive MachinePhase
  | failed
  | pending
  | inspecting
  | provisioned
  deriving DecidableEq, Repr

structure Beskar7MachineStatus where
  ready : Bool := false
  phase : Option MachinePhase := none
  addresses : List MachineAddress := []
  conditions : Conditions := []
  deriving DecidableEq, Repr

/-- `kind` and `apiVersion` are the object's `TypeMeta`, copied into the
`ConsumerRef` of a host it claims. -/
structure Beskar7Machine where
  kind : String := "Beskar7Machine"
  apiVersion : String := "infrastructure.cluster.x-k8s.io/v1beta1"
  metadata : ObjectMeta
  spec : Beskar7MachineSpec := {}
  status : Beskar7MachineStatus := {}
  deriving DecidableEq, Repr

instance : HasKey Beskar7Machine ObjectKey := ⟨fun m => ⟨m.metadata.ns, m.metadata.name⟩⟩

theorem Beskar7Machine.key_def (m : Beskar7Machine) : key m = ⟨m.metadata.ns, m.metadata.name⟩ := rfl

/-- A reference identifies a machine when namespace, name and UID agree. -/
def ObjectReference.Identifies (ref : ObjectReference) (m : Beskar7Machine) : Prop :=
  ref.ns = m.metadata.ns ∧ ref.name = m.metadata.name ∧ ref.uid = m.metadata.uid

instance (ref : ObjectReference) (m : Beskar7Machine) : Decidable (ref.Identifies m) :=
  inferInstanceAs (Decidable (_ ∧ _ ∧ _))

/-- `Spec.ConsumerRef` is set and identifies the machine. -/
def PhysicalHost.ClaimedBy (h : PhysicalHost) (m : Beskar7Machine) : Prop :=
  ∃ ref, h.spec.consumerRef = some ref ∧ ref.Identifies m

instance (h : PhysicalHost) (m : Beskar7Machine) : Decidable (h.ClaimedBy m) :=
  match hc : h.spec.consumerRef with
  | some ref => decidable_of_iff (ref.Identifies m) (by simp [PhysicalHost.ClaimedBy, hc])
  | none => isFalse (by simp [PhysicalHost.ClaimedBy, hc])

theorem PhysicalHost.ClaimedBy.isSome {h : PhysicalHost} {m : Beskar7Machine} (hc : h.ClaimedBy m) :
    h.spec.consumerRef.isSome := by
  obtain ⟨ref, href, -⟩ := hc
  simp [href]

-- ---------------------------------------------------------------------------
-- Secret
-- ---------------------------------------------------------------------------

/-- `corev1.Secret`; `Data` maps keys to bytes, read back as strings. -/
structure Secret where
  metadata : ObjectMeta
  data : List (String × String) := []
  deriving DecidableEq, Repr

instance : HasKey Secret ObjectKey := ⟨fun s => ⟨s.metadata.ns, s.metadata.name⟩⟩

/-- `annotations.HasPaused`: the pause annotation is present, whatever its value. -/
def isPaused (om : ObjectMeta) : Bool := om.annotations.any (·.1 = "cluster.x-k8s.io/paused")

end Beskar7
