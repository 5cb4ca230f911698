import Beskar7.Api.Server

/-!
# The inspection report endpoint

`InspectionHandler.ServeHTTP` of `controllers/inspection_handler.go`: the
inspection image POSTs what it found, and the handler stores it on the
PhysicalHost the request names, with phase Complete. It checks neither the
sender nor the host's state; the body has been decoded from JSON already
(`none` when decoding failed).
-/

namespace Beskar7

/-- The request's CPU entries carry the fields of `CPUInfo`, which the
handler copies one by one; so for the other lists. -/
abbrev CPUData := CPUInfo
abbrev MemData := MemoryInfo
abbrev DiskData := DiskInfo
abbrev NICData := NICInfo

structure InspectionReportRequest where
  ns : String
  hostName : String
  manufacturer : String := ""
  model : String := ""
  serialNumber : String := ""
  cpus : List CPUData := []
  memory : List MemData := []
  disks : List DiskData := []
  nics : List NICData := []
  bootModeDetected : String := ""
  firmwareVersion : String := ""
  deriving DecidableEq, Repr

/-- The API server's answers to the handler's Get and status write. -/
structure InspectionEnv where
  getFails : Bool := false
  updateFails : Bool := false

/-- The report the handler builds, stamped with the time it arrives. -/
def InspectionReportRequest.toReport (req : InspectionReportRequest) (now : MetaTime) :
    InspectionReport :=
  { timestamp := now, manufacturer := req.manufacturer, model := req.model,
    serialNumber := req.serialNumber, bootModeDetected := req.bootModeDetected,
    firmwareVersion := req.firmwareVersion, cpus := req.cpus, memory := req.memory,
    disks := req.disks, nics := req.nics }

namespace InspectionHandler

def updatePhysicalHost (w : World) (env : InspectionEnv) (req : InspectionReportRequest) :
    Except String World :=
  if env.getFails then .error "failed to get PhysicalHost"
  else
    match w.hosts.get ⟨req.ns, req.hostName⟩ with
    | none => .error "PhysicalHost not found"
    | some h =>
      let h := { h with status := { h.status with
        inspectionReport := some (req.toReport w.metaNow), inspectionPhase := .complete } }
      if env.updateFails then .error "failed to update PhysicalHost status"
      else .ok (w.updateHostStatus h)

/-- The response status and the world after a request. -/
structure Served where
  status : Nat
  world : World
  effects : List Effect := []

def ServeHTTP (w : World) (env : InspectionEnv) (method : String)
    (body : Option InspectionReportRequest) : Served :=
  if method ≠ "POST" then { status := 405, world := w }
  else
    match body with
    | none => { status := 400, world := w }
    | some req =>
      if req.ns = "" ∨ req.hostName = "" then { status := 400, world := w }
      else
        match updatePhysicalHost w env req with
        | .error _ => { status := 500, world := w }
        | .ok w' => { status := 200, world := w', effects := [.writeHostStatus ⟨req.ns, req.hostName⟩] }

/-- A successful update writes the named host's status, with the report and
phase Complete. -/
theorem updatePhysicalHost_ok {w w' : World} {env : InspectionEnv} {req : InspectionReportRequest}
    (hupdate : updatePhysicalHost w env req = .ok w') :
    ∃ h, w.hosts.get ⟨req.ns, req.hostName⟩ = some h ∧
      w' = w.updateHostStatus { h with status := { h.status with
        inspectionReport := some (req.toReport w.metaNow), inspectionPhase := .complete } } := by
  unfold updatePhysicalHost at hupdate
  split at hupdate
  · cases hupdate
  · split at hupdate
    · cases hupdate
    · rename_i h hget
      split at hupdate
      · cases hupdate
      · cases hupdate
        exact ⟨h, hget, rfl⟩

/-- The handler's only effect is the write of a host's status. -/
theorem ServeHTTP_effects {w : World} {env : InspectionEnv} {method : String}
    {body : Option InspectionReportRequest} {x : Effect}
    (hx : x ∈ (ServeHTTP w env method body).effects) : ∃ k, x = .writeHostStatus k := by
  unfold ServeHTTP at hx
  split at hx
  · simp at hx
  · split at hx
    · simp at hx
    · split at hx
      · simp at hx
      · split at hx
        · simp at hx
        · exact ⟨_, List.mem_singleton.mp hx⟩

/-- A request stores its report on the host it names, with phase Complete,
and changes nothing else. -/
theorem ServeHTTP_status {w : World} {env : InspectionEnv} {method : String}
    {body : Option InspectionReportRequest} {k : ObjectKey} {h' : PhysicalHost}
    (hmem : h' ∈ (ServeHTTP w env method body).world.hosts.get k) :
    (∃ h ∈ w.hosts.get k, h'.status = h.status) ∨
    ∃ req, body = some req ∧ k = ⟨req.ns, req.hostName⟩ ∧ ∃ h ∈ w.hosts.get k,
      h'.status = { h.status with
        inspectionReport := some (req.toReport w.metaNow), inspectionPhase := .complete } := by
  unfold ServeHTTP at hmem
  split at hmem
  · exact .inl ⟨h', hmem, rfl⟩
  · split at hmem
    · exact .inl ⟨h', hmem, rfl⟩
    · rename_i req
      split at hmem
      · exact .inl ⟨h', hmem, rfl⟩
      · split at hmem
        · exact .inl ⟨h', hmem, rfl⟩
        · rename_i w' hupdate
          obtain ⟨h, hget, rfl⟩ := updatePhysicalHost_ok hupdate
          rcases World.updateHostStatus_status hmem with hkept | ⟨hk, -, hs⟩
          · exact .inl hkept
          · have hkey : key h = ⟨req.ns, req.hostName⟩ := Store.key_of_get hget
            have hkh : k = ⟨req.ns, req.hostName⟩ := hk.trans hkey
            subst hkh
            exact .inr ⟨req, rfl, rfl, h, hget, hs⟩

/-- The endpoint writes hosts only. -/
theorem ServeHTTP_machines (w : World) (env : InspectionEnv) (method : String)
    (body : Option InspectionReportRequest) :
    (ServeHTTP w env method body).world.machines = w.machines := by
  unfold ServeHTTP
  split
  · rfl
  · split
    · rfl
    · split
      · rfl
      · split
        · rfl
        · rename_i w' hupdate
          obtain ⟨h, -, rfl⟩ := updatePhysicalHost_ok hupdate
          simp

end InspectionHandler

end Beskar7
