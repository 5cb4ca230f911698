import Beskar7.Controllers.PhysicalHost
import Beskar7.Controllers.Beskar7Machine
import Beskar7.Controllers.Inspection
import Beskar7.Lib.Trace

/-!
# The system

The two controllers, the inspection endpoint and the users act on one
`World`, one event at a time, in any order. A reconcile event carries the
answers of the API server for that reconcile and the factory that stands for
the BMCs at that moment; the reconcilers are wired with a recorder and that
factory, as the controllers' tests wire them (`cmd/main.go` does not: see
`Beskar7.Manager.Main`).

A run starts from the empty world; a state is reachable when some run ends
in it.
-/

namespace Beskar7

inductive Event
  | reconcileHost (k : ObjectKey) (env : HostReconcileEnv) (factory : RedfishClientFactory)
  | reconcileMachine (k : ObjectKey) (env : MachineReconcileEnv) (factory : RedfishClientFactory)
  | postInspection (env : InspectionEnv) (method : String) (body : Option InspectionReportRequest)
  | createHost (ns name : String) (labels : List (String × String)) (spec : PhysicalHostSpec)
  | createMachine (ns name : String) (annotations : List (String × String))
      (spec : Beskar7MachineSpec)
  | createSecret (ns name : String) (data : List (String × String))
  | editHostSpec (k : ObjectKey) (spec : PhysicalHostSpec)
  | editMachineSpec (k : ObjectKey) (spec : Beskar7MachineSpec)
  | deleteHost (k : ObjectKey)
  | deleteMachine (k : ObjectKey)
  | tick (d : Duration)

def hostReconciler (factory : RedfishClientFactory) : PhysicalHostReconciler :=
  { recorder := some {}, redfishClientFactory := some factory }

def machineReconciler (factory : RedfishClientFactory) : Beskar7MachineReconciler :=
  { redfishClientFactory := some factory }

def step (w : World) : Event → World × List Effect
  | .reconcileHost k env f =>
    let out := (hostReconciler f).Reconcile w k env
    (out.world, out.effects)
  | .reconcileMachine k env f =>
    let out := (machineReconciler f).Reconcile w k env
    (out.world, out.effects)
  | .postInspection env method body =>
    let out := InspectionHandler.ServeHTTP w env method body
    (out.world, out.effects)
  | .createHost ns name labels spec => (w.createHost ns name labels spec, [])
  | .createMachine ns name annotations spec => (w.createMachine ns name annotations spec, [])
  | .createSecret ns name data => (w.createSecret ns name data, [])
  | .editHostSpec k spec => (w.editHostSpec k spec, [])
  | .editMachineSpec k spec => (w.editMachineSpec k spec, [])
  | .deleteHost k => (w.deleteHost k, [])
  | .deleteMachine k => (w.deleteMachine k, [])
  | .tick d => ({ w with now := w.now + d }, [])

/-- The world after a run. -/
def run (w : World) (es : List Event) : World := Trace.run step w es

/-- What a run did, in order. -/
def effects (w : World) (es : List Event) : List Effect := Trace.effects step w es

def Reachable (w : World) : Prop := ∃ es, run {} es = w

end Beskar7
