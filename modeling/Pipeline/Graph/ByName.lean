import Pipeline.Graph
import Pipeline.Step.Registry

/-!
# Following records by name

What the routes of a pipeline mean without a graph: the records are looked up name by name, and the
choices of success or failure lead from one to the next until a step ends the pipeline.
-/

namespace Pipeline

/-- Where one is when records are followed: at a step, or at the end of the pipeline. -/
inductive Station where
  | step (name : String) (kind : StepKind)
  | terminal (t : Terminal)
  deriving DecidableEq, Repr

/-- The station of a record. -/
def StepRecord.station (record : StepRecord) : Station :=
  match record.kind with
  | .finish result => .terminal ⟨record.name, result⟩
  | kind => .step record.name kind

/-- The route of a record after a success or a failure. -/
def StepRecord.route (record : StepRecord) (success : Bool) : Route :=
  if success then record.success else record.effectiveFailure

namespace Registry

/-- The station of the first record of a name. -/
def station? (r : Registry) (name : String) : Option Station :=
  (r.find? name).map StepRecord.station

/-- The station after a step. -/
def stationAfter? (r : Registry) (name : String) (success : Bool) : Option Station := do
  let record ← r.find? name
  match record.route success with
  | .done => return .terminal (.byDefault success)
  | .named next => r.station? next

/-- The stations seen from `start` on when the choices are followed until they or the steps end. -/
def walk (r : Registry) (start : Station) : List Bool → List Station
  | [] => [start]
  | success :: choices =>
    match start with
    | .terminal _ => [start]
    | .step name _ =>
      match r.stationAfter? name success with
      | none => [start]
      | some next => start :: walk r next choices

end Registry

namespace Graph

/-- The station of a target. -/
def station? (g : Graph) : Target → Option Station
  | .terminal t => some (.terminal t)
  | .step position => (g.node? position).map fun n => .step n.name n.kind

end Graph

end Pipeline
