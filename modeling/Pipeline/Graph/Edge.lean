import Pipeline.Graph
import Pipeline.Step.Registry

/-!
# Edges of step records

Where the routes of a record lead in a registry (specification, section 4.1, success edge and
failure edge): to a terminal, or to the first record of a name. A route to a name without a record
is an error of the record that the route belongs to.
-/

namespace Pipeline

/-- Where an edge leads before its target is bound. -/
inductive Edge where
  | terminal (t : Terminal)
  | record (r : StepRecord)
  deriving DecidableEq, Repr

namespace StepRecord

/-- The success edge of a record. -/
def successEdge (record : StepRecord) (r : Registry) : Except ConfigError Edge :=
  match record.success with
  | .done => .ok (.terminal (.byDefault true))
  | .named target =>
    match r.find? target with
    | some next => .ok (.record next)
    | none => .error (.missingSuccessStep record.name target)

/-- The failure edge of a record. -/
def failureEdge (record : StepRecord) (r : Registry) : Except ConfigError Edge :=
  match record.effectiveFailure with
  | .done => .ok (.terminal (.byDefault false))
  | .named target =>
    match r.find? target with
    | some next => .ok (.record next)
    | none => .error (.missingFailureStep record.name (record.failureWord.getD "") target)

end StepRecord

end Pipeline
