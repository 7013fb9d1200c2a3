import Pipeline.Log
import Pipeline.Run.ExecutionId

/-!
# Events of a run

What happens during a run, in the order in which it happens (specification, section 13). Log entries
come between the events, so both are kept in one list of notices.
-/

namespace Pipeline

/-- Something that happens during a run. -/
inductive Event where
  | pipelineStarted (id : ExecutionId) (root : String)
  | stepStarted (sequence : Int) (step : String) (stepType : String)
  | stepOutput (step : String) (output : String)
  | stepSucceeded (step : String) (next : String)
  | stepFailed (step : String) (reason : String) (next : String)
  | unknownStepType (step : String) (stepType : String) (next : String)
  | pipelineFinished (id : ExecutionId) (terminal : String) (result : Bool)
  deriving DecidableEq, Repr

/-- Whether an event is the start of a step. -/
def Event.isStart : Event → Bool
  | .stepStarted _ _ _ => true
  | _ => false

/-- An event or a log entry. -/
inductive Notice where
  | event (e : Event)
  | log (entry : LogEntry)
  deriving DecidableEq, Repr

/-- The event of a notice. -/
def Notice.event? : Notice → Option Event
  | .event e => some e
  | .log _ => none

/-- The log entry of a notice. -/
def Notice.log? : Notice → Option LogEntry
  | .event _ => none
  | .log entry => some entry

/-- The events among notices. -/
def eventsOf (ns : List Notice) : List Event :=
  ns.filterMap Notice.event?

/-- The log entries among notices. -/
def logOf (ns : List Notice) : List LogEntry :=
  ns.filterMap Notice.log?

end Pipeline
