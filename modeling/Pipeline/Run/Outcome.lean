import Pipeline.Json.Printer
import Pipeline.Run.Engine
import Pipeline.Run.Instant

/-!
# Outcomes of runs

What a run comes to: how it ended, which steps it executed, and when (specification, section 13).
-/

namespace Pipeline

/-- What is known of a run after its end. -/
structure Outcome where
  id : ExecutionId
  terminal : Terminal
  executed : List String
  startedAt : Instant
  finishedAt : Instant
  deriving DecidableEq, Repr

namespace Outcome

/-- The outcome of a run between two instants. -/
def ofPassage {σ : Type} (p : Passage σ) (id : ExecutionId) (startedAt finishedAt : Instant) :
    Outcome :=
  ⟨id, p.terminal, p.executed, startedAt, finishedAt⟩

/-- Whether the run ended well. -/
def success (o : Outcome) : Bool :=
  o.terminal.result

/-- The exit status that tells the outcome (section 13, process exit codes). -/
def exitCode (o : Outcome) : Nat :=
  if o.success then 0 else 1

/-- The outcome as a JSON object. -/
def toJson (o : Outcome) : Json.Value :=
  .object
    [("execution_id", .string o.id.render), ("success", .bool o.success),
      ("terminal", .string o.terminal.name),
      ("executed_steps", .array (o.executed.map .string)),
      ("started_at", .string o.startedAt.render), ("finished_at", .string o.finishedAt.render)]

end Outcome

end Pipeline
