import Pipeline.Run.Event
import Pipeline.Run.Perform

/-!
# Running a graph

A run starts at the root and follows the success or the failure edge of each step that it performs,
until an edge leads to a terminal (specification, sections 4.2 and 13). A step of an unknown type is
not performed and fails. Every step makes one block of notices; `Graph.runFrom` puts the blocks of a
walk together.
-/

namespace Pipeline

/-- What one step of a run brings about. -/
structure Block (σ : Type) where
  notices : List Notice
  /-- Whether the step succeeded. -/
  success : Bool
  world : σ

/-- What a run brings about from some step on. -/
structure Passage (σ : Type) where
  notices : List Notice
  /-- The steps in the order in which they were executed. -/
  executed : List String
  terminal : Terminal
  world : σ

namespace Graph

/-- The notices of the start of a step. -/
def startNotices (n : StepNode) : List Notice :=
  [.log (.info ("Executing Step #" ++ toString n.sequence ++ ": " ++ n.name ++ " (" ++
      n.kind.tag ++ ")")),
    .event (.stepStarted n.sequence n.name n.kind.tag)]

/-- The events after a step is performed. -/
def outcomeEvents (g : Graph) (n : StepNode) : StepOutcome → List Event
  | .success output =>
    [.stepOutput n.name output, .stepSucceeded n.name (g.targetName n.onSuccess)]
  | .failure reason => [.stepFailed n.name reason (g.targetName n.onFailure)]

/-- One step of a run. -/
def block {σ : Type} (g : Graph) (c : Collaborators σ) (policy : StderrPolicy) (n : StepNode)
    (w : σ) : Block σ :=
  match n.kind with
  | .unknown tag =>
    { notices := startNotices n ++
        [.log (.warn ("Unknown step type: " ++ tag ++ " (step " ++ n.name ++ ")")),
          .event (.unknownStepType n.name tag (g.targetName n.onFailure))]
      success := false
      world := w }
  | _ =>
    let answer := n.perform c policy w
    { notices := startNotices n ++ answer.log.map .log ++
        (g.outcomeEvents n answer.result).map .event
      success := answer.result.isSuccess
      world := answer.world }

/-- The notices of the end of a run. -/
def finishNotices (id : ExecutionId) (t : Terminal) : List Notice :=
  [.log (.info ("Pipeline has finished running. Result: " ++ toString t.result)),
    .event (.pipelineFinished id t.name t.result)]

/-- The run from `target` on, if it ends within `steps` steps. -/
def runFrom {σ : Type} (g : Graph) (c : Collaborators σ) (policy : StderrPolicy)
    (id : ExecutionId) : Nat → Target → σ → Option (Passage σ)
  | _, .terminal t, w => some ⟨finishNotices id t, [], t, w⟩
  | 0, .step _, _ => none
  | steps + 1, .step position, w =>
    match g.node? position with
    | none => none
    | some n =>
      let b := g.block c policy n w
      (g.runFrom c policy id steps (n.next b.success) b.world).map fun p =>
        { p with notices := b.notices ++ p.notices, executed := n.name :: p.executed }

/-- The notices of the start of a run. -/
def openingNotices (g : Graph) (id : ExecutionId) : List Notice :=
  [.log (.info ("Starting pipeline execution: " ++ g.targetName g.root ++ " (" ++ id.render ++
      ")")),
    .event (.pipelineStarted id (g.targetName g.root))]

/-- The run of a graph. No step comes twice on a walk of a compiled graph, so its size is enough. -/
def run {σ : Type} (g : Graph) (c : Collaborators σ) (policy : StderrPolicy) (id : ExecutionId)
    (w : σ) : Option (Passage σ) :=
  (g.runFrom c policy id g.size g.root w).map fun p =>
    { p with notices := g.openingNotices id ++ p.notices }

end Graph

end Pipeline
