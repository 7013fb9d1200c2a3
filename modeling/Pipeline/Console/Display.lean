import Pipeline.Console
import Pipeline.Run.Outcome
import Pipeline.Text.Lines

/-!
# Display of runs, plans and outcomes

The lines in which a console shows the events of a run, the plan of a graph and the outcome of a run
(specification, section 15).
-/

namespace Pipeline.Console

/-- The line of an event. The start and the output of a step have none: a label and the output
itself stand for them. -/
def eventLine? (c : Console) : Event → Option String
  | .pipelineStarted id root =>
    some <| c.line .rocket <|
      "Starting pipeline at " ++ c.style .bold root ++ " (" ++ c.style .dim id.short ++ ")"
  | .stepStarted _ _ _ => none
  | .stepOutput _ _ => none
  | .stepSucceeded step next =>
    some <| c.line .check <| c.style .green step ++ " → " ++ c.style .cyan next
  | .stepFailed step reason next =>
    some <| c.line .cross <|
      c.style .red step ++ ": " ++ c.style .dim reason ++ " → " ++ c.style .cyan next
  | .unknownStepType step stepType next =>
    some <| c.line .warning <|
      c.style .yellow step ++ ": unknown step type " ++ c.style .bold stepType ++ " → " ++
        c.style .cyan next
  | .pipelineFinished id terminal result =>
    some <| c.line .info <|
      "Pipeline (" ++ c.style .dim id.short ++ ") reached " ++ c.style .bold terminal ++
        " with result " ++ (if result then c.style .green "true" else c.style .red "false")

/-- The label of a step that is running. -/
def stepLabel (c : Console) (sequence : Int) (step stepType : String) : String :=
  c.line .hourglass <|
    "Executing Step #" ++ toString sequence ++ ": " ++ c.style .cyan step ++ " (" ++ stepType ++
      ")"

/-- At most `max` lines of an output, and how many more there are. -/
def truncate (c : Console) (output : String) (max : Nat) : String :=
  let lines := Text.lines output
  if lines.length ≤ max then output
  else
    String.intercalate "\n" (lines.take max) ++ "\n" ++ c.style .dim "[truncated]" ++ "... (" ++
      toString (lines.length - max) ++ " more lines)"

/-- A target in a plan, the result with a terminal. -/
def describeTarget (g : Graph) : Target → String
  | .terminal t => t.name ++ " (" ++ toString t.result ++ ")"
  | target => g.targetName target

/-- The plan of a graph, a line for each node. -/
def planLines (g : Graph) : List String :=
  g.nodes.map fun n =>
    "#" ++ toString n.sequence ++ " " ++ n.name ++ " (" ++ n.kind.tag ++ ") success → " ++
      describeTarget g n.onSuccess ++ ", failure → " ++ describeTarget g n.onFailure

/-- The line of an outcome. -/
def outcomeLine (c : Console) (o : Outcome) : String :=
  let after := " after " ++ toString o.executed.length ++ " step(s) in " ++
    renderElapsed o.startedAt o.finishedAt ++ "s"
  if o.success then
    c.line .check ("Pipeline completed " ++ c.style .green "successfully" ++ after)
  else c.line .cross ("Pipeline " ++ c.style .red "failed" ++ after)

end Pipeline.Console
