import Pipeline.Graph
import Pipeline.Run.Collaborators
import Pipeline.Text.Blank

/-!
# Performing one step

A step runs at most one command, its own or one that the manifest has for its script (specification,
sections 4.3 and 14). Whatever goes wrong on the way is the reason of the step's failure, and is
logged once.
-/

namespace Pipeline

/-- What comes of a step: the standard output of its command, or the reason why it failed. -/
inductive StepOutcome where
  | success (output : String)
  | failure (reason : String)
  deriving DecidableEq, Repr

/-- Whether the step succeeded. -/
def StepOutcome.isSuccess : StepOutcome → Bool
  | .success _ => true
  | .failure _ => false

/-- The command of a TypeScript build. -/
def compilerCommand (config : String) : String :=
  "tsc -p " ++ config

/-- The step's outcome by what its command left behind. -/
def CommandOutput.judge (policy : StderrPolicy) (command : String) (o : CommandOutput) :
    StepOutcome :=
  match o.exitCode with
  | none => .failure ("`" ++ command ++ "` was terminated by a signal")
  | some code =>
    if code ≠ 0 then
      .failure ("`" ++ command ++ "` exited with code " ++ toString code ++ ": " ++
        Text.trim o.stderr)
    else if policy = .fail ∧ o.hasStderr then
      .failure ("`" ++ command ++ "` wrote to stderr: " ++ Text.trim o.stderr)
    else .success o.stdout

/-- The step's outcome by what came of its command. -/
def judgeCommand (policy : StderrPolicy) (command : String) :
    Except SpawnError CommandOutput → StepOutcome
  | .error e => .failure e.message
  | .ok o => o.judge policy command

/-- The warning for a command that made its step fail. -/
def commandWarning (step : String) : StepOutcome → List LogEntry
  | .success _ => []
  | .failure reason => [.warn ("Error while executing " ++ step ++ ": " ++ reason)]

/-- A step that runs `command`. -/
def performCommand {σ : Type} (c : Collaborators σ) (policy : StderrPolicy)
    (step command : String) (w : σ) : Answer σ StepOutcome :=
  let answer := c.run command w
  let outcome := judgeCommand policy command answer.result
  { result := outcome
    log := .debug ("Step " ++ step ++ " runs `" ++ command ++ "`") ::
      (answer.log ++ commandWarning step outcome)
    world := answer.world }

/-- A step that runs the command of a script. -/
def performScript {σ : Type} (c : Collaborators σ) (policy : StderrPolicy)
    (step script : String) (w : σ) : Answer σ StepOutcome :=
  let found := c.lookup script w
  match found.result with
  | .error e =>
    { result := .failure e.message
      log := found.log ++
        [.warn ("Error while reading manifest in " ++ step ++ ": " ++ e.message)]
      world := found.world }
  | .ok command =>
    let answer := performCommand c policy step command found.world
    { answer with log := found.log ++ answer.log }

/-- A step of a kind that nothing here performs. -/
def refuseStep {σ : Type} (step : String) (kind : StepKind) (w : σ) : Answer σ StepOutcome :=
  let reason := "No handler for step type " ++ kind.tag
  { result := .failure reason
    log := [.warn (reason ++ " (" ++ step ++ ")")]
    world := w }

/-- Performs the step of a node. -/
def StepNode.perform {σ : Type} (c : Collaborators σ) (policy : StderrPolicy) (n : StepNode)
    (w : σ) : Answer σ StepOutcome :=
  match n.kind with
  | .build script => performScript c policy n.name script w
  | .test (.command command) => performCommand c policy n.name command w
  | .test (.script script) => performScript c policy n.name script w
  | .typeScript config => performCommand c policy n.name (compilerCommand config) w
  | .finish result => refuseStep n.name (.finish result) w
  | .unknown tag => refuseStep n.name (.unknown tag) w

end Pipeline
