import Pipeline.Config
import Pipeline.Config.Error

/-!
# Steps

A step record is a step entry with its meaning worked out (specification, sections 3, 9 and 11):
what the step does, with only the fields that this needs, and where the pipeline goes after it.
-/

namespace Pipeline

/-- How a test step finds its command. -/
inductive TestSource where
  | command (command : String)
  | script (name : String)
  deriving DecidableEq, Repr

/-- What a step does: a closed sum of kinds, each with only its own fields (section 9). -/
inductive StepKind where
  /-- Runs a script of the manifest. -/
  | build (script : String)
  /-- Runs the TypeScript compiler with a project file. -/
  | typeScript (config : String)
  /-- Runs a command or a script of the manifest. -/
  | test (source : TestSource)
  /-- Ends the pipeline with a result. -/
  | finish (result : Bool)
  /-- Does nothing that is known here. -/
  | unknown (tag : String)
  deriving DecidableEq, Repr

/-- The type tag as it is written in a configuration. -/
def StepKind.tag : StepKind → String
  | .build _ => "BuildScript"
  | .typeScript _ => "TypeScriptBuild"
  | .test _ => "Test"
  | .finish _ => "End"
  | .unknown tag => tag

/-- Where the pipeline goes next: to its end, or to a named step. -/
inductive Route where
  | done
  | named (name : String)
  deriving DecidableEq, Repr

/-- The route after a failure: its own, or the one after a success. -/
inductive FailureRoute where
  | next (route : Route)
  | onward
  deriving DecidableEq, Repr

/-- The word that ends the pipeline, in any case. -/
def endWord : String := "end"

/-- The word that takes the route of a success after a failure too. -/
def continueWord : String := "continue"

/-- Whether two texts differ at most in the case of ASCII letters. -/
def sameLetters (a b : String) : Bool :=
  a.toList.map Char.toLower == b.toList.map Char.toLower

/-- The route of an authored word (section 11, transitions). -/
def Route.ofWord : Option String → Route
  | none => .done
  | some word => if sameLetters word endWord then .done else .named word

/-- The failure route of an authored word (section 11, transitions). -/
def FailureRoute.ofWord (word : Option String) : FailureRoute :=
  if word = some continueWord then .onward else .next (Route.ofWord word)

/-- A named step with its routes. -/
structure StepRecord where
  name : String
  kind : StepKind
  success : Route
  failure : FailureRoute
  /-- The failure word as written, for messages. -/
  failureWord : Option String
  deriving DecidableEq, Repr

namespace StepRecord

/-- The script of a build step that names none. -/
def defaultBuildScript : String := "build"

/-- The script of a test step that names neither a command nor a script. -/
def defaultTestScript : String := "test"

/-- The project file of a TypeScript step that names none. -/
def defaultProject : String := "./tsconfig.json"

/-- What an entry's type tag and fields mean, with the defaults of section 11; an end needs a
result. -/
def kindOf (e : StepEntry) : Except ConfigError StepKind :=
  if e.typeTag = "BuildScript" then .ok (.build (e.scriptName.getD defaultBuildScript))
  else if e.typeTag = "TypeScriptBuild" then .ok (.typeScript (e.config.getD defaultProject))
  else if e.typeTag = "Test" then
    .ok <| .test <|
      match e.command with
      | some command => .command command
      | none => .script (e.scriptName.getD defaultTestScript)
  else if e.typeTag = "End" then
    match e.result with
    | some result => .ok (.finish result)
    | none => .error (.invalidStep e.name "End steps need a boolean `result`")
  else .ok (.unknown e.typeTag)

/-- The record of an entry. -/
def ofEntry (e : StepEntry) : Except ConfigError StepRecord := do
  let kind ← kindOf e
  .ok ⟨e.name, kind, Route.ofWord e.success, FailureRoute.ofWord e.failure, e.failure⟩

/-- The route after a failure, the route of a success put in where the author asks for it: the
effective failure name of section 4.1. -/
def effectiveFailure (r : StepRecord) : Route :=
  match r.failure with
  | .next route => route
  | .onward => r.success

end StepRecord

end Pipeline
