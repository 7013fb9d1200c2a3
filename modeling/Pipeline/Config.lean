import Pipeline.Path

/-!
# Pipeline configurations

What the author of a pipeline writes down (specification, sections 3 and 11): the name of the first
step, the step entries, where the script manifest lies, and how output on standard error is judged.
-/

namespace Pipeline

/-- Whether output on standard error fails a command that exits with status zero. -/
inductive StderrPolicy where
  | fail
  | ignore
  deriving DecidableEq, Repr, Inhabited

/-- The word for a policy. -/
def StderrPolicy.name : StderrPolicy → String
  | .fail => "fail"
  | .ignore => "ignore"

/-- The policy of a word. -/
def StderrPolicy.ofName? (name : String) : Option StderrPolicy :=
  if name = "fail" then some .fail
  else if name = "ignore" then some .ignore
  else none

/-- The words for policies, in the order a message lists them. -/
def StderrPolicy.names : List String := ["fail", "ignore"]

/-- A step as its author wrote it (section 11, step keys). -/
structure StepEntry where
  name : String
  typeTag : String
  success : Option String := none
  failure : Option String := none
  scriptName : Option String := none
  command : Option String := none
  config : Option String := none
  result : Option Bool := none
  deriving DecidableEq, Repr, Inhabited

/-- A pipeline as its author wrote it (section 11, top level keys). -/
structure Config where
  root : String := ""
  steps : List StepEntry := []
  manifest : Option String := none
  stderr : StderrPolicy := .fail
  deriving DecidableEq, Repr, Inhabited

namespace Config

/-- Where the script manifest lies unless the configuration says (section 11, `manifest`). -/
def defaultManifest : String := "./package.json"

/-- The path of the script manifest, seen from the working directory. -/
def manifestPath (c : Config) (workingDir : String) : String :=
  Path.join workingDir (c.manifest.getD defaultManifest)

end Config

end Pipeline
