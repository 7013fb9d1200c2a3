import Pipeline.Yaml.Error

/-!
# Configuration errors

The first tier of errors (specification, section 7). Everything here is fatal: a pipeline with a
configuration error never starts running steps.
-/

namespace Pipeline

/-- Why there is no pipeline to run. -/
inductive ConfigError where
  | notFound (searched : List String)
  | unreadable (path : String) (cause : String)
  | unparsable (cause : Yaml.Error)
  | missingRoot
  | rootNotFound (root : String)
  | missingSuccessStep (step : String) (target : String)
  | missingFailureStep (step : String) (failure : String) (target : String)
  | cycle (path : List String)
  | invalidStep (step : String) (problem : String)
  deriving DecidableEq, Repr

namespace ConfigError

/-- The text of an error. -/
def message : ConfigError → String
  | notFound searched =>
    "Configuration was not found (searched: " ++ String.intercalate ", " searched ++ ")"
  | unreadable path cause => "Failed to read configuration " ++ path ++ ": " ++ cause
  | unparsable cause => "Failed to parse configuration: " ++ cause.message
  | missingRoot => "No root step was configured"
  | rootNotFound root => "Root step \"" ++ root ++ "\" was not found in your configuration"
  | missingSuccessStep step target =>
    "Step \"" ++ step ++ "\" has success step \"" ++ target ++ "\" which does not exist"
  | missingFailureStep step failure target =>
    "Step \"" ++ step ++ "\" has failure step \"" ++ failure ++ "\" (resolved to \"" ++ target ++
      "\") which does not exist"
  | cycle path => "Cycle detected between steps: " ++ String.intercalate " -> " path
  | invalidStep step problem => "Step \"" ++ step ++ "\" is invalid: " ++ problem

/-- The text of the error that lies behind an error, if there is one. -/
def cause? : ConfigError → Option String
  | unreadable _ cause => some cause
  | unparsable cause => some cause.message
  | _ => none

/-- The text of the error followed by what lies behind it. -/
def chain (e : ConfigError) : String :=
  e.message ++ e.cause?.elim "" (": " ++ ·)

end ConfigError

end Pipeline
