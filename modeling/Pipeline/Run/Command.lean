/-!
# Commands and what comes of them

What a finished command leaves behind, and why a command or the look-up of a script can fail
(specification, section 14, collaborators).
-/

namespace Pipeline

/-- What a finished command leaves behind; there is no exit code after a kill by a signal. -/
structure CommandOutput where
  stdout : String := ""
  stderr : String := ""
  exitCode : Option Int := none
  deriving DecidableEq, Repr, Inhabited

namespace CommandOutput

/-- Whether the command exited with status zero. -/
def exitedCleanly (o : CommandOutput) : Bool :=
  o.exitCode == some 0

/-- Whether anything at all was written to standard error. -/
def hasStderr (o : CommandOutput) : Bool :=
  !o.stderr.isEmpty

end CommandOutput

/-- A command that could not be started. -/
structure SpawnError where
  command : String
  cause : String
  deriving DecidableEq, Repr

/-- The text of the error. -/
def SpawnError.message (e : SpawnError) : String :=
  "Failed to spawn `" ++ e.command ++ "`: " ++ e.cause

/-- Why a manifest has no command for a script. -/
inductive ManifestError where
  | unreadable (path : String) (cause : String)
  | unparsable (path : String) (cause : String)
  | missingScript (name : String) (path : String)
  deriving DecidableEq, Repr

/-- The text of the error. -/
def ManifestError.message : ManifestError → String
  | .unreadable path cause => "Failed to read manifest " ++ path ++ ": " ++ cause
  | .unparsable path cause => "Failed to parse manifest " ++ path ++ ": " ++ cause
  | .missingScript name path => "Script \"" ++ name ++ "\" does not exist in " ++ path

end Pipeline
