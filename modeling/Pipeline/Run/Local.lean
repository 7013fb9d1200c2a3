import Pipeline.Manifest
import Pipeline.Shell.Run

/-!
# Running on a file tree

Collaborators whose outside world is a file tree (specification, section 14): the manifest is a file
that every look-up reads afresh, and commands are carried out by a shell in a directory, so what one
command writes the next look-up or command sees.
-/

namespace Pipeline

/-- Why a command cannot be started. -/
inductive StartError where
  | invalidCommand
  | directory (e : FileError)
  deriving DecidableEq, Repr

/-- The text of the error. -/
def StartError.message : StartError → String
  | .invalidCommand => "nul byte found in provided data"
  | .directory e => e.message

/-- The place of the directory in which a command is to run. -/
def startPlace (f : Files) (workingDir : Place) (dir command : String) : Except StartError Place :=
  if (command.toList ++ dir.toList).contains '\x00' then .error .invalidCommand
  else
    match f.locate workingDir dir with
    | .ok (place, .directory) => .ok place
    | .ok _ => .error (.directory .notDirectory)
    | .error e => .error (.directory e)

/-- An exit code in a log. -/
def describeExit : Option Int → String
  | some code => "Some(" ++ toString code ++ ")"
  | none => "None"

/-- What the end of a command reports. -/
def exitEntry (command : String) (o : CommandOutput) : LogEntry :=
  .debug ("`" ++ command ++ "` exited with " ++ describeExit o.exitCode ++ " (" ++
    toString o.stdout.utf8ByteSize ++ " bytes stdout, " ++ toString o.stderr.utf8ByteSize ++
    " bytes stderr)")

/-- Carries a command out by a shell in the directory `dir`. -/
def runInShell (workingDir : Place) (dir command : String) (f : Files) :
    Answer Files (Except SpawnError CommandOutput) :=
  let start : LogEntry := .debug ("Spawning `" ++ command ++ "` in " ++ dir)
  match startPlace f workingDir dir command with
  | .error e => ⟨.error ⟨command, e.message⟩, [start], f⟩
  | .ok place =>
    let (output, files) := Shell.execute f place command
    ⟨.ok output, [start, exitEntry command output], files⟩

/-- Looks a script up in the manifest at a path. -/
def lookupInFile (workingDir : Place) (path name : String) (f : Files) :
    Answer Files (Except ManifestError String) :=
  Manifest.answer path ((f.readText workingDir path).mapError FileError.message) name f

/-- The collaborators for a file tree: a manifest, and a shell in a directory. -/
def Collaborators.onFiles (workingDir : Place) (manifest dir : String) : Collaborators Files where
  lookup := lookupInFile workingDir manifest
  run := runInShell workingDir dir

end Pipeline
