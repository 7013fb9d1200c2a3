import Pipeline.Cli.Program
import Std.Time.DateTime.Timestamp

/-!
# Command line

Reads the files that a command line names, carries it out on them, prints what comes out and writes
back what has changed (specification, section 15). Commands are carried out by the library's own
shell, which sees these files and takes no time.
-/

namespace Pipeline

/-- The tree with a file that the operating system has, if it has one at this path. -/
def Files.take (f : Files) (workingDir : Place) (path : String) : IO Files := do
  match f.resolve workingDir path with
  | .error _ => return f
  | .ok place =>
    let put (entry : FileEntry) : Files :=
      match f.makeDirectoriesFrom [] place.dropLast with
      | .ok f => f.put place entry
      | .error _ => f
    try
      let content ← IO.FS.readBinFile place.toPath
      return put (.file content.toList)
    catch e =>
      match e with
      | .inappropriateType .. => return put .directory
      | _ => return f

/-- Writes the files that are new or differ from what they were. -/
def Files.giveBack (before after : Files) : IO Unit := do
  for (place, entry) in after.entries do
    if let .file content := entry then
      if before.get? place ≠ some entry then
        IO.FS.writeBinFile place.toPath (ByteArray.mk content.toArray)

/-- The paths that a command line may read a configuration from. -/
def Cli.Arguments.configPaths (a : Cli.Arguments) (base : String) : List String :=
  match a.config with
  | some path => [Path.join base path]
  | none => Config.candidates base

/-- The place of the directory that this process is in. If that was removed, it is one at which
there is nothing. -/
def Place.current : IO Place := do
  try
    let directory ← IO.currentDir
    return (Path.components directory.toString).filter (!·.isEmpty)
  catch _ => return ["(deleted)"]

/-- What surrounds this process. -/
def Cli.Surroundings.current : IO Cli.Surroundings := do
  let now ← Std.Time.Timestamp.now
  let instant : Instant := ⟨now.toNanosecondsSinceUnixEpoch.val / 1000⟩
  let colors := (← IO.getEnv "CLICOLOR_FORCE").any (· ≠ "0")
  let language := (← IO.getEnv "LANG").getD ""
  return {
    workingDir := ← Place.current
    console := ⟨colors, Cli.showsPictures language⟩
    id := .ofRandom (← IO.getRandomBytes 16).toList
    startedAt := instant
    finishedAt := instant }

/-- The files that a command line may need. -/
def Cli.Arguments.gather (a : Cli.Arguments) (s : Cli.Surroundings) : IO Files := do
  let mut files ← Files.bare.take [] s.workingDir.toPath
  match a.baseDirectory s files with
  | .error _ => return files
  | .ok base =>
    for path in a.configPaths base do
      files ← files.take s.workingDir path
    match Cli.load a s files base with
    | .ok loaded => files.take s.workingDir (loaded.config.manifestPath base)
    | .error _ => return files

/-- Carries the arguments of a command line out and gives the exit status. -/
def Cli.start (args : List String) : IO UInt32 := do
  match Cli.Arguments.parse args with
  | .error e =>
    if e.isAnswer then
      IO.print e.message
      return 0
    else
      IO.eprint e.message
      return 2
  | .ok a =>
    let surroundings ← Cli.Surroundings.current
    let files ← a.gather surroundings
    let report := a.perform surroundings files
    for printout in report.printouts do
      match printout with
      | .text s => IO.print s
      | .log entry => if a.shows entry then IO.println entry.render
    files.giveBack report.world
    return UInt32.ofNat report.status

end Pipeline

/-- The entry of the program. -/
def main (args : List String) : IO UInt32 :=
  Pipeline.Cli.start args
