import Pipeline.Config.OfYaml
import Pipeline.Files
import Pipeline.Log

/-!
# Where configurations lie

Without a path of its own a configuration is looked for in a few directories below a base, and the
first file of the right name is it (specification, sections 6 and 11). What is no file does not
count.
-/

namespace Pipeline.Config

/-- The name of a configuration file. -/
def fileName : String := "nodecd.yaml"

/-- The directories in which a configuration is looked for, in this order. -/
def searchedDirectories : List String := [".", "github", ".vscode", "config"]

/-- The paths at which a configuration is looked for. -/
def candidates (base : String) : List String :=
  searchedDirectories.map fun dir => Path.join (Path.join base dir) fileName

/-- The path of the configuration below `base`. -/
def discover (f : Files) (workingDir : Place) (base : String) : Except ConfigError String :=
  match (candidates base).find? (f.isFile workingDir) with
  | some path => .ok path
  | none => .error (.notFound (candidates base))

/-- What the search reports. -/
def discoverLog : Except ConfigError String → List LogEntry
  | .ok path => [.debug ("Found configuration at " ++ path)]
  | .error _ => []

/-- The configuration in a file. -/
def load (f : Files) (workingDir : Place) (path : String) : Except ConfigError Config := do
  let text ← (f.readText workingDir path).mapError fun e => .unreadable path e.message
  ofYaml text

end Pipeline.Config
