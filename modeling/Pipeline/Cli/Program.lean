import Pipeline.Cli.Usage
import Pipeline.Config.Location
import Pipeline.Config.ToJson
import Pipeline.Console.Reporter
import Pipeline.Graph.Compile
import Pipeline.Run.Local

/-!
# The program

What a command line does: what is printed, what is logged in between, the exit status and what is
left of the outside world (specification, sections 13 and 15). Both commands load a graph from a
file tree in the same way, and whatever goes wrong there is fatal before anything runs. The run
itself is that of some collaborators; `Arguments.perform` takes those that work on the file tree.
-/

namespace Pipeline.Cli

/-- What comes out: a printed text, or a log entry. -/
inductive Printout where
  | text (s : String)
  | log (entry : LogEntry)
  deriving DecidableEq, Repr

/-- What a program takes from outside besides the files. -/
structure Surroundings where
  workingDir : Place
  console : Console
  id : ExecutionId
  startedAt : Instant
  finishedAt : Instant

/-- What a command line brings about in an outside world of type `σ`. -/
structure Report (σ : Type) where
  status : Nat
  printouts : List Printout
  /-- What the run of a pipeline has told, if there was one. -/
  notices : List Notice
  world : σ

/-- The exit status of configuration errors and of command lines that are not understood (section
13, process exit codes). -/
def fatalStatus : Nat := 2

/-- A printed line. -/
def lineOf (s : String) : Printout :=
  .text (s ++ "\n")

/-- The line of an error that ends the program. -/
def fatalLine (c : Console) (message : String) : Printout :=
  lineOf (c.line .cross (c.style .red message))

/-- The directory in which a command line works. The one that the process is in may have been
removed. -/
def Arguments.baseDirectory (a : Arguments) (s : Surroundings) (f : Files) :
    Except FileError String :=
  match a.directory with
  | some directory => .ok directory
  | none =>
    if f.get? s.workingDir = some .directory then .ok s.workingDir.toPath
    else .error .noSuchFile

/-- The text of the error when there is no directory to work in. -/
def directoryMessage (e : FileError) : String :=
  "Failed to determine working directory: " ++ e.message

/-- A pipeline that is ready to run. -/
structure Loaded where
  path : String
  config : Config
  graph : Graph

/-- Why no pipeline is loaded. -/
inductive LoadError where
  | unloaded (e : ConfigError)
  | invalid (path : String) (e : ConfigError)
  deriving Repr

/-- The text of the error. -/
def LoadError.message : LoadError → String
  | .unloaded e => e.chain
  | .invalid path e => "Invalid configuration in " ++ path ++ ": " ++ e.chain

/-- The path of the configuration, below the directory `base`. -/
def configPath (a : Arguments) (s : Surroundings) (f : Files) (base : String) :
    Except ConfigError String :=
  match a.config with
  | some path => .ok (Path.join base path)
  | none => Config.discover f s.workingDir base

/-- The configuration of a command line and where it lies. -/
def loadConfig (a : Arguments) (s : Surroundings) (f : Files) (base : String) :
    Except ConfigError (String × Config) := do
  let path ← configPath a s f base
  let config ← Config.load f s.workingDir path
  .ok (path, config)

/-- The pipeline of a command line. -/
def load (a : Arguments) (s : Surroundings) (f : Files) (base : String) :
    Except LoadError Loaded := do
  let (path, config) ← (loadConfig a s f base).mapError .unloaded
  let graph ← config.toGraph.mapError (.invalid path)
  .ok ⟨path, config, graph⟩

/-- What loading prints and logs. -/
def loadPrintouts (a : Arguments) (s : Surroundings) (f : Files) (base : String) :
    List Printout :=
  let searched :=
    if a.config.isSome then [] else Config.discoverLog (Config.discover f s.workingDir base)
  searched.map .log ++
    match loadConfig a s f base with
    | .error _ => []
    | .ok (path, config) =>
      lineOf (s.console.line .info ("Loaded pipeline: " ++ s.console.style .bold path)) ::
        config.compileLog.map .log

/-- The notices of a run as they come out, given the label that is held back. -/
def noticePrintouts (r : Reporter) (held : Option String) : List Notice → List Printout
  | [] => []
  | .log entry :: notices => .log entry :: noticePrintouts r held notices
  | .event event :: notices =>
    let (held, text) := r.handle held event
    .text text :: noticePrintouts r held notices

/-- What comes out at the end of a run. -/
def outcomePrintouts (c : Console) (json : Bool) (o : Outcome) : List Printout :=
  [.text "\n", lineOf (c.outcomeLine o)] ++ if json then [lineOf o.toJson.pretty] else []

section

variable {σ : Type}

/-- What a command line brings about that ends before anything runs. -/
def Report.fatal (printouts : List Printout) (w : σ) : Report σ where
  status := fatalStatus
  printouts := printouts
  notices := []
  world := w

/-- Runs the pipeline with the collaborators that there are for a manifest and a directory. -/
def runPipeline (collaborators : String → String → Collaborators σ) (a : Arguments) (json : Bool)
    (maxOutputLines : Option Nat) (s : Surroundings) (f : Files) (w : σ) : Report σ :=
  match a.baseDirectory s f with
  | .error e => .fatal [fatalLine s.console (directoryMessage e)] w
  | .ok base =>
    let start := loadPrintouts a s f base
    match load a s f base with
    | .error e => .fatal (start ++ [fatalLine s.console e.message]) w
    | .ok loaded =>
      let c := collaborators (loaded.config.manifestPath base) base
      match loaded.graph.run c loaded.config.stderr s.id w with
      | none => .fatal start w
      | some p =>
        let o := Outcome.ofPassage p s.id s.startedAt s.finishedAt
        { status := o.exitCode
          printouts := start ++ [.text "\n"] ++
            noticePrintouts ⟨s.console, maxOutputLines⟩ none p.notices ++
            outcomePrintouts s.console json o
          notices := p.notices
          world := p.world }

end

/-- What is printed of a pipeline that is valid. -/
def validPrintouts (c : Console) (json : Bool) (l : Loaded) : List Printout :=
  [lineOf (c.line .check "Pipeline configuration is valid!"),
    lineOf ("  Root: " ++ c.style .bold l.config.root),
    lineOf ("  Steps: " ++ c.style .cyan (toString l.config.steps.length) ++ " configured, " ++
      c.style .cyan (toString l.graph.size) ++ " reachable")] ++
    (Console.planLines l.graph).map (fun line => lineOf ("    " ++ line)) ++
    if json then [lineOf ("\n" ++ l.config.toJson.pretty)] else []

section

variable {σ : Type}

/-- Validates the pipeline. -/
def validatePipeline (a : Arguments) (json : Bool) (s : Surroundings) (f : Files) (w : σ) :
    Report σ :=
  let start := lineOf (s.console.line .info "Validating pipeline...")
  match a.baseDirectory s f with
  | .error e => .fatal [start, fatalLine s.console (directoryMessage e)] w
  | .ok base =>
    let start := start :: loadPrintouts a s f base
    match load a s f base with
    | .error e =>
      .fatal (start ++
        [lineOf (s.console.line .cross "Validation failed:"),
          lineOf ("  " ++ s.console.style .red e.message)]) w
    | .ok loaded =>
      { status := 0
        printouts := start ++ validPrintouts s.console json loaded
        notices := []
        world := w }

/-- Carries a command line out, with the collaborators that there are for a manifest and a
directory. -/
def Arguments.performWith (collaborators : String → String → Collaborators σ) (a : Arguments)
    (s : Surroundings) (f : Files) (w : σ) : Report σ :=
  match a.command with
  | .run json maxOutputLines => runPipeline collaborators a json maxOutputLines s f w
  | .validate json => validatePipeline a json s f w

end

/-- Carries a command line out on a file tree. -/
def Arguments.perform (a : Arguments) (s : Surroundings) (f : Files) : Report Files :=
  a.performWith (Collaborators.onFiles s.workingDir) s f f

/-- Whether a log entry comes out: those of debugging only if they are asked for. -/
def Arguments.shows (a : Arguments) (entry : LogEntry) : Bool :=
  a.verbose || entry.level != .debug

/-- Whether the console of a language setting can show pictures. -/
def showsPictures (language : String) : Bool :=
  "utf-8".toList.isSuffixOf (language.toList.map Char.toLower)

end Pipeline.Cli
