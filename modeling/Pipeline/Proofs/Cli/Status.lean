import Pipeline.Cli.Program
import Pipeline.Proofs.Config.Authored
import Pipeline.Proofs.Run.Calls

/-!
# Exit statuses

What the exit status of a command line tells. Both commands need a pipeline, and they are refused
with the same status on the same command lines and file trees (`Unusable`), before anything of the
pipeline runs. Otherwise validating ends well, and the status of a run tells the result of the
terminal that it has reached (`Arguments.validate_agrees_run`; specification, section 13, process
exit codes).
-/

namespace Pipeline

/-- A run of a compiled graph that records its calls is the same run, with some calls. -/
lemma Graph.exists_run_recorded {root : String} {r : Registry} {g : Graph}
    (h : Graph.compile root r = .ok g) {σ : Type} (c : Collaborators σ) (policy : StderrPolicy)
    (id : ExecutionId) (w : σ) :
    ∃ p calls, g.run c policy id w = some p ∧
      g.run c.recorded policy id (w, []) =
        some ⟨p.notices, p.executed, p.terminal, (p.world, calls)⟩ := by
  obtain ⟨ns, t, course, run⟩ := run_of_compile h c policy id w
  refine ⟨_, callsOf c policy w ns, run, ?_⟩
  rw [run_of_course (Graph.depicts_of_compile h) (course.recorded []) id, g.passage_recorded]
  rfl

namespace Cli

/-- The line of arguments that runs the pipeline. -/
def Arguments.toRun (a : Arguments) (json : Bool) (maxOutputLines : Option Nat) : Arguments :=
  { a with command := .run json maxOutputLines }

/-- The line of arguments that validates the pipeline. -/
def Arguments.toValidate (a : Arguments) (json : Bool) : Arguments :=
  { a with command := .validate json }

/-- There is no pipeline for a command line: there is no directory to work in, or no configuration
is found, or it cannot be read, or it is none, or no graph comes of it. -/
inductive Unusable (a : Arguments) (s : Surroundings) (f : Files) : Prop where
  | directory {e} :
    a.baseDirectory s f = .error e →
    Unusable a s f
  | discovery {base} :
    a.baseDirectory s f = .ok base →
    a.config = none →
    (∀ path ∈ Config.candidates base, f.isFile s.workingDir path = false) →
    Unusable a s f
  | reading {base path e} :
    a.baseDirectory s f = .ok base →
    configPath a s f base = .ok path →
    f.readText s.workingDir path = .error e →
    Unusable a s f
  | parsing {base path text e} :
    a.baseDirectory s f = .ok base →
    configPath a s f base = .ok path →
    f.readText s.workingDir path = .ok text →
    Config.ofYaml text = .error e →
    Unusable a s f
  | compiling {base path text config e} :
    a.baseDirectory s f = .ok base →
    configPath a s f base = .ok path →
    f.readText s.workingDir path = .ok text →
    Config.ofYaml text = .ok config →
    config.toGraph = .error e →
    Unusable a s f

/-- A command line has a pipeline, which is loaded in this directory. -/
structure Usable (a : Arguments) (s : Surroundings) (f : Files) (base : String) (l : Loaded) :
    Prop where
  directory : a.baseDirectory s f = .ok base
  path : configPath a s f base = .ok l.path
  parsed : ∃ text, f.readText s.workingDir l.path = .ok text ∧ Config.ofYaml text = .ok l.config
  compiled : l.config.toGraph = .ok l.graph

section

variable {a : Arguments} {s : Surroundings} {f : Files} {base : String} {l : Loaded}

/-- A pipeline that a command line has is loaded. -/
lemma Usable.load (h : Usable a s f base l) : load a s f base = .ok l := by
  obtain ⟨text, read, parsed⟩ := h.parsed
  simp [Cli.load, loadConfig, Config.load, h.path, read, parsed, h.compiled, Except.mapError, bind,
    Except.bind]

/-- A command line without a pipeline has no directory to work in, or loads nothing there. -/
lemma Unusable.load (h : Unusable a s f) :
    (∃ e, a.baseDirectory s f = .error e) ∨
      ∃ base e, a.baseDirectory s f = .ok base ∧ load a s f base = .error e := by
  cases h with
  | @directory e nowhere => exact .inl ⟨e, nowhere⟩
  | @discovery base here unnamed absent =>
    have unfound : (Config.candidates base).find? (f.isFile s.workingDir) = none := by
      simpa only [List.find?_eq_none, Bool.not_eq_true] using absent
    have located : configPath a s f base = .error (.notFound (Config.candidates base)) := by
      unfold configPath Config.discover
      rw [unnamed, unfound]
    refine .inr ⟨base, .unloaded (.notFound (Config.candidates base)), here, ?_⟩
    simp [Cli.load, loadConfig, located, Except.mapError, bind, Except.bind]
  | @reading base path e here located unread =>
    refine .inr ⟨base, .unloaded (.unreadable path e.message), here, ?_⟩
    simp [Cli.load, loadConfig, Config.load, located, unread, Except.mapError, bind, Except.bind]
  | @parsing base path text e here located read unparsed =>
    refine .inr ⟨base, .unloaded e, here, ?_⟩
    simp [Cli.load, loadConfig, Config.load, located, read, unparsed, Except.mapError, bind,
      Except.bind]
  | @compiling base path text config e here located read parsed refused =>
    refine .inr ⟨base, .invalid path e, here, ?_⟩
    simp [Cli.load, loadConfig, Config.load, located, read, parsed, refused, Except.mapError, bind,
      Except.bind]

/-- A command line has a pipeline or none. -/
lemma usable_or_unusable (a : Arguments) (s : Surroundings) (f : Files) :
    (∃ base l, Usable a s f base l) ∨ Unusable a s f := by
  cases here : a.baseDirectory s f with
  | error e => exact .inr (.directory here)
  | ok base =>
    cases located : configPath a s f base with
    | error e =>
      unfold configPath Config.discover at located
      cases named : a.config with
      | some path => simp [named] at located
      | none =>
        refine .inr (.discovery here named ?_)
        cases found : (Config.candidates base).find? (f.isFile s.workingDir) with
        | some path => simp [named, found] at located
        | none => simpa only [List.find?_eq_none, Bool.not_eq_true] using found
    | ok path =>
      cases read : f.readText s.workingDir path with
      | error e => exact .inr (.reading here located read)
      | ok text =>
        cases parsed : Config.ofYaml text with
        | error e => exact .inr (.parsing here located read parsed)
        | ok config =>
          cases graph : config.toGraph with
          | error e => exact .inr (.compiling here located read parsed graph)
          | ok g => exact .inl ⟨base, ⟨path, config, g⟩, here, located, ⟨text, read, parsed⟩, graph⟩

/-- No command line both has a pipeline and has none. -/
lemma Usable.not_unusable (h : Usable a s f base l) : ¬ Unusable a s f := by
  intro none
  rcases none.load with ⟨e, nowhere⟩ | ⟨base', e, here, unloaded⟩
  · cases nowhere.symm.trans h.directory
  · obtain rfl := Except.ok.inj (here.symm.trans h.directory)
    cases unloaded.symm.trans h.load

variable {σ : Type}

/-- Validating a pipeline that there is ends well. -/
lemma Usable.validatePipeline (h : Usable a s f base l) (json : Bool) (w : σ) :
    ∃ printouts, validatePipeline a json s f w = ⟨0, printouts, [], w⟩ := by
  simp [Cli.validatePipeline, h.directory, h.load]

/-- Validating ends at once where there is no pipeline. -/
lemma Unusable.validatePipeline (h : Unusable a s f) (json : Bool) (w : σ) :
    ∃ printouts, validatePipeline a json s f w = .fatal printouts w := by
  rcases h.load with ⟨e, nowhere⟩ | ⟨base, e, here, unloaded⟩
  · simp only [Cli.validatePipeline, nowhere]
    exact ⟨_, rfl⟩
  · simp only [Cli.validatePipeline, here, unloaded]
    exact ⟨_, rfl⟩

/-- A command line runs the pipeline that there is, and its status tells how that ends. -/
lemma Usable.runPipeline (h : Usable a s f base l)
    (collaborators : String → String → Collaborators σ) (json : Bool)
    (maxOutputLines : Option Nat) {w : σ} {p : Passage σ}
    (run : l.graph.run (collaborators (l.config.manifestPath base) base) l.config.stderr s.id w =
      some p) :
    ∃ printouts, runPipeline collaborators a json maxOutputLines s f w =
      ⟨if p.terminal.result then 0 else 1, printouts, p.notices, p.world⟩ := by
  simp only [Cli.runPipeline, h.directory, h.load, run]
  exact ⟨_, rfl⟩

/-- A run ends before it begins where there is no pipeline, whoever the collaborators are. -/
lemma Unusable.runPipeline (h : Unusable a s f) (json : Bool) (maxOutputLines : Option Nat) :
    ∃ printouts, ∀ {σ : Type} (collaborators : String → String → Collaborators σ) (w : σ),
      runPipeline collaborators a json maxOutputLines s f w = .fatal printouts w := by
  rcases h.load with ⟨e, nowhere⟩ | ⟨base, e, here, unloaded⟩
  · simp only [Cli.runPipeline, nowhere]
    exact ⟨_, fun _ _ => rfl⟩
  · simp only [Cli.runPipeline, here, unloaded]
    exact ⟨_, fun _ _ => rfl⟩

end

section

variable {σ : Type} (collaborators : String → String → Collaborators σ)

/-- Collaborators that add each of their calls to a list. -/
def recording (manifest base : String) : Collaborators (σ × List (Call σ)) :=
  (collaborators manifest base).recorded

/-- A report in a world that keeps a list of calls. -/
def Report.withCalls (r : Report σ) (calls : List (Call σ)) : Report (σ × List (Call σ)) :=
  ⟨r.status, r.printouts, r.notices, (r.world, calls)⟩

variable {a : Arguments} {s : Surroundings} {f : Files} {base : String} {l : Loaded}

/-- A pipeline that there is runs to a terminal, and what is reported does not depend on a list of
calls. -/
lemma Usable.exists_run (h : Usable a s f base l) (json : Bool) (maxOutputLines : Option Nat)
    (w : σ) :
    ∃ p calls,
      l.graph.run (collaborators (l.config.manifestPath base) base) l.config.stderr s.id w = some p ∧
      l.graph.run (recording collaborators (l.config.manifestPath base) base) l.config.stderr s.id
        (w, []) = some ⟨p.notices, p.executed, p.terminal, (p.world, calls)⟩ ∧
      Cli.runPipeline (recording collaborators) a json maxOutputLines s f (w, []) =
        (Cli.runPipeline collaborators a json maxOutputLines s f w).withCalls calls := by
  obtain ⟨r, -, compiled⟩ := Config.registry_of_toGraph h.compiled
  obtain ⟨p, calls, run, recorded⟩ := Graph.exists_run_recorded compiled
    (collaborators (l.config.manifestPath base) base) l.config.stderr s.id w
  refine ⟨p, calls, run, recorded, ?_⟩
  have loads := h.load
  simp only [Cli.runPipeline, h.directory, loads, run, recording, recorded]
  rfl

end

/-- Validating and running agree on what is a pipeline, and nothing runs where there is none.
Whatever the collaborators do, the two commands are refused with status 2 on the same command lines
and file trees, and then a run has made no call, told nothing and left the world as it was.
Otherwise validating ends with status 0, and a run of the pipeline with status 0 or 1, as the result
of the terminal says. Validating never makes a call. -/
theorem Arguments.validate_agrees_run {σ : Type}
    (collaborators : String → String → Collaborators σ) (a : Arguments) (json json' : Bool)
    (maxOutputLines : Option Nat) (s : Surroundings) (f : Files) (w : σ) :
    let run := (a.toRun json maxOutputLines).performWith (recording collaborators) s f (w, [])
    let validate := (a.toValidate json').performWith (recording collaborators) s f (w, [])
    (∃ calls, run =
      ((a.toRun json maxOutputLines).performWith collaborators s f w).withCalls calls) ∧
    (validate.status = 0 ↔ run.status = 0 ∨ run.status = 1) ∧
    (validate.status = 2 ↔ Unusable a s f) ∧
    (run.status = 2 ↔ Unusable a s f) ∧
    (run.status = 2 → run.notices = [] ∧ run.world = (w, [])) ∧
    (run.status ≠ 2 → ∃ base l p, Usable a s f base l ∧
      l.graph.run (collaborators (l.config.manifestPath base) base) l.config.stderr s.id w =
        some p ∧
      run.notices = p.notices ∧ run.world.1 = p.world ∧
      (run.status = 0 ↔ p.terminal.result = true)) ∧
    validate.notices = [] ∧ validate.world = (w, []) := by
  intro run validate
  have isRun : run =
      Cli.runPipeline (recording collaborators) a json maxOutputLines s f (w, []) := rfl
  have isValidate : validate = Cli.validatePipeline a json' s f (w, []) := rfl
  have isPlain : (a.toRun json maxOutputLines).performWith collaborators s f w =
      Cli.runPipeline collaborators a json maxOutputLines s f w := rfl
  rw [isRun, isValidate, isPlain]
  -- both commands load the same way, so whether the load succeeds decides for both
  rcases usable_or_unusable a s f with ⟨base, l, usable⟩ | unusable
  · have refused := usable.not_unusable
    obtain ⟨p, calls, plain, recorded, same⟩ := usable.exists_run collaborators json maxOutputLines w
    obtain ⟨_, runs⟩ := usable.runPipeline (recording collaborators) json maxOutputLines recorded
    obtain ⟨_, validates⟩ := usable.validatePipeline json' (w, ([] : List (Call σ)))
    refine ⟨⟨calls, same⟩, ?_⟩
    rw [runs, validates]
    refine ⟨?_, ?_, ?_, ?_, fun _ => ⟨base, l, p, usable, plain, rfl, rfl, ?_⟩, rfl, rfl⟩
    · cases p.terminal.result <;> simp
    · simp [refused]
    · cases p.terminal.result <;> simp [refused]
    · cases p.terminal.result <;> simp
    · cases p.terminal.result <;> simp
  · obtain ⟨_, ends⟩ := unusable.runPipeline json maxOutputLines
    obtain ⟨_, validates⟩ := unusable.validatePipeline json' (w, ([] : List (Call σ)))
    rw [ends, ends, validates]
    refine ⟨⟨[], rfl⟩, ?_, ?_, ?_, fun _ => ⟨rfl, rfl⟩, fun runs => absurd rfl runs, rfl, rfl⟩
    · simp [Report.fatal, fatalStatus]
    · simp [Report.fatal, fatalStatus, unusable]
    · simp [Report.fatal, fatalStatus, unusable]

end Cli

end Pipeline
