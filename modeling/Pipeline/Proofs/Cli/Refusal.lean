import Pipeline.Proofs.Cli.Status
import Pipeline.Proofs.Graph.Dangling

/-!
# What is printed of a configuration error

A command line that has a directory to work in but no pipeline stops with a configuration error
(`Stops`), and both commands print the same text for it. The text of an error that something else
lies behind ends with that cause already, and the cause is printed once more after it; all other
errors are printed as they are (`Arguments.stops_printouts`).
-/

namespace Pipeline

namespace ConfigError

/-- The text of an error ends with the text of what lies behind it. -/
lemma message_of_cause? {e : ConfigError} {cause : String} (h : e.cause? = some cause) :
    ∃ opening, e.message = opening ++ ": " ++ cause := by
  cases e with
  | unreadable path why =>
    cases h
    exact ⟨"Failed to read configuration " ++ path, rfl⟩
  | unparsable why =>
    cases h
    exact ⟨"Failed to parse configuration", rfl⟩
  | _ => cases h

/-- An error that nothing lies behind is only its own text. -/
lemma chain_of_cause?_none {e : ConfigError} (h : e.cause? = none) : e.chain = e.message := by
  rw [chain, h]
  exact String.append_empty

end ConfigError

/-- Nothing lies behind an error of an entry. -/
lemma StepRecord.cause?_of_ofEntry {entry : StepEntry} {e : ConfigError}
    (h : ofEntry entry = .error e) : e.cause? = none := by
  rcases bind_eq_error h with refused | ⟨kind, -, same⟩
  · obtain ⟨-, -, reason, rfl⟩ := kindOf_error refused
    rfl
  · cases same

/-- Nothing lies behind an error of the compiler. -/
lemma Graph.cause?_of_compile {root : String} {r : Registry} {e : ConfigError}
    (h : Graph.compile root r = .error e) : e.cause? = none := by
  obtain rfl | rfl | ⟨path, rfl⟩ | ⟨s, frame, rest, target, -, -, -, rfl⟩ := compile_error_cases h
  · rfl
  · rfl
  · rfl
  · unfold StepRecord.dangling
    split <;> rfl

namespace Config

/-- Nothing lies behind the error of a configuration that has no graph. -/
lemma cause?_of_toGraph {c : Config} {e : ConfigError} (h : c.toGraph = .error e) :
    e.cause? = none := by
  rcases bind_eq_error h with refused | ⟨r, -, failed⟩
  · obtain ⟨entry, -, failed⟩ := exists_of_mapM_error (map_eq_error refused)
    exact StepRecord.cause?_of_ofEntry failed
  · exact Graph.cause?_of_compile failed

end Config

namespace Cli

/-- A command line stops in its directory with a configuration error, at a path if there was a
configuration: none is found, or it cannot be read, or it is none, or no graph comes of it. -/
inductive Stops (a : Arguments) (s : Surroundings) (f : Files) (base : String) :
    Option String → ConfigError → Prop where
  | discovery :
    a.config = none →
    (∀ path ∈ Config.candidates base, f.isFile s.workingDir path = false) →
    Stops a s f base none (.notFound (Config.candidates base))
  | reading {path e} :
    configPath a s f base = .ok path →
    f.readText s.workingDir path = .error e →
    Stops a s f base none (.unreadable path e.message)
  | parsing {path text e} :
    configPath a s f base = .ok path →
    f.readText s.workingDir path = .ok text →
    Config.ofYaml text = .error e →
    Stops a s f base none e
  | compiling {path text config e} :
    configPath a s f base = .ok path →
    f.readText s.workingDir path = .ok text →
    Config.ofYaml text = .ok config →
    config.toGraph = .error e →
    Stops a s f base (some path) e

/-- What is printed before the text of an error: where the configuration lies if there was one. -/
def introduction : Option String → String
  | none => ""
  | some path => "Invalid configuration in " ++ path ++ ": "

section

variable {a : Arguments} {s : Surroundings} {f : Files} {base : String} {place? : Option String}
  {e : ConfigError}

/-- A command line that stops has loaded no configuration, or the one at a path that no graph comes
of. -/
lemma Stops.loadConfig (h : Stops a s f base place? e) :
    (place? = none ∧ loadConfig a s f base = .error e) ∨
      ∃ path config, place? = some path ∧ loadConfig a s f base = .ok (path, config) ∧
        config.toGraph = .error e := by
  cases h with
  | discovery unnamed absent =>
    have unfound : (Config.candidates base).find? (f.isFile s.workingDir) = none := by
      simpa only [List.find?_eq_none, Bool.not_eq_true] using absent
    have located : configPath a s f base = .error (.notFound (Config.candidates base)) := by
      unfold configPath Config.discover
      rw [unnamed, unfound]
    refine .inl ⟨rfl, ?_⟩
    simp [Cli.loadConfig, located, bind, Except.bind]
  | reading located unread =>
    refine .inl ⟨rfl, ?_⟩
    simp [Cli.loadConfig, Config.load, located, unread, Except.mapError, bind, Except.bind]
  | parsing located read unparsed =>
    refine .inl ⟨rfl, ?_⟩
    simp [Cli.loadConfig, Config.load, located, read, unparsed, Except.mapError, bind, Except.bind]
  | @compiling path text config e located read parsed refused =>
    refine .inr ⟨path, config, rfl, ?_, refused⟩
    simp [Cli.loadConfig, Config.load, located, read, parsed, Except.mapError, bind, Except.bind]

/-- A command line that stops loads nothing, and the refusal has the text of the error. -/
lemma Stops.load (h : Stops a s f base place? e) :
    ∃ refusal, load a s f base = .error refusal ∧
      refusal.message = introduction place? ++ e.chain := by
  obtain ⟨rfl, unloaded⟩ | ⟨path, config, rfl, loaded, refused⟩ := h.loadConfig
  · refine ⟨.unloaded e, ?_, String.empty_append.symm⟩
    simp [Cli.load, unloaded, Except.mapError, bind, Except.bind]
  · refine ⟨.invalid path e, ?_, rfl⟩
    simp [Cli.load, loaded, refused, Except.mapError, bind, Except.bind]

/-- The path before the text of an error is that of the configuration, if one was loaded. -/
lemma Stops.place?_eq_some_iff (h : Stops a s f base place? e) (path : String) :
    place? = some path ↔ ∃ config, Cli.loadConfig a s f base = .ok (path, config) := by
  obtain ⟨rfl, unloaded⟩ | ⟨path', config, rfl, loaded, -⟩ := h.loadConfig
  · simp [unloaded]
  · simp [loaded, eq_comm]

/-- Nothing lies behind the error of a configuration that was loaded. -/
lemma Stops.place?_eq_none (h : Stops a s f base place? e) {cause : String}
    (behind : e.cause? = some cause) : place? = none := by
  obtain ⟨none, -⟩ | ⟨path, config, -, -, refused⟩ := h.loadConfig
  · exact none
  · rw [Config.cause?_of_toGraph refused] at behind
    cases behind

/-- In its directory, a command line stops if there is no pipeline for it. -/
lemma exists_stops_iff (here : a.baseDirectory s f = .ok base) :
    (∃ place? e, Stops a s f base place? e) ↔ Unusable a s f := by
  constructor
  · rintro ⟨place?, e, stops⟩
    cases stops with
    | discovery unnamed absent => exact .discovery here unnamed absent
    | reading located unread => exact .reading here located unread
    | parsing located read unparsed => exact .parsing here located read unparsed
    | compiling located read parsed refused => exact .compiling here located read parsed refused
  · intro unusable
    cases unusable with
    | directory nowhere => cases nowhere.symm.trans here
    | discovery there unnamed absent =>
      cases there.symm.trans here
      exact ⟨_, _, .discovery unnamed absent⟩
    | reading there located unread =>
      cases there.symm.trans here
      exact ⟨_, _, .reading located unread⟩
    | parsing there located read unparsed =>
      cases there.symm.trans here
      exact ⟨_, _, .parsing located read unparsed⟩
    | compiling there located read parsed refused =>
      cases there.symm.trans here
      exact ⟨_, _, .compiling located read parsed refused⟩

variable {σ : Type} (collaborators : String → String → Collaborators σ)

/-- A run that stops prints what was loaded and the refusal. -/
lemma Stops.runPipeline (here : a.baseDirectory s f = .ok base) (h : Stops a s f base place? e)
    (json : Bool) (maxOutputLines : Option Nat) (w : σ) :
    runPipeline collaborators a json maxOutputLines s f w =
      .fatal (loadPrintouts a s f base ++
        [fatalLine s.console (introduction place? ++ e.chain)]) w := by
  obtain ⟨refusal, unloaded, message⟩ := h.load
  simp only [Cli.runPipeline, here, unloaded, message]

/-- A validation that stops prints what was loaded and the refusal. -/
lemma Stops.validatePipeline (here : a.baseDirectory s f = .ok base)
    (h : Stops a s f base place? e) (json : Bool) (w : σ) :
    validatePipeline a json s f w =
      .fatal (lineOf (s.console.line .info "Validating pipeline...") ::
        (loadPrintouts a s f base ++
          [lineOf (s.console.line .cross "Validation failed:"),
            lineOf ("  " ++ s.console.style .red (introduction place? ++ e.chain))])) w := by
  obtain ⟨refusal, unloaded, message⟩ := h.load
  simp only [Cli.validatePipeline, here, unloaded, message]
  rfl

/-- A command line with a directory to work in ends with status 2 if it stops in it, whichever of
the two commands it has. -/
lemma status_eq_two_iff (here : a.baseDirectory s f = .ok base) (json json' : Bool)
    (maxOutputLines : Option Nat) (w : σ) :
    ((Cli.runPipeline collaborators a json maxOutputLines s f w).status = 2 ↔
      ∃ place? e, Stops a s f base place? e) ∧
    ((Cli.validatePipeline a json' s f w).status = 2 ↔ ∃ place? e, Stops a s f base place? e) := by
  rw [exists_stops_iff here]
  rcases usable_or_unusable a s f with ⟨base', l, usable⟩ | unusable
  · have refused := usable.not_unusable
    obtain ⟨p, -, plain, -⟩ := usable.exists_run collaborators json maxOutputLines w
    obtain ⟨_, runs⟩ := usable.runPipeline collaborators json maxOutputLines plain
    obtain ⟨_, validates⟩ := usable.validatePipeline json' w
    rw [runs, validates]
    refine ⟨iff_of_false ?_ refused, iff_of_false (by simp) refused⟩
    cases p.terminal.result <;> simp
  · obtain ⟨_, ends⟩ := unusable.runPipeline json maxOutputLines
    obtain ⟨_, validates⟩ := unusable.validatePipeline json' w
    rw [ends, validates]
    exact ⟨iff_of_true rfl unusable, iff_of_true rfl unusable⟩

end

/-- What both commands print of a configuration error. A command line with a directory to work in
ends with status 2 if it stops with such an error, and then both commands print one text for it,
once and last. The text starts with where the configuration lies if it was loaded and no graph comes
of it. If nothing lies behind the error, its own text follows and nothing else; so it is for all
errors of a configuration that was loaded. If something does, which is so for files that cannot be
read or parsed, the text of the error ends with this cause, and the cause is printed a second time
after it. -/
theorem Arguments.stops_printouts {σ : Type} (collaborators : String → String → Collaborators σ)
    {a : Arguments} {s : Surroundings} {f : Files} {base : String}
    (here : a.baseDirectory s f = .ok base) (json json' : Bool) (maxOutputLines : Option Nat)
    (w : σ) :
    let run := (a.toRun json maxOutputLines).performWith collaborators s f w
    let validate := (a.toValidate json').performWith collaborators s f w
    (run.status = 2 ↔ ∃ place? e, Stops a s f base place? e) ∧
    (validate.status = 2 ↔ ∃ place? e, Stops a s f base place? e) ∧
    ∀ place? e, Stops a s f base place? e → ∃ text,
      run.printouts = loadPrintouts a s f base ++ [fatalLine s.console text] ∧
      validate.printouts = lineOf (s.console.line .info "Validating pipeline...") ::
        (loadPrintouts a s f base ++
          [lineOf (s.console.line .cross "Validation failed:"),
            lineOf ("  " ++ s.console.style .red text)]) ∧
      (∀ path, place? = some path ↔ ∃ config, loadConfig a s f base = .ok (path, config)) ∧
      (e.cause? = none → text = introduction place? ++ e.message) ∧
      ∀ cause, e.cause? = some cause → place? = none ∧
        ∃ opening, e.message = opening ++ ": " ++ cause ∧
          text = opening ++ ": " ++ cause ++ ": " ++ cause := by
  intro run validate
  have isRun : run = Cli.runPipeline collaborators a json maxOutputLines s f w := rfl
  have isValidate : validate = Cli.validatePipeline a json' s f w := rfl
  obtain ⟨runs, validates⟩ := status_eq_two_iff collaborators here json json' maxOutputLines w
  rw [isRun, isValidate]
  refine ⟨runs, validates, fun place? e stops => ⟨introduction place? ++ e.chain, ?_⟩⟩
  rw [stops.runPipeline collaborators here, stops.validatePipeline here]
  refine ⟨rfl, rfl, stops.place?_eq_some_iff, fun alone => ?_, fun cause behind => ?_⟩
  · rw [ConfigError.chain_of_cause?_none alone]
  · have none := stops.place?_eq_none behind
    obtain ⟨opening, message⟩ := ConfigError.message_of_cause? behind
    refine ⟨none, opening, message, ?_⟩
    rw [none, ConfigError.chain, message, behind]
    show "" ++ (opening ++ ": " ++ cause ++ (": " ++ cause)) = _
    rw [String.empty_append, ← String.append_assoc]

/-- Without its root in a file, a pipeline is refused with the place of the file and the text of the
error. -/
theorem Arguments.stops_printouts_rootless :
    let a : Arguments := { command := .run false none, directory := some "/" }
    let s : Surroundings := ⟨[], {}, .nil, ⟨0⟩, ⟨0⟩⟩
    let f : Files := ⟨[(["nodecd.yaml"], .file [114, 111, 111, 116, 58, 32, 97])], [], []⟩
    a.baseDirectory s f = .ok "/" ∧
      Stops a s f "/" (some "/./nodecd.yaml") (.rootNotFound "a") ∧
      ((a.toRun false none).perform s f).printouts = loadPrintouts a s f "/" ++
        [fatalLine {} ("Invalid configuration in /./nodecd.yaml: " ++
          "Root step \"a\" was not found in your configuration")] := by
  intro a s f
  have here : a.baseDirectory s f = .ok "/" := rfl
  have located : configPath a s f "/" = .ok "/./nodecd.yaml" := by decide +kernel
  have read : f.readText s.workingDir "/./nodecd.yaml" = .ok "root: a" := by decide +kernel
  have parsed : Config.ofYaml "root: a" = .ok { root := "a" } := by decide +kernel
  have refused : ({ root := "a" } : Config).toGraph = .error (.rootNotFound "a") := by
    decide +kernel
  have stops := Stops.compiling located read parsed refused
  obtain ⟨-, -, prints⟩ :=
    Arguments.stops_printouts (Collaborators.onFiles s.workingDir) here false false none f
  obtain ⟨text, run, -, -, alone, -⟩ := prints _ _ stops
  refine ⟨here, stops, run.trans ?_⟩
  rw [alone rfl]
  decide +kernel

/-- Of a file that is missing, both commands print the cause twice, and so more than the text of the
error. -/
theorem Arguments.stops_printouts_missing :
    let a : Arguments :=
      { command := .run false none, config := some "missing.yaml", directory := some "/" }
    let s : Surroundings := ⟨[], {}, .nil, ⟨0⟩, ⟨0⟩⟩
    let cause := "No such file or directory (os error 2)"
    let e : ConfigError := .unreadable "/missing.yaml" cause
    Stops a s .bare "/" none e ∧
      e.message = "Failed to read configuration /missing.yaml: " ++ cause ∧
      ((a.toRun false none).perform s .bare).printouts =
        [fatalLine {} (e.message ++ ": " ++ cause)] ∧
      ((a.toRun false none).perform s .bare).printouts ≠ [fatalLine {} e.message] ∧
      ((a.toValidate false).perform s .bare).printouts =
        [lineOf "ℹ️   Validating pipeline...", lineOf "❌  Validation failed:",
          lineOf ("  " ++ (e.message ++ ": " ++ cause))] := by
  intro a s cause e
  have read : Files.bare.readText s.workingDir "/missing.yaml" = .error .noSuchFile := by
    decide +kernel
  exact ⟨.reading rfl read, by decide +kernel, by decide +kernel, by decide +kernel,
    by decide +kernel⟩

end Cli

end Pipeline
