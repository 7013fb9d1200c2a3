import Pipeline.Proofs.Run.Course
import Pipeline.Proofs.Run.Notices
import Pipeline.Run.Local

/-!
# The log of a run

Collaborators that log nothing above the debug level, as those for a file tree do, leave the other
levels to the run (specification, sections 7 and 16). Its information messages then divide its
notices into chapters: one for the start, one for each executed step and one for the end. In the
chapter of a step there is one warning if the step failed or is of an unknown type, which says what
the event says, and none if it succeeded (`run_logs`). The steps of a compiled graph are no ends, so
the warning with which an end would be refused, and which does not end with its reason, is never
given.
-/

namespace Pipeline

/-- The text of a notice that is a log entry of a level. -/
def Notice.textAt? (level : LogLevel) : Notice → Option String
  | .log entry => if entry.level = level then some entry.text else none
  | .event _ => none

/-- The texts of the log entries of a level among notices. -/
def textsAt (level : LogLevel) (notices : List Notice) : List String :=
  notices.filterMap (Notice.textAt? level)

/-- An information message, and the notices between it and the next one. -/
structure Chapter where
  heading : String
  notices : List Notice
  deriving DecidableEq, Repr

/-- The chapters of notices, one for each information message. -/
def chapters : List Notice → List Chapter
  | [] => []
  | notice :: rest =>
    match notice.textAt? .info with
    | some heading =>
      ⟨heading, rest.takeWhile fun other => (other.textAt? .info).isNone⟩ :: chapters rest
    | none => chapters rest

/-- Collaborators that log nothing above the debug level. -/
structure Collaborators.IsQuiet {σ : Type} (c : Collaborators σ) : Prop where
  lookup : ∀ script w, ∀ entry ∈ (c.lookup script w).log, entry.level = .debug
  run : ∀ command w, ∀ entry ∈ (c.run command w).log, entry.level = .debug

/-- The information message of a step. -/
def StepNode.heading (n : StepNode) : String :=
  "Executing Step #" ++ toString n.sequence ++ ": " ++ n.name ++ " (" ++ n.kind.tag ++ ")"

/-- The information message of the start of a run. -/
def startHeading (root : String) (id : ExecutionId) : String :=
  "Starting pipeline execution: " ++ root ++ " (" ++ id.render ++ ")"

/-- The information message of the end of a run. -/
def finishHeading (result : Bool) : String :=
  "Pipeline has finished running. Result: " ++ toString result

/-- What there is among the notices of a step after its heading: its events, and one warning if it
failed or is of an unknown type. The warning of a failure names the step and ends with the reason
that the event gives; the other one names the type and the step. -/
inductive StepNode.Accounts (n : StepNode) (notices : List Notice) : Prop where
  | succeeded {output next} :
    eventsOf notices =
      [.stepStarted n.sequence n.name n.kind.tag, .stepOutput n.name output,
        .stepSucceeded n.name next] →
    textsAt .warn notices = [] →
    Accounts n notices
  | failed {reason next warning} :
    eventsOf notices =
      [.stepStarted n.sequence n.name n.kind.tag, .stepFailed n.name reason next] →
    textsAt .warn notices = [warning] →
    n.name.toList <:+: warning.toList →
    reason.toList <:+ warning.toList →
    Accounts n notices
  | unknown {tag next warning} :
    n.kind = .unknown tag →
    eventsOf notices =
      [.stepStarted n.sequence n.name n.kind.tag, .unknownStepType n.name tag next] →
    textsAt .warn notices = [warning] →
    tag.toList <:+: warning.toList →
    n.name.toList <:+: warning.toList →
    Accounts n notices

/-- A chapter is that of a step. -/
structure Chapter.IsOf (n : StepNode) (chapter : Chapter) : Prop where
  heading : chapter.heading = n.heading
  accounts : n.Accounts chapter.notices

/-- A run from `root` is logged as one that executes the steps `ns`. -/
structure Passage.IsLogged {σ : Type} (root : String) (id : ExecutionId) (ns : List StepNode)
    (p : Passage σ) : Prop where
  /-- The steps are the executed ones, in their order. -/
  executed : ns.map StepNode.name = p.executed
  /-- The information messages are those of the start, of the steps and of the end. -/
  headings : textsAt .info p.notices =
    startHeading root id :: (ns.map StepNode.heading ++ [finishHeading p.terminal.result])
  /-- Each step has its chapter, and there are no warnings in the others. -/
  chapters : ∃ first told last, chapters p.notices = first :: (told ++ [last]) ∧
    textsAt .warn first.notices = [] ∧ List.Forall₂ Chapter.IsOf ns told ∧
    textsAt .warn last.notices = []
  /-- There are no errors. -/
  errors : textsAt .error p.notices = []

section

variable {level : LogLevel}

/-- The texts of a level keep their order when notices are put together. -/
@[simp] lemma textsAt_append (level : LogLevel) (before after : List Notice) :
    textsAt level (before ++ after) = textsAt level before ++ textsAt level after :=
  List.filterMap_append

/-- An event is not logged. -/
@[simp] lemma textsAt_event (level : LogLevel) (e : Event) (notices : List Notice) :
    textsAt level (.event e :: notices) = textsAt level notices :=
  rfl

/-- A log entry is among the texts of its level, before those of the notices after it. -/
@[simp] lemma textsAt_log (level : LogLevel) (entry : LogEntry) (notices : List Notice) :
    textsAt level (.log entry :: notices) =
      if entry.level = level then entry.text :: textsAt level notices
      else textsAt level notices := by
  by_cases same : entry.level = level <;> simp [textsAt, Notice.textAt?, same]

/-- No notices have no texts. -/
@[simp] lemma textsAt_nil (level : LogLevel) : textsAt level [] = [] := by simp [textsAt]

/-- Events are not logged. -/
@[simp] lemma textsAt_map_event (level : LogLevel) (events : List Event) :
    textsAt level (events.map .event) = [] := by
  induction events with
  | nil => rfl
  | cons e events ih => rw [List.map_cons, textsAt_event, ih]

/-- Entries of the debug level have no texts of other levels. -/
lemma textsAt_map_log {entries : List LogEntry} (quiet : ∀ entry ∈ entries, entry.level = .debug)
    (above : level ≠ .debug) : textsAt level (entries.map .log) = [] := by
  induction entries with
  | nil => rfl
  | cons entry entries ih =>
    rw [List.forall_mem_cons] at quiet
    rw [List.map_cons, textsAt_log, quiet.1, if_neg above.symm, ih quiet.2]

/-- Notices that begin with an information message. -/
def OpensChapter (notices : List Notice) : Prop :=
  ∃ heading rest, notices = .log (.info heading) :: rest

/-- Notices before the first information message are in no chapter. -/
lemma chapters_append {notices : List Notice} (plain : textsAt .info notices = [])
    (rest : List Notice) : chapters (notices ++ rest) = chapters rest := by
  induction notices with
  | nil => rfl
  | cons notice notices ih =>
    have both := List.filterMap_eq_nil_iff.1 plain
    rw [List.forall_mem_cons] at both
    rw [List.cons_append, chapters, both.1]
    exact ih (List.filterMap_eq_nil_iff.2 both.2)

/-- The chapter of an information message ends where the next one begins. -/
lemma chapters_heading (heading : String) {notices rest : List Notice}
    (plain : textsAt .info notices = []) (opens : OpensChapter rest) :
    chapters (.log (.info heading) :: (notices ++ rest)) =
      ⟨heading, notices⟩ :: chapters rest := by
  obtain ⟨next, more, rfl⟩ := opens
  have all : ∀ notice ∈ notices, (notice.textAt? .info).isNone = true := by
    intro notice mem
    rw [List.filterMap_eq_nil_iff.1 plain notice mem]
    rfl
  have taken : (notices ++ .log (.info next) :: more).takeWhile
      (fun other => (other.textAt? .info).isNone) = notices := by
    rw [List.takeWhile_append_of_pos all]
    exact List.append_nil notices
  show ⟨heading, _⟩ :: chapters (notices ++ _) = _
  rw [taken, chapters_append plain]

/-- The headings of chapters are the information messages. -/
lemma map_heading_chapters (notices : List Notice) :
    (chapters notices).map Chapter.heading = textsAt .info notices := by
  induction notices with
  | nil => rfl
  | cons notice notices ih =>
    cases text : notice.textAt? .info with
    | none => rw [chapters, text, textsAt, List.filterMap_cons_none text, ← textsAt, ih]
    | some heading =>
      rw [chapters, text, textsAt, List.filterMap_cons_some text, ← textsAt, ← ih]
      rfl

end

namespace Collaborators

/-- The collaborators for a file tree log nothing above the debug level. -/
lemma isQuiet_onFiles (workingDir : Place) (manifest dir : String) :
    (onFiles workingDir manifest dir).IsQuiet := by
  constructor
  case lookup =>
    intro script f entry mem
    change entry ∈ Manifest.lookupLog script (Manifest.lookup manifest _ script) at mem
    cases found : Manifest.lookup manifest
        ((f.readText workingDir manifest).mapError FileError.message) script with
    | error e =>
      rw [found] at mem
      cases mem
    | ok command =>
      rw [found] at mem
      obtain rfl := List.mem_singleton.1 mem
      rfl
  case run =>
    intro command f entry mem
    change entry ∈ (runInShell workingDir dir command f).log at mem
    unfold runInShell at mem
    split at mem
    · obtain rfl := List.mem_singleton.1 mem
      rfl
    · rcases List.mem_pair.1 mem with rfl | rfl <;> rfl

end Collaborators

/-- What is logged of a step: nothing above the debug level, but for a last warning if it failed,
which names the step and ends with the reason. -/
inductive StepOutcome.IsLogged (step : String) : StepOutcome → List LogEntry → Prop where
  | success {output entries} :
    (∀ entry ∈ entries, entry.level = .debug) →
    IsLogged step (.success output) entries
  | failure {reason entries} (doing : String) :
    (∀ entry ∈ entries, entry.level = .debug) →
    IsLogged step (.failure reason)
      (entries ++ [.warn (doing ++ step ++ ": " ++ reason)])

section

variable {σ : Type} {c : Collaborators σ}

/-- What is logged of a step may come after other entries of the debug level. -/
lemma StepOutcome.IsLogged.append {step : String} {outcome : StepOutcome}
    {entries before : List LogEntry} (h : outcome.IsLogged step entries)
    (quiet : ∀ entry ∈ before, entry.level = .debug) :
    outcome.IsLogged step (before ++ entries) := by
  cases h with
  | success also => exact .success (List.forall_mem_append.2 ⟨quiet, also⟩)
  | failure doing also =>
    rw [← List.append_assoc]
    exact .failure doing (List.forall_mem_append.2 ⟨quiet, also⟩)

/-- A failure for which a command is to blame is logged once. -/
lemma performCommand_isLogged (quiet : c.IsQuiet) (policy : StderrPolicy)
    (step command : String) (w : σ) :
    (performCommand c policy step command w).result.IsLogged step
      (performCommand c policy step command w).log := by
  unfold performCommand
  have before : ∀ entry ∈ LogEntry.debug ("Step " ++ step ++ " runs `" ++ command ++ "`") ::
      (c.run command w).log, entry.level = .debug :=
    List.forall_mem_cons.2 ⟨rfl, quiet.run command w⟩
  dsimp only
  rw [← List.cons_append]
  cases judgeCommand policy command (c.run command w).result with
  | success output =>
    simp only [commandWarning, List.append_nil]
    exact .success before
  | failure reason => exact .failure "Error while executing " before

/-- A failure for which a script or its command is to blame is logged once. -/
lemma performScript_isLogged (quiet : c.IsQuiet) (policy : StderrPolicy)
    (step script : String) (w : σ) :
    (performScript c policy step script w).result.IsLogged step
      (performScript c policy step script w).log := by
  have before := quiet.lookup script w
  cases found : (c.lookup script w).result with
  | error e =>
    simp only [performScript, found]
    exact .failure "Error while reading manifest in " before
  | ok command =>
    simp only [performScript, found]
    exact (performCommand_isLogged quiet policy step command _).append before

/-- A failure of a step is logged once, unless nothing here performs steps of its kind. -/
lemma StepNode.perform_isLogged (quiet : c.IsQuiet) (policy : StderrPolicy) {n : StepNode}
    (notFinish : n.kind.isFinish = false) (known : n.kind.isUnknown = false) (w : σ) :
    (n.perform c policy w).result.IsLogged n.name (n.perform c policy w).log := by
  unfold StepNode.perform
  cases kind : n.kind with
  | build script => exact performScript_isLogged quiet ..
  | typeScript config => exact performCommand_isLogged quiet ..
  | test source =>
    cases source with
    | command command => exact performCommand_isLogged quiet ..
    | script script => exact performScript_isLogged quiet ..
  | finish result => simp [kind, StepKind.isFinish] at notFinish
  | unknown tag => simp [kind, StepKind.isUnknown] at known

/-- The notices of a step of an unknown type after its heading give an account of it. -/
lemma Graph.accounts_of_unknown (g : Graph) {n : StepNode} {tag : String}
    (kind : n.kind = .unknown tag) :
    n.Accounts [.event (.stepStarted n.sequence n.name n.kind.tag),
      .log (.warn ("Unknown step type: " ++ tag ++ " (step " ++ n.name ++ ")")),
      .event (.unknownStepType n.name tag (g.targetName n.onFailure))] := by
  apply StepNode.Accounts.unknown kind
  · rfl
  · rfl
  · exact ⟨"Unknown step type: ".toList, (" (step " ++ n.name ++ ")").toList,
      by simp [LogEntry.warn]⟩
  · exact ⟨("Unknown step type: " ++ tag ++ " (step ").toList, ")".toList,
      by simp [LogEntry.warn]⟩

/-- The notices of a step that was performed give an account of it when it logged what it has to. -/
lemma Graph.accounts_of_isLogged (g : Graph) {n : StepNode} {outcome : StepOutcome}
    {entries : List LogEntry} (logged : outcome.IsLogged n.name entries) :
    n.Accounts (.event (.stepStarted n.sequence n.name n.kind.tag) ::
      (entries.map .log ++ (g.outcomeEvents n outcome).map .event)) := by
  cases logged with
  | success quiet =>
    apply StepNode.Accounts.succeeded
    · rw [eventsOf_event, eventsOf_append, eventsOf_map_log, eventsOf_map_event]
      rfl
    · simp [textsAt_map_log quiet]
  | @failure reason entries doing quiet =>
    apply StepNode.Accounts.failed
    · rw [eventsOf_event, eventsOf_append, eventsOf_map_log, eventsOf_map_event]
      rfl
    · simp [textsAt_map_log quiet, LogEntry.warn]
      rfl
    · exact ⟨doing.toList, (": " ++ reason).toList, by simp⟩
    · exact ⟨(doing ++ n.name ++ ": ").toList, by simp⟩

/-- What is logged of a step has no texts of a level that is neither debug nor a warning. -/
lemma StepOutcome.IsLogged.textsAt_eq_nil {step : String} {outcome : StepOutcome}
    {entries : List LogEntry} (logged : outcome.IsLogged step entries) {level : LogLevel}
    (notDebug : level ≠ .debug) (notWarn : level ≠ .warn) :
    textsAt level (entries.map .log) = [] := by
  cases logged with
  | success quiet => exact textsAt_map_log quiet notDebug
  | failure doing quiet => simp [textsAt_map_log quiet notDebug, LogEntry.warn, notWarn.symm]

/-- The notices of a step that is no end are its heading and an account of it, with no more
information messages and no errors. -/
lemma Graph.accounts_block (quiet : c.IsQuiet) (policy : StderrPolicy) (g : Graph) {n : StepNode}
    (notFinish : n.kind.isFinish = false) (w : σ) :
    ∃ notices, (g.block c policy n w).notices = .log (.info n.heading) :: notices ∧
      n.Accounts notices ∧ textsAt .info notices = [] ∧ textsAt .error notices = [] := by
  cases type : n.kind.isUnknown with
  | true =>
    obtain ⟨tag, kind⟩ := StepKind.eq_unknown_of_isUnknown type
    refine ⟨_, ?_, g.accounts_of_unknown kind, rfl, rfl⟩
    rw [g.notices_block_of_unknown kind]
    rfl
  | false =>
    have logged := n.perform_isLogged quiet policy notFinish type w
    refine ⟨_, ?_, g.accounts_of_isLogged logged, ?_, ?_⟩
    · rw [g.notices_block_of_known type]
      rfl
    · simp [logged.textsAt_eq_nil]
    · simp [logged.textsAt_eq_nil]

/-- The notices of steps that are no ends and of the end of the run have a chapter for each step and
one for the end. -/
lemma Graph.chapters_noticesOf (quiet : c.IsQuiet) (policy : StderrPolicy) (g : Graph)
    (id : ExecutionId) (t : Terminal) {ns : List StepNode}
    (steps : ∀ n ∈ ns, n.kind.isFinish = false) (w : σ) :
    OpensChapter (g.noticesOf c policy w ns ++ finishNotices id t) ∧
      textsAt .error (g.noticesOf c policy w ns ++ finishNotices id t) = [] ∧
      ∃ told, chapters (g.noticesOf c policy w ns ++ finishNotices id t) =
          told ++ [⟨finishHeading t.result, [.event (.pipelineFinished id t.name t.result)]⟩] ∧
        List.Forall₂ Chapter.IsOf ns told := by
  induction ns generalizing w with
  | nil => exact ⟨⟨_, _, rfl⟩, rfl, [], rfl, .nil⟩
  | cons n ns ih =>
    -- the notices after the step open a chapter, so that of the step ends with its own notices
    rw [List.forall_mem_cons] at steps
    obtain ⟨opens, noErrors, told, divided, each⟩ := ih steps.2 (n.leaves c policy w)
    obtain ⟨notices, block, accounts, plain, clean⟩ := g.accounts_block quiet policy steps.1 w
    rw [g.noticesOf_cons, block, List.append_assoc, List.cons_append]
    refine ⟨⟨_, _, rfl⟩, ?_, ⟨n.heading, notices⟩ :: told, ?_, .cons ⟨rfl, accounts⟩ each⟩
    · rw [textsAt_log, textsAt_append, clean, noErrors]
      rfl
    · rw [chapters_heading _ plain opens, divided]
      rfl

/-- A run through steps that are no ends is logged as one that executes them. -/
lemma Graph.isLogged_passage (quiet : c.IsQuiet) (policy : StderrPolicy) {g : Graph}
    {r : Registry} {root : String} (d : g.Depicts r root) (id : ExecutionId) (w : σ)
    {ns : List StepNode} (steps : ∀ n ∈ ns, n.kind.isFinish = false) (t : Terminal) :
    (g.passage c policy id w ns t).IsLogged root id ns := by
  obtain ⟨opens, noErrors, told, divided, each⟩ :=
    g.chapters_noticesOf quiet policy id t steps w
  have whole : chapters (g.passage c policy id w ns t).notices =
      ⟨startHeading root id, [.event (.pipelineStarted id root)]⟩ :: (told ++
        [⟨finishHeading t.result, [.event (.pipelineFinished id t.name t.result)]⟩]) := by
    rw [passage, openingNotices, d.targetName_root, ← divided]
    exact chapters_heading _ rfl opens
  constructor
  case executed => rfl
  case headings =>
    have titles : told.map Chapter.heading = ns.map StepNode.heading := by
      rw [← List.forall₂_eq_eq_eq, List.forall₂_map_left_iff, List.forall₂_map_right_iff]
      exact each.flip.imp fun chapter n isOf => isOf.heading
    rw [← map_heading_chapters, whole, List.map_cons, List.map_append, titles]
    rfl
  case chapters => exact ⟨_, told, _, whole, rfl, each, rfl⟩
  case errors =>
    rw [passage, openingNotices]
    exact noErrors

end

/-- A run of a compiled graph with collaborators that log nothing above the debug level, as those
for a file tree do, is logged consistently: its information messages are those of its start, of the
executed steps and of its end, each step that failed or is of an unknown type has one warning in its
chapter that says what its event says, there are no other warnings, and there are no errors. -/
theorem run_logs {root : String} {r : Registry} {g : Graph} (h : Graph.compile root r = .ok g) :
    (∀ workingDir manifest dir, (Collaborators.onFiles workingDir manifest dir).IsQuiet) ∧
    ∀ {σ : Type} (c : Collaborators σ), c.IsQuiet →
      ∀ (policy : StderrPolicy) (id : ExecutionId) (w : σ),
        ∃ p ns, g.run c policy id w = some p ∧ (∀ n ∈ ns, n ∈ g.nodes) ∧
          p.IsLogged root id ns := by
  refine ⟨Collaborators.isQuiet_onFiles, fun c quiet policy id w => ?_⟩
  have d := Graph.depicts_of_compile h
  obtain ⟨ns, t, course, run⟩ := run_of_compile h c policy id w
  refine ⟨_, ns, run, course.mem, g.isLogged_passage quiet policy d id w ?_ t⟩
  -- a node has the kind of a definition that is no end
  intro n mem
  obtain ⟨record, -, kind, notFinish⟩ := d.find?_of_mem (course.mem n mem)
  rwa [kind] at notFinish

/-- A run of the diamond in which every second command fails is logged consistently. -/
theorem run_logs_diamond :
    Graph.compile "a" Graph.diamondRegistry = .ok Graph.diamond ∧ alternating.IsQuiet ∧
    ∃ p ns, Graph.diamond.run alternating .fail .nil 1 = some p ∧
      (∀ n ∈ ns, n ∈ Graph.diamond.nodes) ∧ p.IsLogged "a" .nil ns := by
  have quiet : alternating.IsQuiet := by
    constructor
    case lookup => exact fun _ _ entry mem => absurd mem List.not_mem_nil
    case run => exact fun _ _ entry mem => absurd mem List.not_mem_nil
  exact ⟨Graph.compile_diamond, quiet,
    (run_logs Graph.compile_diamond).2 alternating quiet .fail .nil 1⟩

end Pipeline
