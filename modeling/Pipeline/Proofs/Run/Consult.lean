import Pipeline.Proofs.Manifest.Scripts
import Pipeline.Proofs.Run.Events
import Pipeline.Proofs.Run.Obstacle
import Pipeline.Run.Local

/-!
# Steps that consult the manifest

The manifest lies in the outside world, where every command may change it or take it away. Each step
that runs a script goes by what the manifest is at its own turn: either the runner is handed the
command that it has for the script then, which is never empty, or no runner is called and the step
fails for a reason that the manifest gives then (`run_consults`; specification, section 14). A
look-up leaves nothing behind, so one that fails is not there for the steps after it.
-/

namespace Pipeline

namespace Manifest

/-- The content of a manifest has a command for a script: the last one of its name, which is not
empty. -/
inductive Gives : Except String String → String → String → Prop where
  | found {text scripts name command} :
    scriptsOf text = .ok scripts →
    LastFor scripts name command →
    command ≠ "" →
    Gives (.ok text) name command

/-- The content of the manifest at `path` has no command for a script: it cannot be read, it is not
that of a manifest, or the last script of the name is empty, if there is one at all. -/
inductive Refuses (path : String) : Except String String → String → ManifestError → Prop where
  | unreadable {cause name} :
    Refuses path (.error cause) name (.unreadable path cause)
  | unparsable {text e name} :
    scriptsOf text = .error e →
    Refuses path (.ok text) name (.unparsable path e.message)
  | missing {text scripts name} :
    scriptsOf text = .ok scripts →
    (∀ command, LastFor scripts name command → command = "") →
    Refuses path (.ok text) name (.missingScript name path)

variable {path name : String} {content : Except String String}

/-- A content that has a command for a script is where that is found. -/
lemma Gives.lookup_eq {command : String} (h : Gives content name command) :
    lookup path content name = .ok command := by
  cases h with
  | found parsed last nonempty =>
    have kept : ¬ command.isEmpty = true := by simpa using nonempty
    simp only [lookup, parsed, command?_eq_some_iff.2 last]
    exact if_neg kept

/-- A content that has no command for a script is where the look-up fails. -/
lemma Refuses.lookup_eq {e : ManifestError} (h : Refuses path content name e) :
    lookup path content name = .error e := by
  cases h with
  | unreadable => rfl
  | unparsable refused => simp only [lookup, refused]
  | @missing _ scripts _ parsed empty =>
    simp only [lookup, parsed]
    cases found : command? scripts name with
    | none => rfl
    | some command =>
      obtain rfl := empty command (command?_eq_some_iff.1 found)
      rfl

/-- A content has a command for a script, or it has none. -/
lemma gives_or_refuses (path name : String) (content : Except String String) :
    (∃ command, Gives content name command) ∨ ∃ e, Refuses path content name e := by
  cases content with
  | error cause => exact .inr ⟨_, .unreadable⟩
  | ok text =>
    cases parsed : scriptsOf text with
    | error e => exact .inr ⟨_, .unparsable parsed⟩
    | ok scripts =>
      by_cases some : ∃ command, LastFor scripts name command ∧ command ≠ ""
      · obtain ⟨command, last, nonempty⟩ := some
        exact .inl ⟨command, .found parsed last nonempty⟩
      · push Not at some
        exact .inr ⟨_, .missing parsed some⟩

end Manifest

section

variable {σ : Type} (path : String) (content : σ → Except String String)
  (run : String → σ → Answer σ (Except SpawnError CommandOutput))

/-- Collaborators with any runner and a manifest whose content is whatever the outside world has in
its place. -/
def Collaborators.consulting : Collaborators σ where
  lookup script w := Manifest.answer path (content w) script w
  run := run

variable (policy : StderrPolicy) (g : Graph)

/-- The turn of a step that runs a script, in a world, and how the run goes on from there. -/
inductive StepNode.Consults (n : StepNode) (script : String) (w : σ) (after : List StepNode)
    (t : Terminal) : Prop where
  /-- The runner is handed the command that the manifest has in this world. -/
  | ran {command} :
    Manifest.Gives (content w) script command →
    n.calls (.consulting path content run) w =
      [⟨.lookup script, w, w⟩, ⟨.run command, w, (run command w).world⟩] →
    Course (.consulting path content run) policy g
      (n.next (n.succeeds (.consulting path content run) policy w)) (run command w).world after t →
    Consults n script w after t
  /-- No runner is called, and the run goes on along the failure edge as if nothing had been looked
  up. -/
  | refused {e} :
    Manifest.Refuses path (content w) script e →
    n.calls (.consulting path content run) w = [⟨.lookup script, w, w⟩] →
    eventsOf (g.block (.consulting path content run) policy n w).notices =
      [.stepStarted n.sequence n.name n.kind.tag,
        .stepFailed n.name e.message (g.targetName n.onFailure)] →
    Course (.consulting path content run) policy g n.onFailure w after t →
    Consults n script w after t

end

section

variable {σ : Type} {c : Collaborators σ} {policy : StderrPolicy} {g : Graph}

/-- A course goes on from each of its steps, in the world that this step leaves. -/
lemma Course.onward {target : Target} {w : σ} {before after : List StepNode} {n : StepNode}
    {t : Terminal} (h : Course c policy g target w (before ++ n :: after) t) :
    Course c policy g (n.next (n.succeeds c policy (worldAfter c policy w before)))
      (n.leaves c policy (worldAfter c policy w before)) after t := by
  induction before generalizing target w with
  | nil =>
    cases h with
    | turn _ rest => exact rest
  | cons m before ih =>
    cases h with
    | turn _ rest => exact ih rest

/-- A step that runs a script is of a known type. -/
lemma StepKind.RunsScript.isUnknown {kind : StepKind} {script : String}
    (h : kind.RunsScript script) : kind.isUnknown = false := by
  rcases h with rfl | rfl <;> rfl

/-- Calls end in the world that the last of them left. -/
lemma Consecutive.eq_last {w w' : σ} {calls : List (Call σ)} (h : Consecutive w calls w') :
    w' = (calls.getLast?.map Call.after).getD w := by
  induction h with
  | nil => rfl
  | @cons request w w' calls w'' _ ih =>
    rw [ih, List.getLast?_cons]
    cases calls.getLast? <;> rfl

variable {path : String} {content : σ → Except String String}
  {run : String → σ → Answer σ (Except SpawnError CommandOutput)}

/-- Each turn of a step that runs a script consults the manifest. -/
lemma StepNode.consults {n : StepNode} {script : String} (kind : n.kind.RunsScript script) {w : σ}
    {after : List StepNode} {t : Terminal}
    (rest : Course (.consulting path content run) policy g
      (n.next (n.succeeds (.consulting path content run) policy w))
      (n.leaves (.consulting path content run) policy w) after t) :
    n.Consults path content run policy g script w after t := by
  -- the calls of the turn say in which world it ends
  have left : n.leaves (.consulting path content run) policy w = _ :=
    (n.consecutive_calls w).eq_last
  rcases Manifest.gives_or_refuses path script (content w) with ⟨command, gives⟩ | ⟨e, refuses⟩
  · have obtained : n.Obtains (.consulting path content run) w command w [⟨.lookup script, w, w⟩] :=
      .script kind gives.lookup_eq
    obtain ⟨-, calls⟩ := obtained.perform policy
    rw [calls] at left
    rw [left] at rest
    exact .ran gives calls rest
  · have meets : n.Meets (.consulting path content run) policy w (.lookup e)
        [⟨.lookup script, w, w⟩] := .lookup kind refuses.lookup_eq
    obtain ⟨failed, calls⟩ := meets.perform
    rw [calls] at left
    have fails : n.succeeds (.consulting path content run) policy w = false := by
      rw [StepNode.succeeds_of_known kind.isUnknown, failed]
      rfl
    rw [fails, left] at rest
    refine .refused refuses calls ?_ rest
    rw [g.eventsOf_block_of_known kind.isUnknown, failed]
    rfl

end

/-- A run with any runner and a manifest in the outside world, such as a file that the commands may
change, makes the calls of the compiled steps that it executes, and each of them that runs a script
goes by what the manifest is at its own turn: the runner is handed the command that the script has
then, or no runner is called and the step fails for the reason that there is none then. A text is a
manifest just when its JSON value is one, so a single entry that is not a string is enough to refuse
it. -/
theorem run_consults {root : String} {r : Registry} {g : Graph}
    (h : Graph.compile root r = .ok g) :
    (∀ workingDir manifest dir, Collaborators.onFiles workingDir manifest dir =
      .consulting manifest (fun f => (f.readText workingDir manifest).mapError FileError.message)
        (runInShell workingDir dir)) ∧
    (∀ text v, Json.Value.ofText text = .ok v → ∀ scripts,
      Manifest.scriptsOf text = .ok scripts ↔ Manifest.Declares v scripts) ∧
    ∀ {σ : Type} (path : String) (content : σ → Except String String)
      (run : String → σ → Answer σ (Except SpawnError CommandOutput)) (policy : StderrPolicy)
      (id : ExecutionId) (w : σ), ∃ p ns,
      g.run (.consulting path content run) policy id w = some p ∧
      ns.map StepNode.name = p.executed ∧
      (∀ n ∈ ns, n ∈ g.nodes) ∧
      g.run (Collaborators.consulting path content run).recorded policy id (w, []) =
        some ⟨p.notices, p.executed, p.terminal,
          (p.world, callsOf (.consulting path content run) policy w ns)⟩ ∧
      ∀ before n after script, ns = before ++ n :: after → n.kind.RunsScript script →
        n.Consults path content run policy g script
          (worldAfter (.consulting path content run) policy w before) after p.terminal := by
  refine ⟨fun _ _ _ => rfl, fun _ _ parsed => Manifest.scriptsOf_eq_ok_iff parsed, ?_⟩
  intro σ path content run policy id w
  have d := Graph.depicts_of_compile h
  obtain ⟨ns, t, course, ran⟩ := run_of_compile h (.consulting path content run) policy id w
  refine ⟨_, ns, ran, rfl, course.mem, ?_, ?_⟩
  · rw [run_of_course d (course.recorded []) id, g.passage_recorded]
    rfl
  · rintro before n after script rfl kind
    exact StepNode.consults kind course.onward

/-- A runner that takes the manifest away, after which the command fails. -/
def vanishing (_ : String) (_ : Except String String) :
    Answer (Except String String) (Except SpawnError CommandOutput) :=
  ⟨.ok { exitCode := some 1 }, [], .error "No such file or directory"⟩

/-- A manifest for the first step of the diamond. -/
def diamondManifest : Except String String :=
  .ok "\x7b\"scripts\": \x7b\"test\": \"\", \"test\": \"jest\"\x7d\x7d"

/-- A run of the diamond with a runner that takes the manifest away consults it at each turn. -/
theorem run_consults_diamond :
    Graph.compile "a" Graph.diamondRegistry = .ok Graph.diamond ∧
    ∃ p ns, Graph.diamond.run (.consulting "package.json" id vanishing) .fail .nil diamondManifest =
        some p ∧
      ns.map StepNode.name = p.executed ∧
      (∀ n ∈ ns, n ∈ Graph.diamond.nodes) ∧
      Graph.diamond.run (Collaborators.consulting "package.json" id vanishing).recorded .fail .nil
          (diamondManifest, []) =
        some ⟨p.notices, p.executed, p.terminal,
          (p.world, callsOf (.consulting "package.json" id vanishing) .fail diamondManifest ns)⟩ ∧
      ∀ before n after script, ns = before ++ n :: after → n.kind.RunsScript script →
        n.Consults "package.json" id vanishing .fail Graph.diamond script
          (worldAfter (.consulting "package.json" id vanishing) .fail diamondManifest before) after
          p.terminal :=
  ⟨Graph.compile_diamond, (run_consults Graph.compile_diamond).2.2 "package.json" id vanishing .fail
    .nil diamondManifest⟩

/-- The first step of the diamond has the last command of its name, which takes the manifest away
from the others. -/
example :
    (Graph.diamond.run (Collaborators.consulting "package.json" id vanishing).recorded .fail .nil
      (diamondManifest, [])).map (fun p => p.world.2.map Call.request) =
        some [.lookup "test", .run "jest", .lookup "c", .lookup "d"] := by
  decide

end Pipeline
