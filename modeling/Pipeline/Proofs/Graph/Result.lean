import Pipeline.Proofs.Graph.Invariant
import Pipeline.Proofs.Graph.Potential

/-!
# What compiling comes to

Where there is a graph, it is read off a machine that keeps the invariant and has no frame left
(`machine_of_compile`). There is one exactly when the root is a name that is grounded
(`exists_compile_iff`).
-/

namespace Pipeline

namespace Compile.State

/-- A machine without frames has its answer in the register. -/
def Answered (s : State) : Prop :=
  s.frames = [] → ∃ target, s.resolved = some target

/-- Entering a record opens a frame or gives an answer. -/
lemma Answered.enter {s t : State} {record : StepRecord} (h : s.enter record = .ok t) :
    t.Answered := by
  intro noFrames
  rcases enter_cases h with ⟨_, _, rfl⟩ | ⟨_, _, _, _, rfl⟩ | ⟨_, _, _, rfl⟩
  · exact ⟨_, rfl⟩
  · exact ⟨_, rfl⟩
  · cases noFrames

/-- A round leaves a frame or gives an answer. -/
lemma Answered.round {r : Registry} {s t : State} {frame : Frame} {rest : List Frame}
    (h : s.round r frame rest = .ok t) : t.Answered := by
  rcases round_cases h with ⟨_, _, _, rfl⟩ | ⟨_, _, _, _, rfl⟩ | ⟨_, _, _, rfl⟩ | ⟨_, _, _, h⟩
  · intro noFrames
    cases noFrames
  · exact fun _ => ⟨_, rfl⟩
  · exact fun _ => ⟨_, rfl⟩
  · exact .enter h

/-- The root's record can always be entered, since no step has a frame yet. -/
lemma exists_enter_empty (record : StepRecord) : ∃ s, State.empty.enter record = .ok s := by
  cases h : State.empty.enter record with
  | ok s => exact ⟨s, rfl⟩
  | error e =>
    obtain ⟨-, on, -⟩ := enter_error h
    cases on

/-- The invariant holds after any number of rounds. -/
lemma Invariant.rounds {r : Registry} {root : String} {n : Nat} {s t : State}
    (inv : Invariant r root s) (h : s.rounds r n = .ok t) : Invariant r root t :=
  rounds_preserve (fun inv frames next => inv.round frames next) inv h

/-- Without frames, every node is off the path. -/
lemma path_of_frames_nil {s : State} (h : s.frames = []) : s.path = [] := by
  simp [path, h]

end Compile.State

open Compile

namespace Graph

/-- The graph that the machine has made when it stops. -/
def ofMachine (s : State) : Graph :=
  ⟨s.nodes, s.resolved.getD (.step 0)⟩

/-- Compiling from a name with a definition is a run of the machine on its record. -/
lemma compile_of_found {root : String} {r : Registry} {record : StepRecord} (named : root ≠ "")
    (found : r.find? root = some record) :
    Graph.compile root r =
      (State.empty.enter record).bind fun start => (start.run r).map ofMachine := by
  rw [compile, if_neg named, found]
  show (State.empty.enter record).bind _ = _
  congr

/-- A graph comes from a root that is a name with a definition. -/
lemma found_of_compile {root : String} {r : Registry} {g : Graph}
    (h : Graph.compile root r = .ok g) : root ≠ "" ∧ ∃ record, r.find? root = some record := by
  unfold compile at h
  split at h
  · cases h
  · rename_i named
    split at h
    · cases h
    · rename_i record found
      exact ⟨named, record, found⟩

/-- A graph is read off a machine that keeps the invariant and has no frame left. -/
lemma machine_of_compile {root : String} {r : Registry} {g : Graph}
    (h : Graph.compile root r = .ok g) :
    ∃ s : State, State.Invariant r root s ∧ s.frames = [] ∧ s.nodes = g.nodes ∧
      s.resolved = some g.root := by
  obtain ⟨named, record, found⟩ := found_of_compile h
  obtain ⟨start, entered⟩ := State.exists_enter_empty record
  rw [compile_of_found named found, entered] at h
  obtain ⟨s, run, rfl⟩ := map_eq_ok h
  have inv : State.Invariant r root start := State.Invariant.empty.enter found entered
  have noFrames := State.frames_run run
  have answered : s.Answered :=
    State.rounds_preserve (fun _ _ next => .round next) (State.Answered.enter entered) run
  obtain ⟨target, resolved⟩ := answered noFrames
  exact ⟨s, inv.rounds run, noFrames, rfl, by simp [ofMachine, resolved]⟩

/-- From a name with a definition, compiling fails in a round of a machine that keeps the
invariant. -/
lemma round_of_compile_error {root : String} {r : Registry} {record : StepRecord} {e : ConfigError}
    (named : root ≠ "") (found : r.find? root = some record)
    (h : Graph.compile root r = .error e) :
    ∃ s frame rest, State.Invariant r root s ∧ s.frames = frame :: rest ∧
      s.round r frame rest = .error e := by
  obtain ⟨start, entered⟩ := State.exists_enter_empty record
  rw [compile_of_found named found, entered] at h
  have run : start.run r = .error e := map_eq_error h
  have inv : State.Invariant r root start := State.Invariant.empty.enter found entered
  exact State.rounds_error (fun inv frames next => inv.round frames next) inv run

/-- From a name with a definition, compiling fails only when the name is not grounded. -/
lemma not_grounded_of_compile {root : String} {r : Registry} {e : ConfigError}
    (named : root ≠ "") (h : Graph.compile root r = .error e) : ¬ r.Grounded root := by
  intro grounded
  obtain ⟨record, found⟩ := grounded.defined
  obtain ⟨s, frame, rest, inv, frames, failed⟩ := round_of_compile_error named found h
  exact inv.not_grounded frames failed grounded

/-- The root of a graph is grounded. -/
lemma grounded_of_compile {root : String} {r : Registry} {g : Graph}
    (h : Graph.compile root r = .ok g) : r.Grounded root := by
  obtain ⟨s, inv, noFrames, -, resolved⟩ := machine_of_compile h
  obtain ⟨-, record, found⟩ := found_of_compile h
  obtain rfl := Registry.name_of_find? found
  cases finish : record.kind.isFinish with
  | true => exact .of_finish found finish
  | false =>
    obtain ⟨station, awaited, settles⟩ := inv.pending _ resolved
    simp only [noFrames, awaited?, Registry.station?, found, Option.map_some,
      StepRecord.station_eq_step finish, Option.some.injEq] at awaited
    rw [← awaited] at settles
    exact inv.grounded_of_settles settles

/-- There is a graph exactly for a root that is a name and grounded. -/
lemma exists_compile_iff {root : String} {r : Registry} :
    (∃ g, Graph.compile root r = .ok g) ↔ root ≠ "" ∧ r.Grounded root := by
  constructor
  · rintro ⟨g, h⟩
    exact ⟨(found_of_compile h).1, grounded_of_compile h⟩
  · rintro ⟨named, grounded⟩
    cases h : Graph.compile root r with
    | ok g => exact ⟨g, rfl⟩
    | error e => exact absurd grounded (not_grounded_of_compile named h)

/-- Two steps that share a third one, an end with a name, an unknown step, and a name defined twice:
the routes of `a` go to `b` and `c`, and both of these go on to `d`. -/
def diamondRegistry : Registry :=
  ⟨[⟨"d", .build "d", .done, .onward, some "continue"⟩,
    ⟨"b", .unknown "Lint", .named "d", .next (.named "red"), some "red"⟩,
    ⟨"a", .test (.script "test"), .named "b", .next (.named "c"), some "c"⟩,
    ⟨"c", .build "c", .named "d", .onward, some "continue"⟩,
    ⟨"red", .finish false, .done, .next .done, none⟩,
    ⟨"a", .finish true, .done, .next .done, none⟩]⟩

/-- The graph of the diamond. -/
def diamond : Graph :=
  ⟨[⟨1, "a", .test (.script "test"), .step 1, .step 3⟩,
    ⟨2, "b", .unknown "Lint", .step 2, .terminal ⟨"red", false⟩⟩,
    ⟨3, "d", .build "d", .terminal (.byDefault true), .terminal (.byDefault false)⟩,
    ⟨4, "c", .build "c", .step 2, .step 2⟩], .step 0⟩

/-- The step that two others share has one node, and its placeholders are gone. -/
lemma compile_diamond : Graph.compile "a" diamondRegistry = .ok diamond := by
  decide

end Graph

end Pipeline
