import Pipeline.Proofs.Config.Authored
import Pipeline.Proofs.Graph.Result

/-!
# Dangling references that compiling reports

Compiling reports a name without a definition where the innermost frame of the machine has no edge
to follow (`compile_error_cases`), so the step of that frame is one that the root leads to. If it is
the failure edge that is missing, the success edge has been resolved before. What that one leads to
is grounded, although other frames may be open further out (`Invariant.grounded_of_answer`;
specification, section 12, error ordering); so the failure route is not the one of a success, and
its word is the name that has no definition (`dangles_of_compile`).
-/

namespace Pipeline

/-- The first definition of `step`, which the root leads to, goes on after a success or a failure to
a name without a definition. -/
structure Registry.Dangles (r : Registry) (root step : String) (record : StepRecord)
    (success : Bool) (target : String) : Prop where
  first : r.find? step = some record
  notFinish : record.kind.isFinish = false
  referenced : r.Referenced root step
  route : record.route success = .named target
  missing : r.find? target = none

/-- The failure word of an entry is the name that its failure route leads to. -/
lemma StepRecord.failureWord_of_ofEntry {e : StepEntry} {record : StepRecord} {target : String}
    (h : ofEntry e = .ok record) (failure : record.failure = .next (.named target)) :
    record.failureWord = some target := by
  rw [eq_of_ofEntry h] at failure ⊢
  show e.failure = some target
  by_cases onward : e.failure = some continueWord
  · simp [FailureRoute.ofWord, onward] at failure
  · have named : Route.ofWord e.failure = .named target := by
      simpa [FailureRoute.ofWord, onward] using failure
    exact (Route.ofWord_eq_named_iff.1 named).1

namespace Compile.State

variable {r : Registry} {root : String}

/-- Where an edge has a right target, the name on its route is grounded. -/
lemma Invariant.grounded_of_answer {s : State} (inv : Invariant r root s) {record : StepRecord}
    {name target : String} {success : Bool} {answer : Target} (found : r.find? name = some record)
    (answers : Answers r s name success answer) (route : record.route success = .named target) :
    r.Grounded target := by
  obtain ⟨station, after, settles⟩ := answers
  rw [Registry.stationAfter?_of_find? found, route] at after
  apply Registry.grounded_of_station? after
  rintro next kind rfl
  exact inv.grounded_of_settles settles

/-- A frame that has resolved its success edge goes on after a failure to a name without a
definition only by a route of its own. -/
lemma Invariant.own_of_dangles {s : State} (inv : Invariant r root s) {frame : Frame}
    (mem : frame ∈ s.frames) {onSuccess : Target} (stored : frame.onSuccess = some onSuccess)
    {target : String} (dangles : r.Dangles root frame.record.name frame.record false target) :
    frame.record.failure = .next (.named target) := by
  have route : frame.record.effectiveFailure = .named target := dangles.route
  unfold StepRecord.effectiveFailure at route
  split at route
  · rename_i own isNext
    rw [isNext, route]
  · -- the route of a success leads to a name that has been found
    have answers := inv.stored frame mem onSuccess stored
    obtain ⟨record, there⟩ := (inv.grounded_of_answer dangles.first answers route).defined
    simp [dangles.missing] at there

end Compile.State

open Compile

namespace Graph

/-- Compiling reports a root that cannot be started from, a cycle, or what is wrong with a route of
the innermost frame. -/
lemma compile_error_cases {root : String} {r : Registry} {e : ConfigError}
    (h : Graph.compile root r = .error e) :
    e = .missingRoot ∨ e = .rootNotFound root ∨ (∃ path, e = .cycle path) ∨
    ∃ s frame rest target, State.Invariant r root s ∧ s.frames = frame :: rest ∧
      r.Dangles root frame.record.name frame.record frame.onSuccess.isNone target ∧
      e = frame.record.dangling frame.onSuccess.isNone target := by
  by_cases named : root = ""
  · rw [compile, if_pos named] at h
    cases h
    exact .inl rfl
  · cases found : r.find? root with
    | none =>
      rw [compile, if_neg named, found] at h
      cases h
      exact .inr (.inl rfl)
    | some record =>
      obtain ⟨s, frame, rest, inv, frames, failed⟩ := round_of_compile_error named found h
      obtain ⟨-, edge | ⟨next, -, entered⟩⟩ := State.round_error failed
      · have linked := inv.linked
        rw [frames] at linked
        obtain ⟨first, notFinish⟩ := linked.found List.mem_cons_self
        obtain ⟨target, route, missing, same⟩ := StepRecord.route_of_edge_error edge
        exact .inr (.inr (.inr ⟨s, frame, rest, target, inv, frames,
          ⟨first, notFinish, linked.referenced, route, missing⟩, same⟩))
      · obtain ⟨-, -, same⟩ := State.enter_error entered
        exact .inr (.inr (.inl ⟨_, same⟩))

/-- A success edge is reported as missing at the innermost frame before it is resolved. -/
lemma dangles_success_of_compile {root step target : String} {r : Registry}
    (h : Graph.compile root r = .error (.missingSuccessStep step target)) :
    ∃ record, r.Dangles root step record true target := by
  obtain same | same | ⟨path, same⟩ | ⟨s, frame, rest, _, -, -, dangles, same⟩ :=
    compile_error_cases h
  · cases same
  · cases same
  · cases same
  · cases stored : frame.onSuccess with
    | none =>
      rw [stored] at dangles same
      cases same
      exact ⟨frame.record, dangles⟩
    | some onSuccess =>
      rw [stored] at same
      cases same

/-- A failure edge is reported as missing at the innermost frame after its success edge has been
resolved. -/
lemma dangles_failure_of_compile {root step failure target : String} {r : Registry}
    (h : Graph.compile root r = .error (.missingFailureStep step failure target)) :
    ∃ s frame onSuccess, State.Invariant r root s ∧ frame ∈ s.frames ∧
      frame.onSuccess = some onSuccess ∧ frame.record.name = step ∧
      r.Dangles root step frame.record false target ∧
      failure = frame.record.failureWord.getD "" := by
  obtain same | same | ⟨path, same⟩ | ⟨s, frame, rest, _, inv, frames, dangles, same⟩ :=
    compile_error_cases h
  · cases same
  · cases same
  · cases same
  · cases stored : frame.onSuccess with
    | none =>
      rw [stored] at same
      cases same
    | some onSuccess =>
      rw [stored] at dangles same
      cases same
      have mem : frame ∈ s.frames := by simp [frames]
      exact ⟨s, frame, onSuccess, inv, mem, stored, rfl, dangles, rfl⟩

/-- What compiling says about a name without a definition is true. The step that it speaks of is one
that the root leads to, and its first definition, no end, goes on to that name. After a failure it
does so by its own word, which is the name, and what it goes on to after a success can be
compiled. -/
theorem dangles_of_compile {entries : List StepEntry} {r : Registry}
    (h : Registry.ofEntries entries = .ok r) (root : String) :
    (∀ step target, Graph.compile root r = .error (.missingSuccessStep step target) →
      ∃ record, r.Dangles root step record true target) ∧
    ∀ step failure target,
      Graph.compile root r = .error (.missingFailureStep step failure target) →
      ∃ record, r.Dangles root step record false target ∧
        failure = target ∧ record.failure = .next (.named target) ∧
        ∀ b, record.success = .named b → b ≠ "" → ∃ g, Graph.compile b r = .ok g := by
  refine ⟨fun step target => dangles_success_of_compile, ?_⟩
  intro step failure target failed
  obtain ⟨s, frame, onSuccess, inv, mem, stored, rfl, dangles, rfl⟩ :=
    dangles_failure_of_compile failed
  have own := inv.own_of_dangles mem stored dangles
  obtain ⟨e, -, meant⟩ := Registry.find?_ofEntries h dangles.first
  have word := StepRecord.failureWord_of_ofEntry meant own
  refine ⟨frame.record, dangles, by rw [word]; rfl, own, ?_⟩
  intro b route named
  have answers := inv.stored frame mem onSuccess stored
  exact exists_compile_iff.2 ⟨named, inv.grounded_of_answer dangles.first answers route⟩

/-- Two steps with references to nothing: `c` after a failure, seen while the frame of `a` is open
and after `d` has been resolved, and `e` after a success, which its `continue` leads to as well. -/
def looseEntries : List StepEntry :=
  [{ name := "a", typeTag := "BuildScript", success := some "b", failure := some "c" },
    { name := "b", typeTag := "Test", success := some "d", failure := some "continue" },
    { name := "c", typeTag := "Lint", success := some "d", failure := some "nowhere" },
    { name := "d", typeTag := "BuildScript", failure := some "END" },
    { name := "e", typeTag := "Test", success := some "gone", failure := some "continue" }]

/-- The records of these entries. -/
def looseRegistry : Registry :=
  ⟨[⟨"a", .build "build", .named "b", .next (.named "c"), some "c"⟩,
    ⟨"b", .test (.script "test"), .named "d", .onward, some "continue"⟩,
    ⟨"c", .unknown "Lint", .named "d", .next (.named "nowhere"), some "nowhere"⟩,
    ⟨"d", .build "build", .done, .next .done, some "END"⟩,
    ⟨"e", .test (.script "test"), .named "gone", .onward, some "continue"⟩]⟩

/-- Both are reported where they are seen first, and `e` not for its failure route. -/
theorem dangles_of_compile_loose :
    Registry.ofEntries looseEntries = .ok looseRegistry ∧
    (Graph.compile "e" looseRegistry = .error (.missingSuccessStep "e" "gone") ∧
      ∃ record, looseRegistry.Dangles "e" "e" record true "gone") ∧
    Graph.compile "a" looseRegistry = .error (.missingFailureStep "c" "nowhere" "nowhere") ∧
      ∃ record, looseRegistry.Dangles "a" "c" record false "nowhere" ∧
        "nowhere" = "nowhere" ∧ record.failure = .next (.named "nowhere") ∧
        ∀ b, record.success = .named b → b ≠ "" → ∃ g, Graph.compile b looseRegistry = .ok g := by
  have entries : Registry.ofEntries looseEntries = .ok looseRegistry := by decide
  have success : Graph.compile "e" looseRegistry = .error (.missingSuccessStep "e" "gone") := by
    decide
  have failure : Graph.compile "a" looseRegistry =
      .error (.missingFailureStep "c" "nowhere" "nowhere") := by decide
  exact ⟨entries, ⟨success, (dangles_of_compile entries "e").1 _ _ success⟩,
    failure, (dangles_of_compile entries "a").2 _ _ _ failure⟩

end Graph

end Pipeline
