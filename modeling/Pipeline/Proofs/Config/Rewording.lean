import Pipeline.Proofs.Config.Authored
import Pipeline.Proofs.Graph.Likeness
import Pipeline.Proofs.Step.Agreement

/-!
# Rewording the routes of a configuration

The words `continue` and `end` say nothing that cannot be said without them: the word for a success
can stand in the place of `continue`, and a word that ends the pipeline can be left out
(specification, section 11, transitions). The routes stay the same (`StepEntry.route_reword`), but
the failure word changes, which is kept for a message. That is never seen: the message is about a
failure route without a definition, and where the new word is another one, the route ends the
pipeline, or it is the one of a success, which is looked at first
(`StepRecord.SameWays.failureEdge`). So compiling gives the same graph or the same error for all
wordings (`Config.toGraph_reword`).
-/

namespace Pipeline

/-- Which words in the routes of a step are to be reworded. -/
structure Rewording where
  /-- The word for a success takes the place of `continue`. -/
  onward : Bool
  /-- The word for a success is left out if it ends the pipeline. -/
  success : Bool
  /-- The word for a failure is left out if it ends the pipeline. -/
  failure : Bool

/-- A word, left out on demand if it ends the pipeline. -/
def withoutEnd (demanded : Bool) (word : Option String) : Option String :=
  if demanded then word.filter fun text => !sameLetters text endWord else word

/-- The entry in other words: first `continue` gives way to the word for a success, if there is one,
then words are left out. -/
def StepEntry.reword (choice : Rewording) (e : StepEntry) : StepEntry :=
  { e with
    success := withoutEnd choice.success e.success
    failure := withoutEnd choice.failure <|
      if choice.onward ∧ e.failure = some continueWord then e.success else e.failure }

/-- The configuration with each of its steps in other words. -/
def Config.reword (choices : Nat → Rewording) (c : Config) : Config :=
  { c with steps := c.steps.mapIdx fun position e => e.reword (choices position) }

/-- A word stays or, if it ends the pipeline, is left out. -/
lemma withoutEnd_cases (demanded : Bool) (word : Option String) :
    withoutEnd demanded word = word ∨
      withoutEnd demanded word = none ∧ Route.ofWord word = .done := by
  cases demanded with
  | false => exact .inl rfl
  | true =>
    cases word with
    | none => exact .inl rfl
    | some text =>
      cases ends : sameLetters text endWord with
      | true => exact .inr ⟨by simp [withoutEnd, ends], by rw [Route.ofWord, if_pos ends]⟩
      | false => exact .inl (by simp [withoutEnd, ends])

/-- The route is the same without a word that ends the pipeline. -/
@[simp] lemma Route.ofWord_withoutEnd (demanded : Bool) (word : Option String) :
    ofWord (withoutEnd demanded word) = ofWord word := by
  rcases withoutEnd_cases demanded word with same | ⟨left, ends⟩
  · rw [same]
  · rw [left, ends]
    rfl

namespace StepEntry

variable (choice : Rewording) {e : StepEntry}

/-- The word `continue` does not end the pipeline. -/
lemma withoutEnd_continueWord (demanded : Bool) :
    withoutEnd demanded (some continueWord) = some continueWord := by
  cases demanded <;> rfl

/-- A failure word other than `continue` stays or is left out. -/
lemma failure_reword (own : e.failure ≠ some continueWord) :
    (e.reword choice).failure = withoutEnd choice.failure e.failure := by
  simp [reword, own]

/-- An entry that goes on after a failure as after a success does so in other words, too. -/
lemma failure_reword_of_onward (onward : e.failure = some continueWord) :
    (e.reword choice).failure = some continueWord ∨
      (e.reword choice).failure = withoutEnd choice.failure e.success := by
  cases replaced : choice.onward with
  | false => exact .inl (by simp [reword, replaced, onward, withoutEnd_continueWord])
  | true => exact .inr (by simp [reword, replaced, onward])

/-- The routes of a step are the same in other words. -/
lemma route_reword (success : Bool) :
    Route.ofWord ((e.reword choice).word? success) = Route.ofWord (e.word? success) := by
  have forward : Route.ofWord (e.reword choice).success = Route.ofWord e.success :=
    Route.ofWord_withoutEnd ..
  cases success with
  | true => simpa [word?] using forward
  | false =>
    by_cases onward : e.failure = some continueWord
    · by_cases still : (e.reword choice).failure = some continueWord
      · simpa [word?, onward, still] using forward
      · have copied := (failure_reword_of_onward choice onward).resolve_left still
        rw [copied] at still
        simp [word?, onward, copied, still]
    · have left := failure_reword choice onward
      have other : withoutEnd choice.failure e.failure ≠ some continueWord := by
        rcases withoutEnd_cases choice.failure e.failure with same | ⟨left, -⟩
        · rwa [same]
        · simp [left]
      simp [word?, onward, left, other]

end StepEntry

/-- Two records are those of one step that goes the same ways; the words for its failure route may
differ where that ends the pipeline or is the route of a success. -/
structure StepRecord.SameWays (a b : StepRecord) : Prop where
  name : b.name = a.name
  kind : b.kind = a.kind
  route : ∀ success, b.route success = a.route success
  word : b.failureWord = a.failureWord ∨ a.route false = .done ∨ a.route false = a.route true

/-- Two edges are one error, one terminal, or lead to records of one step that goes the same
ways. -/
inductive Edge.SameWays : Except ConfigError Edge → Except ConfigError Edge → Prop where
  | error {e} :
    SameWays (.error e) (.error e)
  | terminal {t} :
    SameWays (.ok (.terminal t)) (.ok (.terminal t))
  | record {a b} :
    a.SameWays b →
    SameWays (.ok (.record a)) (.ok (.record b))

/-- In two registries every name stands for one step that goes the same ways, or for none. -/
def Registry.SameWays (r r' : Registry) : Prop :=
  ∀ name, Option.Rel StepRecord.SameWays (r.find? name) (r'.find? name)

namespace StepRecord

variable {r r' : Registry} {a b : StepRecord}

/-- The edges of two such records are the same when they report the same where there is none. -/
lemma SameWays.edge (alike : r.SameWays r') (ways : a.SameWays b) {success : Bool}
    (report : ∀ target, a.route success = .named target → r.find? target = none →
      b.dangling success target = a.dangling success target) :
    Edge.SameWays (a.edge r success) (b.edge r' success) := by
  rw [edge_eq, edge_eq, ways.route]
  cases route : a.route success with
  | done => exact .terminal
  | named target =>
    rcases rel_cases (alike target) with ⟨missing, missing'⟩ | ⟨next, next', is, is', ways⟩
    · simp only [missing, missing', report target route missing]
      exact .error
    · simp only [is, is']
      exact .record ways

/-- The success edges of two such records are the same. -/
lemma SameWays.successEdge (alike : r.SameWays r') (ways : a.SameWays b) :
    Edge.SameWays (a.edge r true) (b.edge r' true) := by
  apply ways.edge alike
  intro target _ _
  simp [dangling, ways.name]

/-- The failure edges of two such records are the same where there is a success edge. -/
lemma SameWays.failureEdge (alike : r.SameWays r') (ways : a.SameWays b)
    (forward : ∀ e, a.edge r true ≠ .error e) :
    Edge.SameWays (a.edge r false) (b.edge r' false) := by
  apply ways.edge alike
  intro target route missing
  rcases ways.word with same | ends | onward
  · simp [dangling, ways.name, same]
  · rw [route] at ends
    cases ends
  · -- the route of a success leads to the same name, so the success edge is missing too
    rw [route] at onward
    have none : a.edge r true = .error (a.dangling true target) := by
      rw [edge_eq, ← onward]
      simp [missing]
    exact absurd none (forward _)

end StepRecord

/-- Where every name stands for a step that goes the same ways, no visit can tell the edges
apart. -/
lemma Registry.SameWays.likeness {r r' : Registry} (alike : r.SameWays r') :
    Visit.Likeness r r' fun _ => Edge.SameWays := by
  constructor
  case error =>
    intro path e edge ways
    cases ways
    rfl
  case terminal =>
    intro path t edge ways
    cases ways
    rfl
  case finish =>
    intro path a edge result ways kind
    cases ways with
    | @record _ b ways => exact ⟨b, rfl, ways.name, ways.kind.trans kind⟩
  case step =>
    intro path a edge ways notFinish
    cases ways with
    | @record _ b ways =>
      refine ⟨b, rfl, ways.name, by rw [ways.kind, notFinish], fun _ => ?_⟩
      exact ⟨ways.kind, ways.successEdge alike, ways.failureEdge alike⟩

/-- Registries in which the names stand for steps that go the same ways have the same graph. -/
lemma Graph.compile_eq_of_sameWays {r r' : Registry} (alike : r.SameWays r') (root : String) :
    Graph.compile root r = Graph.compile root r' := by
  apply compile_eq_of_likeness alike.likeness
  rcases rel_cases (alike root) with ⟨missing, missing'⟩ | ⟨a, b, found, found', ways⟩
  · rw [missing, missing']
    exact .none
  · rw [found, found']
    exact .some (.record ways)

/-- The record of an entry goes the same ways in other words. -/
lemma StepEntry.sameWays_reword (choice : Rewording) (e : StepEntry) :
    ExceptRel StepRecord.SameWays (StepRecord.ofEntry e)
      (StepRecord.ofEntry (e.reword choice)) := by
  have same : StepRecord.kindOf (e.reword choice) = StepRecord.kindOf e := rfl
  cases kind : StepRecord.kindOf e with
  | error problem =>
    simp only [StepRecord.ofEntry, same, kind]
    exact .error
  | ok k =>
    have here : StepRecord.ofEntry e =
        .ok ⟨e.name, k, Route.ofWord e.success, FailureRoute.ofWord e.failure, e.failure⟩ := by
      simp only [StepRecord.ofEntry, kind]
      rfl
    have there : StepRecord.ofEntry (e.reword choice) =
        .ok ⟨e.name, k, Route.ofWord (e.reword choice).success,
          FailureRoute.ofWord (e.reword choice).failure, (e.reword choice).failure⟩ := by
      simp only [StepRecord.ofEntry, same, kind]
      rfl
    have route := StepRecord.route_of_ofEntry here
    have route' := StepRecord.route_of_ofEntry there
    rw [here, there]
    refine .ok ⟨rfl, rfl, fun success => ?_, ?_⟩
    · rw [route, route', route_reword]
    · rw [route, route]
      by_cases onward : e.failure = some continueWord
      · exact .inr (.inr (by simp [word?, onward]))
      · rcases withoutEnd_cases choice.failure e.failure with stays | ⟨-, ends⟩
        · exact .inl ((failure_reword choice onward).trans stays)
        · exact .inr (.inl (by simpa [word?, onward] using ends))

/-- Records that go the same ways, one for one, make registries that do. -/
lemma Registry.sameWays_of_forall₂ {records records' : List StepRecord}
    (h : List.Forall₂ StepRecord.SameWays records records') : (mk records).SameWays ⟨records'⟩ := by
  intro name
  induction h with
  | nil => exact .none
  | cons ways _ ih =>
    rw [find?_cons, find?_cons, ways.name]
    split
    · exact .some ways
    · exact ih

namespace Config

/-- The registries of two wordings are the same but for words. -/
lemma registry_reword (choices : Nat → Rewording) (c : Config) :
    ExceptRel Registry.SameWays c.registry (c.reword choices).registry := by
  have records : ExceptRel (List.Forall₂ StepRecord.SameWays)
      (c.steps.mapM StepRecord.ofEntry) ((c.reword choices).steps.mapM StepRecord.ofEntry) :=
    .mapM (fun position e => e.sameWays_reword (choices position)) c.steps
  exact records.map fun _ _ => Registry.sameWays_of_forall₂

/-- Compiling a configuration gives the same graph or the same error in other words: whichever of
its steps have the word for a success in the place of `continue`, and whichever of the words that
end the pipeline are left out afterwards. -/
theorem toGraph_reword (choices : Nat → Rewording) (c : Config) :
    (c.reword choices).toGraph = c.toGraph := by
  have registries := registry_reword choices c
  unfold toGraph
  generalize c.registry = x at registries ⊢
  generalize (c.reword choices).registry = x' at registries ⊢
  cases registries with
  | error => rfl
  | ok alike => exact (Graph.compile_eq_of_sameWays alike c.root).symm

-- a step of the name `continue` is a step like any other, and an end of the pipeline is no step
example : (Config.reword (fun _ => ⟨true, true, true⟩)
    { root := "a"
      steps :=
        [{ name := "a", typeTag := "Lint", success := some "continue", failure := some "continue" },
          { name := "continue", typeTag := "Lint", success := some "End", failure := some "gone" },
          { name := "End", typeTag := "Lint", success := some "nowhere" }] }).toGraph =
    .error (.missingFailureStep "continue" "gone" "gone") := by
  decide

end Config

end Pipeline
