import Pipeline.Graph.ByName
import Pipeline.Graph.Compile
import Pipeline.Proofs.Step.Entry

/-!
# Routes as they are written

Where a step goes can be read off the words of its first entry (specification, section 11,
transitions): no word and the word `end` in any case end the pipeline, and after a failure
`continue` stands for the word for a success (`StepEntry.word?`). The record of the entry has these
routes (`StepRecord.route_of_ofEntry`), and what it finds as an end was written as one
(`Config.isEnd_of_find?`).
-/

namespace Pipeline

/-- The word of an entry for where its step goes after a success or a failure. -/
def StepEntry.word? (e : StepEntry) (success : Bool) : Option String :=
  if success ∨ e.failure = some continueWord then e.success else e.failure

/-- The step of an entry ends the pipeline after a success or a failure: no word says where it goes,
or one that differs from `end` at most in case. -/
def StepEntry.StopsAfter (e : StepEntry) (success : Bool) : Prop :=
  ∀ word, e.word? success = some word → sameLetters word endWord = true

namespace Config

/-- The first entry of a name. -/
def entry? (c : Config) (name : String) : Option StepEntry :=
  c.steps.find? fun e => e.name == name

/-- The first entry of a name is an end with a result. -/
def IsEnd (c : Config) (name : String) (result : Bool) : Prop :=
  ∃ e, c.entry? name = some e ∧ e.typeTag = "End" ∧ e.result = some result

/-- The first entry of `a` refers to `b`: it is no end, and one of its words leads to `b`. -/
def Refers (c : Config) (a b : String) : Prop :=
  ∃ e success, c.entry? a = some e ∧ e.typeTag ≠ "End" ∧ e.word? success = some b ∧
    sameLetters b endWord = false

/-- After a success or a failure the step of a name goes to a named end with a result. -/
def NamesEnd (c : Config) (name : String) (success result : Bool) : Prop :=
  ∃ e next, c.entry? name = some e ∧ e.word? success = some next ∧
    sameLetters next endWord = false ∧ c.IsEnd next result

end Config

/-- A route ends the pipeline when its word does, or when it has none. -/
lemma Route.ofWord_eq_done {word : Option String}
    (h : ∀ text, word = some text → sameLetters text endWord = true) : ofWord word = .done := by
  cases word with
  | none => rfl
  | some text => rw [ofWord, if_pos (h text rfl)]

/-- A route leads to a name when that is its word and does not end the pipeline. -/
lemma Route.ofWord_eq_named_iff {word : Option String} {name : String} :
    ofWord word = .named name ↔ word = some name ∧ sameLetters name endWord = false := by
  cases word with
  | none => simp [ofWord]
  | some text =>
    rw [ofWord]
    split
    · rename_i ends
      constructor
      · rintro ⟨⟩
      · rintro ⟨⟨⟩, onward⟩
        exact absurd ends (by simp [onward])
    · rename_i onward
      constructor
      · rintro ⟨⟩
        exact ⟨rfl, by simpa using onward⟩
      · rintro ⟨⟨⟩, -⟩
        rfl

namespace StepRecord

/-- A record has the routes of the words of its entry. -/
lemma route_of_ofEntry {e : StepEntry} {record : StepRecord} (h : ofEntry e = .ok record)
    (success : Bool) : record.route success = Route.ofWord (e.word? success) := by
  rw [eq_of_ofEntry h]
  cases success with
  | true => simp [route, StepEntry.word?]
  | false =>
    by_cases onward : e.failure = some continueWord
    · simp [route, effectiveFailure, FailureRoute.ofWord, StepEntry.word?, onward]
    · simp [route, effectiveFailure, FailureRoute.ofWord, StepEntry.word?, onward]

/-- An entry that means an end with a result was written as one. -/
lemma end_of_kindOf {e : StepEntry} {result : Bool} (h : kindOf e = .ok (.finish result)) :
    e.typeTag = "End" ∧ e.result = some result := by
  rcases kindOf_cases h with ⟨_, ends, written, same⟩ | ⟨-, -, notFinish⟩
  · cases same
    exact ⟨ends, written⟩
  · cases notFinish

end StepRecord

namespace Config

variable {c : Config} {r : Registry} {name : String} {record : StepRecord}

/-- The first record of a name is that of the first entry of the name. -/
lemma entry_of_find? (h : c.registry = .ok r) (found : r.find? name = some record) :
    ∃ e, c.entry? name = some e ∧ StepRecord.ofEntry e = .ok record :=
  Registry.find?_ofEntries h found

/-- A record that is found as an end was written as an end with its result. -/
lemma isEnd_of_find? (h : c.registry = .ok r) (found : r.find? name = some record) {result : Bool}
    (kind : record.kind = .finish result) : c.IsEnd name result := by
  obtain ⟨e, first, meant⟩ := entry_of_find? h found
  obtain ⟨-, isKind⟩ := StepRecord.kindOf_of_ofEntry meant
  rw [kind] at isKind
  exact ⟨e, first, StepRecord.end_of_kindOf isKind⟩

/-- A configuration with a graph has a registry from which the graph is compiled. -/
lemma registry_of_toGraph {g : Graph} (h : c.toGraph = .ok g) :
    ∃ r, c.registry = .ok r ∧ Graph.compile c.root r = .ok g := by
  exact bind_eq_ok h

end Config

end Pipeline
