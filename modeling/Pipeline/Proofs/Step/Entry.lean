import Pipeline.Proofs.Fallible
import Pipeline.Step.Reference

/-!
# Records of entries

What an entry means, and when it means nothing (`StepRecord.kindOf_cases`, `StepRecord.kindOf_error`;
specification, section 11). A record has the name of its entry (`StepRecord.kindOf_of_ofEntry`), so
the first record of a name is that of the first entry of the name (`Registry.find?_ofEntries`), and
its kind has the type tag that the author wrote there (`StepRecord.tag_of_kindOf`).
-/

namespace Pipeline

namespace StepRecord

/-- An entry means an end with a result that is written as one, or a kind that is no end and has the
type tag of the entry. -/
lemma kindOf_cases {e : StepEntry} {kind : StepKind} (h : kindOf e = .ok kind) :
    (∃ result, e.typeTag = "End" ∧ e.result = some result ∧ kind = .finish result) ∨
    (e.typeTag ≠ "End" ∧ kind.tag = e.typeTag ∧ kind.isFinish = false) := by
  by_cases ends : e.typeTag = "End"
  · cases written : e.result with
    | none => simp [kindOf, ends, written] at h
    | some result =>
      have meant : StepKind.finish result = kind := by simpa [kindOf, ends, written] using h
      exact .inl ⟨result, ends, rfl, meant.symm⟩
  · refine .inr ⟨ends, ?_⟩
    unfold kindOf at h
    split at h
    · rename_i tag
      cases h
      exact ⟨tag.symm, rfl⟩
    · split at h
      · rename_i tag
        cases h
        exact ⟨tag.symm, rfl⟩
      · split at h
        · rename_i tag
          cases h
          exact ⟨tag.symm, rfl⟩
        · cases h
          exact ⟨rfl, rfl⟩

/-- An entry without a meaning is an end without a result. -/
lemma kindOf_error {e : StepEntry} {problem : ConfigError} (h : kindOf e = .error problem) :
    e.typeTag = "End" ∧ e.result = none ∧ ∃ reason, problem = .invalidStep e.name reason := by
  unfold kindOf at h
  split at h
  · cases h
  · split at h
    · cases h
    · split at h
      · cases h
      · split at h
        · rename_i ends
          split at h
          · cases h
          · rename_i missing
            cases h
            exact ⟨ends, missing, _, rfl⟩
        · cases h

/-- The record of an entry has what the entry says about the step, with the failure word as it
is. -/
lemma eq_of_ofEntry {e : StepEntry} {record : StepRecord} (h : ofEntry e = .ok record) :
    record = ⟨e.name, record.kind, Route.ofWord e.success, FailureRoute.ofWord e.failure,
      e.failure⟩ := by
  obtain ⟨kind, -, same⟩ := bind_eq_ok h
  cases same
  rfl

/-- The record of an entry has its name and the kind that the entry means. -/
lemma kindOf_of_ofEntry {e : StepEntry} {record : StepRecord} (h : ofEntry e = .ok record) :
    record.name = e.name ∧ kindOf e = .ok record.kind := by
  obtain ⟨kind, meant, same⟩ := bind_eq_ok h
  cases same
  exact ⟨rfl, meant⟩

end StepRecord

/-- Among records that are those of entries, a name stands for the record of the first entry of the
name, or for none where there is no such entry. -/
lemma StepRecord.rel_find? {entries : List StepEntry} {records : List StepRecord}
    (h : List.Forall₂ (fun e record => ofEntry e = .ok record) entries records) (name : String) :
    Option.Rel (fun e record => ofEntry e = .ok record) (entries.find? fun e => e.name == name)
      (records.find? fun record => record.name == name) := by
  induction h with
  | nil => exact .none
  | @cons e record _ _ here _ ih =>
    obtain ⟨named, -⟩ := kindOf_of_ofEntry here
    rw [List.find?_cons, List.find?_cons, named]
    cases e.name == name with
    | true => exact .some here
    | false => exact ih

namespace Registry

/-- In a registry of entries, a name stands for the record of the first entry of the name, or for
none where there is no such entry. -/
lemma rel_find?_ofEntries {entries : List StepEntry} {r : Registry}
    (h : ofEntries entries = .ok r) (name : String) :
    Option.Rel (fun e record => StepRecord.ofEntry e = .ok record)
      (entries.find? fun e => e.name == name) (r.find? name) := by
  obtain ⟨records, each, rfl⟩ := map_eq_ok h
  exact StepRecord.rel_find? (mapM_eq_ok_iff.1 each) name

/-- The first record of a name in a registry of entries is that of the first entry of the name. -/
lemma find?_ofEntries {entries : List StepEntry} {r : Registry} {name : String}
    {record : StepRecord} (h : ofEntries entries = .ok r) (found : r.find? name = some record) :
    ∃ e, (entries.find? fun e => e.name == name) = some e ∧ StepRecord.ofEntry e = .ok record := by
  rcases rel_cases (rel_find?_ofEntries h name) with ⟨-, missing⟩ | ⟨e, _, first, same, meant⟩
  · rw [missing] at found
    cases found
  · rw [same] at found
    cases found
    exact ⟨e, first, meant⟩

end Registry

end Pipeline
