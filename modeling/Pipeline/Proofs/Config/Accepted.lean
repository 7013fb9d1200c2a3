import Mathlib.Logic.Relation
import Pipeline.Proofs.Config.Authored
import Pipeline.Proofs.Graph.Result

/-!
# Which configurations have a graph

A configuration has a registry when every entry that ends the pipeline has a result
(`exists_registry_iff`), and the definitions of its registry refer to each other as its first
entries do (`refers_iff`). So it has a graph when, besides, its root is a name from which every
reference leads to an entry and none back to where it came from (`exists_toGraph_iff`;
specification, section 4.1 for the names, section 9 for the cycles).
-/

namespace Pipeline

namespace StepRecord

/-- An entry has a meaning unless it ends the pipeline without a result. -/
lemma exists_ofEntry_iff {e : StepEntry} :
    (∃ record, ofEntry e = .ok record) ↔ (e.typeTag = "End" → e.result ≠ none) := by
  constructor
  · rintro ⟨record, meant⟩ ends
    obtain ⟨-, meant⟩ := kindOf_of_ofEntry meant
    rcases kindOf_cases meant with ⟨result, -, written, -⟩ | ⟨other, -⟩
    · simp [written]
    · exact absurd ends other
  · intro h
    cases meant : kindOf e with
    | error problem =>
      obtain ⟨ends, missing, -⟩ := kindOf_error meant
      exact absurd missing (h ends)
    | ok kind =>
      rw [ofEntry, meant]
      exact ⟨_, rfl⟩

/-- An entry means an end when it is written as one. -/
lemma isFinish_of_kindOf {e : StepEntry} {kind : StepKind} (h : kindOf e = .ok kind) :
    kind.isFinish = true ↔ e.typeTag = "End" := by
  rcases kindOf_cases h with ⟨result, ends, -, rfl⟩ | ⟨other, -, notFinish⟩
  · exact iff_of_true rfl ends
  · exact iff_of_false (by simp [notFinish]) other

end StepRecord

namespace Config

variable {c : Config}

/-- There is a registry unless an entry ends the pipeline without a result. -/
lemma exists_registry_iff :
    (∃ r, c.registry = .ok r) ↔ ∀ e ∈ c.steps, e.typeTag = "End" → e.result ≠ none := by
  simp only [← StepRecord.exists_ofEntry_iff]
  rw [← exists_mapM_iff]
  constructor
  · rintro ⟨r, registry⟩
    obtain ⟨records, each, -⟩ := map_eq_ok registry
    exact ⟨records, each⟩
  · rintro ⟨records, each⟩
    rw [registry, Registry.ofEntries, each]
    exact ⟨_, rfl⟩

section

variable {r : Registry} (h : c.registry = .ok r)

include h

/-- A name stands for a record when there is an entry of the name. -/
lemma isSome_find?_iff (name : String) :
    (r.find? name).isSome ↔ ∃ e, c.entry? name = some e := by
  unfold entry?
  rcases rel_cases (Registry.rel_find?_ofEntries h name) with ⟨none, none'⟩ | ⟨_, _, is, is', -⟩
  · simp [none, none']
  · simp [is, is']

/-- A first definition refers to a name when the first entry does, of which it is the record. -/
lemma refers_iff (a b : String) : r.Refers a b ↔ c.Refers a b := by
  constructor
  · rintro ⟨record, found, mem⟩
    obtain ⟨e, first, meant⟩ := entry_of_find? h found
    obtain ⟨-, kind⟩ := StepRecord.kindOf_of_ofEntry meant
    obtain ⟨notFinish, success, route⟩ := StepRecord.route_of_mem_references mem
    rw [StepRecord.route_of_ofEntry meant] at route
    obtain ⟨word, onward⟩ := Route.ofWord_eq_named_iff.1 route
    refine ⟨e, success, first, ?_, word, onward⟩
    rw [ne_eq, ← StepRecord.isFinish_of_kindOf kind, notFinish]
    exact Bool.false_ne_true
  · rintro ⟨e, success, first, notEnd, word, onward⟩
    unfold entry? at first
    rcases rel_cases (Registry.rel_find?_ofEntries h a) with
      ⟨missing, -⟩ | ⟨e', record, same, found, meant⟩
    · rw [missing] at first
      cases first
    · obtain rfl : e = e' := Option.some.inj (first.symm.trans same)
      obtain ⟨-, kind⟩ := StepRecord.kindOf_of_ofEntry meant
      have notFinish : record.kind.isFinish = false := by
        rwa [← Bool.not_eq_true, StepRecord.isFinish_of_kindOf kind]
      have route : record.route success = .named b := by
        rw [StepRecord.route_of_ofEntry meant]
        exact Route.ofWord_eq_named_iff.2 ⟨word, onward⟩
      exact ⟨record, found, StepRecord.mem_references notFinish route⟩

/-- The names that a root leads to are those to which a chain of references between entries
leads. -/
lemma referenced_iff (root name : String) :
    r.Referenced root name ↔ Relation.ReflTransGen c.Refers root name := by
  constructor
  · intro ref
    induction ref with
    | root => exact .refl
    | step _ refers ih => exact ih.tail ((refers_iff h _ _).1 refers)
  · intro chain
    induction chain with
    | refl => exact .root
    | tail _ refers ih => exact .step ih ((refers_iff h _ _).2 refers)

/-- A path of references is a chain of references between entries. -/
lemma leadsTo_iff (a b : String) : r.LeadsTo a b ↔ Relation.TransGen c.Refers a b := by
  constructor
  · intro path
    induction path with
    | one refers => exact .single ((refers_iff h _ _).1 refers)
    | cons refers _ ih => exact .head ((refers_iff h _ _).1 refers) ih
  · intro chain
    induction chain with
    | single refers => exact .one ((refers_iff h _ _).2 refers)
    | tail _ refers ih => exact ih.trans (.one ((refers_iff h _ _).2 refers))

/-- A name is grounded when all entries that it leads to are there and none of them is on a
cycle. -/
lemma grounded_iff (root : String) :
    r.Grounded root ↔
      (∀ name, Relation.ReflTransGen c.Refers root name → ∃ e, c.entry? name = some e) ∧
      ∀ name, Relation.ReflTransGen c.Refers root name →
        ¬ Relation.TransGen c.Refers name name := by
  simp only [Registry.grounded_iff, referenced_iff h, leadsTo_iff h, isSome_find?_iff h]

end

/-- A configuration has a graph exactly when every end has a result, the root is a name, there is an
entry for each name to which a chain of references leads from the root, and no chain of references
leads from one of them back to itself. -/
theorem exists_toGraph_iff (c : Config) :
    (∃ g, c.toGraph = .ok g) ↔
      (∀ e ∈ c.steps, e.typeTag = "End" → e.result ≠ none) ∧
      c.root ≠ "" ∧
      (∀ name, Relation.ReflTransGen c.Refers c.root name → ∃ e, c.entry? name = some e) ∧
      ∀ name, Relation.ReflTransGen c.Refers c.root name →
        ¬ Relation.TransGen c.Refers name name := by
  constructor
  · rintro ⟨g, made⟩
    obtain ⟨r, registry, compiled⟩ := registry_of_toGraph made
    obtain ⟨named, grounded⟩ := Graph.exists_compile_iff.1 ⟨g, compiled⟩
    exact ⟨exists_registry_iff.1 ⟨r, registry⟩, named, (grounded_iff registry c.root).1 grounded⟩
  · rintro ⟨ends, named, closed⟩
    obtain ⟨r, registry⟩ := exists_registry_iff.2 ends
    obtain ⟨g, compiled⟩ :=
      Graph.exists_compile_iff.2 ⟨named, (grounded_iff registry c.root).2 closed⟩
    exact ⟨g, by rw [toGraph, registry]; exact compiled⟩

end Config

end Pipeline
