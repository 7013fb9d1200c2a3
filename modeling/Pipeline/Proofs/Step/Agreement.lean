import Mathlib.Logic.Relation
import Pipeline.Proofs.Fallible
import Pipeline.Step.Reference

/-!
# Registries that agree

Two registries agree from a root when the names that the root leads to mean the same in both
(`Registry.AgreesFrom`). An edit that changes nothing which the root leads to keeps the agreement
(`Registry.Edit.agrees`): steps of different names may change places, a definition that is not the
first of its name may be changed or deleted, a step that the root does not lead to may be added, and
an end may get other routes, since it never takes them.
-/

namespace Pipeline

/-- Two definitions mean the same: they are one, or both are ends with one name and one result. -/
inductive StepRecord.Alike : StepRecord → StepRecord → Prop where
  | same {a} :
    Alike a a
  | finish {a b result} :
    a.name = b.name →
    a.kind = .finish result →
    b.kind = .finish result →
    Alike a b

namespace Registry

/-- The names that `root` leads to mean the same in another registry: their definitions are alike,
and those without a definition have none there either. -/
def AgreesFrom (root : String) (r r' : Registry) : Prop :=
  ∀ name, r.Referenced root name → Option.Rel StepRecord.Alike (r.find? name) (r'.find? name)

/-- Edits that leave alone what `root` leads to. -/
inductive Edit (root : String) : Registry → Registry → Prop where
  /-- Steps with distinct names change places. -/
  | permute {before steps steps' after} :
    steps.Perm steps' →
    (steps.map StepRecord.name).Nodup →
    Edit root ⟨before ++ steps ++ after⟩ ⟨before ++ steps' ++ after⟩
  /-- A definition that is not the first of its name is changed. -/
  | change {before record other after} :
    record.name ∈ before.map StepRecord.name →
    other.name = record.name →
    Edit root ⟨before ++ record :: after⟩ ⟨before ++ other :: after⟩
  /-- A definition that is not the first of its name is deleted. -/
  | delete {before record after} :
    record.name ∈ before.map StepRecord.name →
    Edit root ⟨before ++ record :: after⟩ ⟨before ++ after⟩
  /-- A step that the root does not lead to is added, whatever it refers to. -/
  | add {before record after} :
    ¬ Referenced ⟨before ++ after⟩ root record.name →
    Edit root ⟨before ++ after⟩ ⟨before ++ record :: after⟩
  /-- An end gets other routes. -/
  | reroute {before record after success failure failureWord} :
    record.kind.isFinish = true →
    Edit root ⟨before ++ record :: after⟩
      ⟨before ++ ⟨record.name, record.kind, success, failure, failureWord⟩ :: after⟩

/-- A root leads to nothing but the names of a list that has it and all that its names refer to. -/
lemma Referenced.mem_of_closed {r : Registry} {root name : String} (names : List String)
    (h : r.Referenced root name) (start : root ∈ names)
    (closed : ∀ a ∈ names, ∀ record ∈ r.find? a, ∀ b ∈ record.references, b ∈ names) :
    name ∈ names := by
  induction h with
  | root => exact start
  | step _ refers ih =>
    obtain ⟨record, found, mem⟩ := refers
    exact closed _ ih record found _ mem

/-- What is found twice means the same. -/
lemma rel_of_eq {found other : Option StepRecord} (h : found = other) :
    Option.Rel StepRecord.Alike found other := by
  rw [h]
  cases other with
  | none => exact .none
  | some record => exact .some .same

/-- The first definition of a name is sought in the first records, then in those after them. -/
lemma find?_append (before after : List StepRecord) (name : String) :
    (mk (before ++ after)).find? name =
      ((mk before).find? name).or ((mk after).find? name) :=
  List.find?_append

/-- The first record is the definition of its name and of no other. -/
lemma find?_cons (record : StepRecord) (after : List StepRecord) (name : String) :
    (mk (record :: after)).find? name =
      if name = record.name then some record else (mk after).find? name := by
  by_cases same : name = record.name
  · simp [find?, same]
  · have other : (record.name == name) = false := by simpa using fun e => same e.symm
    simp [find?, other, same]

/-- Records after one of a name do not matter to the name. -/
lemma find?_append_of_mem {before after : List StepRecord} {name : String}
    (h : name ∈ before.map StepRecord.name) :
    (mk (before ++ after)).find? name = (mk before).find? name := by
  rw [find?_append]
  cases found : (mk before).find? name with
  | some record => rfl
  | none =>
    obtain ⟨record, mem, named⟩ := List.mem_map.1 h
    have absent := List.find?_eq_none.1 found record mem
    simp [named] at absent

/-- A record in the middle does not matter to other names. -/
lemma find?_insert_of_ne {before after : List StepRecord} {record : StepRecord} {name : String}
    (other : name ≠ record.name) :
    (mk (before ++ record :: after)).find? name = (mk (before ++ after)).find? name := by
  rw [find?_append, find?_append, find?_cons, if_neg other]

/-- Where no two records have one name, their order does not matter. -/
lemma find?_perm {steps steps' : List StepRecord} (perm : steps.Perm steps')
    (distinct : (steps.map StepRecord.name).Nodup) (name : String) :
    (mk steps).find? name = (mk steps').find? name := by
  induction perm with
  | nil => rfl
  | cons record _ ih => rw [find?_cons, find?_cons, ih (List.nodup_cons.1 distinct).2]
  | swap a b steps =>
    rw [find?_cons, find?_cons, find?_cons, find?_cons]
    by_cases isA : name = a.name
    · by_cases isB : name = b.name
      · simp [← isA, ← isB] at distinct
      · rw [if_neg isB, if_pos isA, if_pos isA]
    · rw [if_neg isA, if_neg isA]
  | trans first _ ih ih' =>
    exact (ih distinct).trans (ih' ((first.map StepRecord.name).nodup_iff.1 distinct))

/-- An edit keeps what the root leads to as it is. -/
lemma Edit.agrees {root : String} {r r' : Registry} (h : Edit root r r') :
    AgreesFrom root r r' := by
  intro name referenced
  cases h with
  | permute perm distinct =>
    apply rel_of_eq
    rw [find?_append, find?_append, find?_append, find?_append, find?_perm perm distinct]
  | @change _ record other _ before same =>
    apply rel_of_eq
    by_cases here : name = record.name
    · rw [here, find?_append_of_mem before, find?_append_of_mem before]
    · rw [find?_insert_of_ne here, find?_insert_of_ne (same ▸ here)]
  | @delete _ record _ before =>
    apply rel_of_eq
    by_cases here : name = record.name
    · rw [here, find?_append_of_mem before, find?_append_of_mem before]
    · exact find?_insert_of_ne here
  | add unreached =>
    apply rel_of_eq
    rw [find?_insert_of_ne]
    rintro rfl
    exact unreached referenced
  | @reroute before record _ _ _ _ finish =>
    obtain ⟨result, kind⟩ := StepKind.eq_finish_of_isFinish finish
    rw [find?_append, find?_append, find?_cons, find?_cons]
    cases (mk before).find? name with
    | some first => exact .some .same
    | none =>
      by_cases here : name = record.name
      · rw [Option.none_or, Option.none_or, if_pos here, if_pos here]
        exact .some (.finish rfl kind kind)
      · rw [if_neg here, if_neg here]
        exact rel_of_eq rfl

end Registry

end Pipeline
