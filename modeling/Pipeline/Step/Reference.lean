import Mathlib.Tactic.Lemma
import Pipeline.Step.Registry

/-!
# References between steps

What the steps of a registry refer to: a step that ends the pipeline refers to nothing, every other
step to the names on its two routes. The names that a root leads to are those that compiling from it
looks up.
-/

namespace Pipeline

/-- The name that a route leads to, if it leads to one. -/
def Route.name? : Route → Option String
  | .done => none
  | .named name => some name

/-- Whether a step ends the pipeline. -/
def StepKind.isFinish : StepKind → Bool
  | .finish _ => true
  | _ => false

/-- A kind that ends the pipeline ends it with a result. -/
lemma StepKind.eq_finish_of_isFinish {kind : StepKind} (h : kind.isFinish = true) :
    ∃ result, kind = .finish result := by
  cases kind with
  | finish result => exact ⟨result, rfl⟩
  | _ => cases h

/-- A kind without a result does not end the pipeline. -/
lemma StepKind.isFinish_eq_false {kind : StepKind} (h : ∀ result, kind ≠ .finish result) :
    kind.isFinish = false := by
  cases kind with
  | finish result => exact absurd rfl (h result)
  | _ => rfl

/-- The names that a record refers to, the success route first. -/
def StepRecord.references (record : StepRecord) : List String :=
  if record.kind.isFinish then []
  else record.success.name?.toList ++ record.effectiveFailure.name?.toList

namespace Registry

/-- A record that is found is one of the registry. -/
lemma mem_of_find? {r : Registry} {name : String} {record : StepRecord}
    (h : r.find? name = some record) : record ∈ r.records :=
  List.mem_of_find?_eq_some h

/-- A record that is found has the name. -/
lemma name_of_find? {r : Registry} {name : String} {record : StepRecord}
    (h : r.find? name = some record) : record.name = name := by
  have := List.find?_some h
  simpa using this

/-- The first definition of `a` refers to `b`. -/
def Refers (r : Registry) (a b : String) : Prop :=
  ∃ record, r.find? a = some record ∧ b ∈ record.references

/-- The names that `root` leads to: itself, and what a name among them refers to. -/
inductive Referenced (r : Registry) (root : String) : String → Prop where
  | root :
    Referenced r root root
  | step {a b} :
    Referenced r root a →
    r.Refers a b →
    Referenced r root b

/-- A path of references, at least one step long. -/
inductive LeadsTo (r : Registry) : String → String → Prop where
  | one {a b} :
    r.Refers a b →
    LeadsTo r a b
  | cons {a b c} :
    r.Refers a b →
    LeadsTo r b c →
    LeadsTo r a c

/-- What a referenced name leads to is referenced too. -/
lemma Referenced.trans {r : Registry} {root a b : String} (ha : r.Referenced root a)
    (hb : r.Referenced a b) : r.Referenced root b := by
  induction hb with
  | root => exact ha
  | step _ refers ih => exact .step ih refers

/-- A path of references keeps to the names that its start leads to. -/
lemma LeadsTo.referenced {r : Registry} {a b : String} (h : r.LeadsTo a b) :
    r.Referenced a b := by
  induction h with
  | one refers => exact .step .root refers
  | cons refers _ ih => exact (Referenced.step .root refers).trans ih

/-- A step that ends the pipeline refers to nothing. -/
lemma not_refers_of_finish {r : Registry} {a b : String} {record : StepRecord}
    (found : r.find? a = some record) (h : record.kind.isFinish = true) : ¬ r.Refers a b := by
  rintro ⟨other, same, mem⟩
  obtain rfl : record = other := by simpa [found] using same
  simp [StepRecord.references, h] at mem

end Registry

end Pipeline
