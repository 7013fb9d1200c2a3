import Mathlib.Data.Fintype.Card
import Mathlib.Data.Set.Finite.Basic
import Mathlib.Tactic.Lemma
import Pipeline.Step.Reference

/-!
# Grounded names

A name is grounded when it has a definition and all that the definition refers to is grounded. So a
grounded name leads to definitions only (`Grounded.defined`) and never back to itself
(`Grounded.not_leadsTo`). As a registry has finitely many records, nothing else is needed for a name
to be grounded (`grounded_iff`).
-/

namespace Pipeline.Registry

/-- A name whose references, followed as long as one likes, always come to an end. -/
inductive Grounded (r : Registry) : String → Prop where
  | intro {name record} :
    r.find? name = some record →
    (∀ b ∈ record.references, Grounded r b) →
    Grounded r name

/-- Paths of references can be joined. -/
lemma LeadsTo.trans {r : Registry} {a b c : String} (hab : r.LeadsTo a b)
    (hbc : r.LeadsTo b c) : r.LeadsTo a c := by
  induction hab with
  | one refers => exact .cons refers hbc
  | cons refers _ ih => exact .cons refers (ih hbc)

/-- A chain of references with one more at its end is a path. -/
lemma Referenced.leadsTo {r : Registry} {a b c : String} (hab : r.Referenced a b)
    (hbc : r.Refers b c) : r.LeadsTo a c := by
  induction hab generalizing c with
  | root => exact .one hbc
  | step _ refers ih => exact (ih refers).trans (.one hbc)

/-- A path starts with a reference. -/
lemma LeadsTo.first {r : Registry} {a b : String} (h : r.LeadsTo a b) :
    ∃ c, r.Refers a c ∧ r.Referenced c b := by
  cases h with
  | one refers => exact ⟨b, refers, .root⟩
  | cons refers rest => exact ⟨_, refers, rest.referenced⟩

/-- A grounded name has a definition. -/
lemma Grounded.defined {r : Registry} {name : String} (h : r.Grounded name) :
    ∃ record, r.find? name = some record := by
  cases h with
  | intro found _ => exact ⟨_, found⟩

/-- A step that ends the pipeline is grounded, since it refers to nothing. -/
lemma Grounded.of_finish {r : Registry} {name : String} {record : StepRecord}
    (found : r.find? name = some record) (h : record.kind.isFinish = true) : r.Grounded name :=
  .intro found fun _ mem => absurd ⟨record, found, mem⟩ (not_refers_of_finish found h)

/-- A grounded name refers to grounded names only. -/
lemma Grounded.refers {r : Registry} {a b : String} (h : r.Grounded a) (hab : r.Refers a b) :
    r.Grounded b := by
  cases h with
  | intro found grounded =>
    obtain ⟨record, same, mem⟩ := hab
    obtain rfl : _ = record := Option.some.inj (found.symm.trans same)
    exact grounded b mem

/-- A grounded name leads to grounded names only. -/
lemma Grounded.referenced {r : Registry} {a b : String} (h : r.Grounded a)
    (hab : r.Referenced a b) : r.Grounded b := by
  induction hab with
  | root => exact h
  | step _ refers ih => exact ih.refers refers

/-- What holds of a name once it holds of all that the name refers to, holds of grounded names. -/
@[elab_as_elim]
lemma Grounded.descend {r : Registry} {motive : (a : String) → r.Grounded a → Prop}
    (step : ∀ a (h : r.Grounded a),
      (∀ b (refers : r.Refers a b), motive b (h.refers refers)) → motive a h)
    {a : String} (h : r.Grounded a) : motive a h := by
  induction h with
  | @intro name record found grounded ih =>
    apply step
    rintro b ⟨other, same, mem⟩
    obtain rfl : record = other := Option.some.inj (found.symm.trans same)
    exact ih b mem

/-- No path of references leads from a grounded name back to it. -/
lemma Grounded.not_leadsTo {r : Registry} {a : String} (h : r.Grounded a) : ¬ r.LeadsTo a a := by
  induction h using Grounded.descend with
  | step name _ ih =>
    intro cycle
    obtain ⟨b, refers, back⟩ := cycle.first
    -- the cycle can be entered at `b` as well
    exact ih b refers (back.leadsTo refers)

/-- A name is grounded when the names it refers to are. -/
lemma Grounded.of_refers {r : Registry} {a : String} (defined : (r.find? a).isSome)
    (h : ∀ b, r.Refers a b → r.Grounded b) : r.Grounded a := by
  obtain ⟨record, found⟩ := Option.isSome_iff_exists.1 defined
  exact .intro found fun b mem => h b ⟨record, found, mem⟩

/-- Names with definitions are finitely many. -/
lemma finite_of_defined {r : Registry} {p : String → Prop}
    (defined : ∀ name, p name → (r.find? name).isSome) : Finite {name // p name} := by
  have sub : {name | p name} ⊆ {name | name ∈ r.records.map StepRecord.name} := by
    intro name hp
    obtain ⟨record, found⟩ := Option.isSome_iff_exists.1 (defined name hp)
    exact List.mem_map.2 ⟨record, mem_of_find? found, name_of_find? found⟩
  exact (List.finite_toSet _).subset sub

/-- Definitions all along and no cycle are enough for a name to be grounded. -/
lemma grounded_of_acyclic {r : Registry} {root : String}
    (defined : ∀ name, r.Referenced root name → (r.find? name).isSome)
    (acyclic : ∀ name, r.Referenced root name → ¬ r.LeadsTo name name) : r.Grounded root := by
  have := finite_of_defined defined
  let below : {name // r.Referenced root name} → {name // r.Referenced root name} → Prop :=
    fun b a => r.LeadsTo a.1 b.1
  have : IsTrans _ below := ⟨fun _ _ _ hab hbc => hbc.trans hab⟩
  have : Std.Irrefl below := ⟨fun a => acyclic a.1 a.2⟩
  -- being led to is an order without cycles on finitely many names, so it can be descended
  have wf : WellFounded below := Finite.wellFounded_of_trans_of_irrefl below
  suffices h : ∀ a : {name // r.Referenced root name}, r.Grounded a.1 from h ⟨root, .root⟩
  intro a
  induction a using wf.induction with
  | h a ih =>
    apply Grounded.of_refers (defined a.1 a.2)
    intro b refers
    exact ih ⟨b, .step a.2 refers⟩ (.one refers)

/-- A name is grounded when all names it leads to have definitions and none is on a cycle. -/
lemma grounded_iff {r : Registry} {root : String} :
    r.Grounded root ↔
      (∀ name, r.Referenced root name → (r.find? name).isSome) ∧
      ∀ name, r.Referenced root name → ¬ r.LeadsTo name name := by
  constructor
  · intro h
    refine ⟨fun name ref => ?_, fun name ref => (h.referenced ref).not_leadsTo⟩
    obtain ⟨record, found⟩ := (h.referenced ref).defined
    simp [found]
  · rintro ⟨defined, acyclic⟩
    exact grounded_of_acyclic defined acyclic

end Pipeline.Registry
