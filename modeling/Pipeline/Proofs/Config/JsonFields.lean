import Mathlib.Tactic.Lemma
import Pipeline.Config.OfJson
import Pipeline.Config.ToJson

/-!
# The fields of configurations in JSON

A configuration has all its fields in JSON. A step entry has those that are present, in the order of
their declaration (`StepEntry.keys_jsonFields`), and none of them comes twice.
-/

namespace Pipeline

/-- A field that may be left out is applied if it is there. -/
lemma foldlM_optionalField {ρ α : Type} {m : Type → Type} [Monad m] [LawfulMonad m]
    {step : ρ → String × Json.Value → m ρ} {acc : ρ} {key : String} {make : α → Json.Value}
    (set : Option α → ρ) (present : ∀ x, step acc (key, make x) = pure (set (some x)))
    (absent : set none = acc) (value : Option α) :
    (optionalField key (value.map make)).foldlM step acc = pure (set value) := by
  cases value with
  | none => rw [absent]; rfl
  | some x =>
    show (step acc (key, make x) >>= pure) = _
    rw [bind_pure, present]

/-- A field that may be left out has no other key. -/
lemma keys_optionalField (key : String) (value : Option Json.Value) :
    ((optionalField key value).map Prod.fst).Sublist [key] := by
  cases value with
  | none => exact List.nil_sublist _
  | some v => exact List.Sublist.refl _

/-- The keys of a step entry come in the order of their declaration. -/
lemma StepEntry.keys_jsonFields (e : StepEntry) :
    (e.jsonFields.map Prod.fst).Sublist fieldNames := by
  simp only [jsonFields, List.map_append]
  exact ((((((List.Sublist.refl ["name", "type"]).append (keys_optionalField "success" _)).append
    (keys_optionalField "failure" _)).append (keys_optionalField "scriptName" _)).append
    (keys_optionalField "command" _)).append (keys_optionalField "config" _)).append
    (keys_optionalField "result" _)

end Pipeline
