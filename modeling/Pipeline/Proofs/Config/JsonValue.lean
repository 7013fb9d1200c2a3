import Mathlib.Data.List.Nodup
import Mathlib.Tactic.Lemma
import Pipeline.Proofs.Config.JsonFields

/-!
# Configurations that are written and read as JSON values

A reader of JSON values takes the fields of an object in the order of their keys, whatever order
they were written in (`Json.sortedFields_eq`). So it finds in the JSON of a step entry each field
that the entry has and no other (`StepEntry.ofJson_toJson`), and the JSON of a configuration is read
as that configuration again (`Config.ofJson_toJson`).
-/

namespace Pipeline

namespace Json

/-- Fields of different keys are all collected, the last one first. -/
lemma foldl_last {fields acc : List (String × Value)} (once : (fields.map Prod.fst).Nodup)
    (fresh : ∀ f ∈ fields, ∀ g ∈ acc, g.1 ≠ f.1) :
    fields.foldl (fun acc f => f :: acc.filter fun g => g.1 != f.1) acc = fields.reverse ++ acc := by
  induction fields generalizing acc with
  | nil => rfl
  | cons f fields ih =>
    rw [List.map_cons, List.nodup_cons] at once
    have kept : acc.filter (fun g => g.1 != f.1) = acc := by
      rw [List.filter_eq_self]
      intro g mem
      simpa using fresh f (List.mem_cons_self ..) g mem
    have freshToo : ∀ other ∈ fields, ∀ g ∈ f :: acc, g.1 ≠ other.1 := by
      intro other mem g held
      rcases List.mem_cons.1 held with rfl | held
      · intro same
        exact once.1 (List.mem_map.2 ⟨other, mem, same.symm⟩)
      · exact fresh other (List.mem_cons_of_mem _ mem) g held
    rw [List.foldl_cons, kept, ih once.2 freshToo, List.reverse_cons, List.append_assoc]
    rfl

/-- The keys of sorted fields ascend. -/
lemma pairwise_sortedFields (fields : List (String × Value)) :
    (sortedFields fields).Pairwise fun a b => a.1 ≤ b.1 := by
  unfold sortedFields
  refine (List.pairwise_mergeSort (fun a b c => ?_) (fun a b => ?_) _).imp of_decide_eq_true
  · simpa using String.le_trans
  · simpa using String.le_total a.1 b.1

/-- Fields of different keys are all among the sorted ones. -/
lemma perm_sortedFields {fields : List (String × Value)} (once : (fields.map Prod.fst).Nodup) :
    (sortedFields fields).Perm fields := by
  have none : ∀ f ∈ fields, ∀ g ∈ ([] : List (String × Value)), g.1 ≠ f.1 := by simp
  rw [sortedFields, foldl_last once none, List.append_nil]
  exact (List.mergeSort_perm ..).trans (List.reverse_perm _)

/-- Sorted fields are the only arrangement of fields of different keys in which the keys ascend. -/
lemma sortedFields_eq {fields sorted : List (String × Value)} (once : (fields.map Prod.fst).Nodup)
    (members : ∀ f, f ∈ fields ↔ f ∈ sorted) (ascends : (sorted.map Prod.fst).Pairwise (· < ·)) :
    sortedFields fields = sorted := by
  have onceToo : (sorted.map Prod.fst).Nodup := ascends.imp String.ne_of_lt
  have perm : (sortedFields fields).Perm sorted :=
    (perm_sortedFields once).trans
      ((List.perm_ext_iff_of_nodup once.of_map onceToo.of_map).2 members)
  rw [List.pairwise_map] at ascends
  have sorts := ascends.imp fun lt => String.not_lt.1 (String.lt_asymm lt)
  -- two arrangements without a repeated key that both ascend are one
  refine List.Perm.eq_of_pairwise (fun a b memA memB le ge => ?_) (pairwise_sortedFields fields)
    sorts perm
  exact List.inj_on_of_nodup_map onceToo (perm.mem_iff.1 memA) memB (String.le_antisymm le ge)

/-- Items that are each read as what they were made from make a list that is. -/
lemma decodeList_map {α : Type} {decode : Value → Decoded α} {make : α → Value}
    (each : ∀ x, decode (make x) = .ok x) (xs : List α) :
    decodeList decode (.array (xs.map make)) = .ok xs := by
  show (xs.map make).mapM decode = .ok xs
  induction xs with
  | nil => rfl
  | cons x xs ih =>
    rw [List.map_cons, List.mapM_cons, each, ih]
    rfl

end Json

/-- The fields of a step entry in JSON, in the order of their keys. -/
def StepEntry.sortedJsonFields (e : StepEntry) : List (String × Json.Value) :=
  optionalField "command" (e.command.map .string) ++
    optionalField "config" (e.config.map .string) ++
    optionalField "failure" (e.failure.map .string) ++
    [("name", .string e.name)] ++
    optionalField "result" (e.result.map .bool) ++
    optionalField "scriptName" (e.scriptName.map .string) ++
    optionalField "success" (e.success.map .string) ++
    [("type", .string e.typeTag)]

/-- The keys of the fields in the order of their keys ascend. -/
lemma StepEntry.ascends_sortedJsonFields (e : StepEntry) :
    (e.sortedJsonFields.map Prod.fst).Pairwise (· < ·) := by
  have keys : (e.sortedJsonFields.map Prod.fst).Sublist
      ["command", "config", "failure", "name", "result", "scriptName", "success", "type"] := by
    simp only [sortedJsonFields, List.map_append]
    exact (((((((keys_optionalField "command" _).append (keys_optionalField "config" _)).append
      (keys_optionalField "failure" _)).append (List.Sublist.refl ["name"])).append
      (keys_optionalField "result" _)).append (keys_optionalField "scriptName" _)).append
      (keys_optionalField "success" _)).append (List.Sublist.refl ["type"])
  exact List.Pairwise.sublist keys (by decide)

/-- The reader of JSON values finds the fields of a step entry in the order of their keys. -/
lemma StepEntry.sortedFields_jsonFields (e : StepEntry) :
    Json.sortedFields e.jsonFields = e.sortedJsonFields := by
  have once : fieldNames.Nodup := by decide
  refine Json.sortedFields_eq (e.keys_jsonFields.nodup once) (fun field => ?_)
    e.ascends_sortedJsonFields
  simp only [jsonFields, sortedJsonFields, List.mem_append, List.mem_cons, List.not_mem_nil,
    or_false]
  simp only [or_assoc, or_comm, or_left_comm]

/-- The fields of a step entry in the order of their keys are read one after the other. -/
lemma StepEntry.foldlM_sortedJsonFields (e : StepEntry) :
    e.sortedJsonFields.foldlM (fun (d : Draft) field => d.setJson field.1 field.2) {} =
      .ok ⟨some e.name, some e.typeTag, e.success, e.failure, e.scriptName, e.command, e.config,
        e.result⟩ := by
  let read (d : Draft) (fields : List (String × Json.Value)) : Json.Decoded Draft :=
    fields.foldlM (fun d field => d.setJson field.1 field.2) d
  -- the draft after each field; one left out leaves its draft as it was
  let d₁ : Draft := { command := e.command }
  let d₂ : Draft := { d₁ with config := e.config }
  let d₃ : Draft := { d₂ with failure := e.failure }
  let d₄ : Draft := { d₃ with name := some e.name }
  let d₅ : Draft := { d₄ with result := e.result }
  let d₆ : Draft := { d₅ with scriptName := e.scriptName }
  let d₇ : Draft := { d₆ with success := e.success }
  have command : read {} (optionalField "command" (e.command.map .string)) = pure d₁ :=
    foldlM_optionalField (fun x : Option String => ({ command := x } : Draft)) (fun _ => rfl) rfl _
  have config : read d₁ (optionalField "config" (e.config.map .string)) = pure d₂ :=
    foldlM_optionalField (fun x => { d₁ with config := x }) (fun _ => rfl) rfl _
  have failure : read d₂ (optionalField "failure" (e.failure.map .string)) = pure d₃ :=
    foldlM_optionalField (fun x => { d₂ with failure := x }) (fun _ => rfl) rfl _
  have name : read d₃ [("name", .string e.name)] = pure d₄ := rfl
  have result : read d₄ (optionalField "result" (e.result.map .bool)) = pure d₅ :=
    foldlM_optionalField (fun x => { d₄ with result := x }) (fun _ => rfl) rfl _
  have scriptName : read d₅ (optionalField "scriptName" (e.scriptName.map .string)) = pure d₆ :=
    foldlM_optionalField (fun x => { d₅ with scriptName := x }) (fun _ => rfl) rfl _
  have success : read d₆ (optionalField "success" (e.success.map .string)) = pure d₇ :=
    foldlM_optionalField (fun x => { d₆ with success := x }) (fun _ => rfl) rfl _
  simp only [read] at command config failure name result scriptName success
  simp only [sortedJsonFields, List.foldlM_append, command, config, failure, name, result,
    scriptName, success, pure_bind]
  rfl

/-- A step entry that was written as a JSON value is read as it was. -/
lemma StepEntry.ofJson_toJson (e : StepEntry) : ofJson e.toJson = .ok e := by
  rw [toJson, ofJson, Json.decodeFields, e.sortedFields_jsonFields, e.foldlM_sortedJsonFields]
  rfl

/-- A policy that was written as a JSON value is read as it was. -/
lemma StderrPolicy.ofJson_name (p : StderrPolicy) : ofJson (.string p.name) = .ok p := by
  have read : ofName? p.name = some p := by cases p <;> decide
  rw [ofJson, read]
  rfl

/-- The reader of JSON values finds the fields of a configuration in the order of their keys. -/
lemma Config.sortedFields_jsonFields (c : Config) :
    Json.sortedFields c.jsonFields =
      [("manifest", c.manifest.elim .null .string), ("root", .string c.root),
        ("stderr", .string c.stderr.name), ("steps", .array (c.steps.map StepEntry.toJson))] := by
  refine Json.sortedFields_eq (show Config.fieldNames.Nodup by decide) (fun field => ?_)
    (show ["manifest", "root", "stderr", "steps"].Pairwise (· < ·) by decide)
  simp only [jsonFields, List.mem_cons, List.not_mem_nil, or_false]
  simp only [or_comm, or_left_comm]

/-- A configuration that was written as a JSON value is read as it was. -/
lemma Config.ofJson_toJson (c : Config) : ofJson c.toJson = .ok c := by
  have manifest : Json.decodeOption (Json.decodeText "path string")
      (c.manifest.elim .null .string) = .ok c.manifest := by
    cases c.manifest <;> rfl
  have steps := Json.decodeList_map StepEntry.ofJson_toJson c.steps
  rw [toJson, ofJson, Json.decodeFields, c.sortedFields_jsonFields]
  simp [setJson, manifest, steps, c.stderr.ofJson_name, Json.decodeText, Except.map, bind,
    Except.bind, pure, Except.pure]

/-- Every configuration is read again from the JSON value that it is written as, whichever of its
optional fields it has. So whatever JSON value a configuration was first read from, with fields of
other names, null for what is absent or arrays in place of objects, writing it loses nothing of what
was read. -/
theorem Config.toJson_decodes :
    (∀ c : Config, ofJson c.toJson = .ok c) ∧
      ∀ v c, ofJson v = .ok c → ofJson c.toJson = .ok c :=
  ⟨ofJson_toJson, fun _ c _ => c.ofJson_toJson⟩

/-- A configuration from an array with a step entry that is an array, one with a field of another
name and nulls, no manifest, and a policy that is an object. -/
theorem Config.toJson_decodes_array :
    let first : Json.Value := .array [.string "a", .string "Test", .null, .string "b"]
    let second : Json.Value := .object [("type", .string "End"), ("note", .null),
      ("result", .bool false), ("name", .string "b"), ("command", .null)]
    let v : Json.Value :=
      .array [.string "a", .array [first, second], .null, .object [("ignore", .null)]]
    let c : Config :=
      { root := "a"
        steps :=
          [{ name := "a", typeTag := "Test", failure := some "b" },
            { name := "b", typeTag := "End", result := some false }]
        stderr := .ignore }
    ofJson v = .ok c ∧ ofJson c.toJson = .ok c := by
  intro first second v c
  have fields : Json.sortedFields [("type", .string "End"), ("note", .null),
      ("result", .bool false), ("name", .string "b"), ("command", .null)] =
        [("command", .null), ("name", .string "b"), ("note", .null), ("result", .bool false),
          ("type", .string "End")] := by
    refine Json.sortedFields_eq (by decide) (fun field => ?_) (by decide)
    simp only [List.mem_cons, List.not_mem_nil, or_false]
    simp only [or_assoc, or_comm, or_left_comm]
  have word : Json.sortedFields [("ignore", .null)] = [("ignore", .null)] :=
    Json.sortedFields_eq (by decide) (fun _ => Iff.rfl) (by decide)
  have entry : StepEntry.ofJson second =
      .ok { name := "b", typeTag := "End", result := some false } := by
    show StepEntry.ofJson (.object _) = _
    rw [StepEntry.ofJson, Json.decodeFields, fields]
    rfl
  have policy : StderrPolicy.ofJson (.object [("ignore", .null)]) = .ok .ignore := by
    rw [StderrPolicy.ofJson, word]
    rfl
  have steps : Json.decodeList StepEntry.ofJson (.array [first, second]) = .ok c.steps := by
    show [first, second].mapM StepEntry.ofJson = _
    rw [List.mapM_cons, List.mapM_cons, entry]
    rfl
  have read : ofJson v = .ok c := by
    simp only [v, ofJson, Json.decodeItems, fieldNames, setJson, steps, policy]
    rfl
  exact ⟨read, toJson_decodes.2 v c read⟩

end Pipeline
