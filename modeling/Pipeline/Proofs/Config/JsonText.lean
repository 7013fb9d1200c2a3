import Pipeline.Config.OfYaml
import Pipeline.Proofs.Config.JsonFields
import Pipeline.Proofs.Yaml.JsonNode

/-!
# Configurations that are read again

A configuration that was written as JSON is read again as YAML (specification, section 11, JSON
documents). Its strings are read again one by one (`Config.mapStrings`).
-/

namespace Pipeline

open Yaml (Node Part Decode)

/-- A step entry with other strings. -/
def StepEntry.mapStrings (f : String → String) (e : StepEntry) : StepEntry :=
  { name := f e.name
    typeTag := f e.typeTag
    success := e.success.map f
    failure := e.failure.map f
    scriptName := e.scriptName.map f
    command := e.command.map f
    config := e.config.map f
    result := e.result }

/-- A configuration with other strings. -/
def Config.mapStrings (f : String → String) (c : Config) : Config :=
  { root := f c.root
    steps := c.steps.map (StepEntry.mapStrings f)
    manifest := c.manifest.map f
    stderr := c.stderr }

/-- The strings of a step entry. -/
def StepEntry.strings (e : StepEntry) : List String :=
  [e.name, e.typeTag] ++ e.success.toList ++ e.failure.toList ++ e.scriptName.toList ++
    e.command.toList ++ e.config.toList

/-- The strings of a configuration. -/
def Config.strings (c : Config) : List String :=
  c.root :: (c.steps.flatMap StepEntry.strings ++ c.manifest.toList)

/-- The nodes of items are those of each. -/
lemma Json.itemNodes_eq (f : String → String) (items : List Json.Value) :
    Json.itemNodes f items = items.map (Json.Value.toNode f) := by
  induction items with
  | nil => rfl
  | cons v vs ih => rw [Json.itemNodes, ih, List.map_cons]

namespace Yaml.Decode

/-- Entries of known names that do not come again are applied one after the other. -/
lemma entries_fieldNodes {ρ : Type} {known : List String}
    {apply : ρ → String → List Part → Node → Decode ρ} (place : List Part) (f : String → String)
    {fields : List (String × Json.Value)} (once : (fields.map Prod.fst).Nodup) {seen : List String}
    (fresh : ∀ key ∈ fields.map Prod.fst, key ∈ known ∧ key ∉ seen) (acc : ρ) :
    entries known apply place seen acc (Json.fieldNodes f fields) =
      fields.foldlM (fun acc field =>
        apply acc field.1 (place ++ [.field field.1]) (field.2.toNode f)) acc := by
  induction fields generalizing seen acc with
  | nil => rfl
  | cons field fields ih =>
    obtain ⟨key, v⟩ := field
    rw [List.map_cons, List.nodup_cons] at once
    rw [List.map_cons, List.forall_mem_cons] at fresh
    obtain ⟨⟨isKnown, unseen⟩, others⟩ := fresh
    have step : entries known apply place seen acc (Json.fieldNodes f ((key, v) :: fields)) =
        if !known.contains key then
          if (v.toNode f).isCut then broken
          else entries known apply place seen acc (Json.fieldNodes f fields)
        else if seen.contains key then refuse place (.duplicateField key)
        else apply acc key (place ++ [.field key]) (v.toNode f) >>= fun acc =>
          entries known apply place (key :: seen) acc (Json.fieldNodes f fields) := rfl
    rw [step, if_neg (by simpa using isKnown), if_neg (by simpa using unseen), List.foldlM_cons]
    refine bind_congr fun acc => ih once.2 (fun other mem => ⟨(others other mem).1, ?_⟩) acc
    rw [List.mem_cons, not_or]
    exact ⟨fun same => once.1 (same ▸ mem), (others other mem).2⟩

/-- Items are decoded one by one. -/
lemma items_map {α β : Type} {decode : List Part → Node → Decode α} {node : β → Node}
    {value : β → α} (each : ∀ x place, decode place (node x) = pure (value x)) (place : List Part)
    (index : Nat) (xs : List β) :
    items decode place index (xs.map node) = pure (xs.map value) := by
  induction xs generalizing index with
  | nil => rfl
  | cons x xs ih =>
    rw [List.map_cons, items, each, ih]
    simp

end Yaml.Decode

/-- The fields of a step entry are read one after the other. -/
lemma StepEntry.foldlM_jsonFields (f : String → String) (e : StepEntry) (place : List Part) :
    e.jsonFields.foldlM (fun (d : Draft) field =>
      d.setYaml field.1 (place ++ [.field field.1]) (field.2.toNode f)) {} =
        pure ⟨some (f e.name), some (f e.typeTag), e.success.map f, e.failure.map f,
          e.scriptName.map f, e.command.map f, e.config.map f, e.result⟩ := by
  let read (d : Draft) (fields : List (String × Json.Value)) : Decode Draft :=
    fields.foldlM (fun d field => d.setYaml field.1 (place ++ [.field field.1]) (field.2.toNode f)) d
  -- the draft after each field; one left out leaves its draft as it was
  let d₀ : Draft := { name := some (f e.name), typeTag := some (f e.typeTag) }
  let d₁ : Draft := { d₀ with success := e.success.map f }
  let d₂ : Draft := { d₁ with failure := e.failure.map f }
  let d₃ : Draft := { d₂ with scriptName := e.scriptName.map f }
  let d₄ : Draft := { d₃ with command := e.command.map f }
  let d₅ : Draft := { d₄ with config := e.config.map f }
  have start : read {} [("name", .string e.name), ("type", .string e.typeTag)] = pure d₀ := rfl
  have success : read d₀ (optionalField "success" (e.success.map .string)) = pure d₁ :=
    foldlM_optionalField (fun x => { d₀ with success := x.map f }) (fun _ => rfl) rfl _
  have failure : read d₁ (optionalField "failure" (e.failure.map .string)) = pure d₂ :=
    foldlM_optionalField (fun x => { d₁ with failure := x.map f }) (fun _ => rfl) rfl _
  have scriptName : read d₂ (optionalField "scriptName" (e.scriptName.map .string)) = pure d₃ :=
    foldlM_optionalField (fun x => { d₂ with scriptName := x.map f }) (fun _ => rfl) rfl _
  have command : read d₃ (optionalField "command" (e.command.map .string)) = pure d₄ :=
    foldlM_optionalField (fun x => { d₃ with command := x.map f }) (fun _ => rfl) rfl _
  have config : read d₄ (optionalField "config" (e.config.map .string)) = pure d₅ :=
    foldlM_optionalField (fun x => { d₄ with config := x.map f }) (fun _ => rfl) rfl _
  have result : read d₅ (optionalField "result" (e.result.map .bool)) =
      pure { d₅ with result := e.result } :=
    foldlM_optionalField (fun x => { d₅ with result := x }) (fun b => by cases b <;> rfl) rfl _
  simp only [read] at start success failure scriptName command config result
  simp only [jsonFields, List.foldlM_append, start, success, failure, scriptName, command, config,
    result, pure_bind]
  rfl

/-- A step entry that was written as JSON is read with its strings as they are read. -/
lemma StepEntry.ofYaml_toJson (f : String → String) (e : StepEntry) (place : List Part) :
    ofYaml place (e.toJson.toNode f) = pure (e.mapStrings f) := by
  have nodup : fieldNames.Nodup := by decide
  have isRecord : Decode.record "struct StepConfig" fieldNames Draft.setYaml {} place
      (.mapping none (Json.fieldNodes f e.jsonFields)) =
        Decode.entries fieldNames Draft.setYaml place [] {} (Json.fieldNodes f e.jsonFields) := rfl
  rw [ofYaml, toJson, Json.Value.toNode, isRecord,
    Decode.entries_fieldNodes place f (e.keys_jsonFields.nodup nodup) fun key mem =>
      ⟨e.keys_jsonFields.mem mem, List.not_mem_nil⟩,
    e.foldlM_jsonFields, pure_bind]
  rfl

/-- A policy that was written as JSON is read if its word stays as it is. -/
lemma StderrPolicy.ofYaml_name {f : String → String} (p : StderrPolicy) (word : f p.name = p.name)
    (place : List Part) :
    ofYaml place ((Json.Value.string p.name).toNode f) = pure p := by
  rw [Json.Value.toNode, word]
  cases p <;> rfl

/-- A configuration that was written as JSON is read with its strings as they are read. -/
lemma Config.record_toJson {f : String → String} (c : Config)
    (word : f c.stderr.name = c.stderr.name) :
    Decode.record "struct PipelineConfig" fieldNames setYaml {} [] (c.toJson.toNode f) =
      pure (c.mapStrings f) := by
  have isRecord : Decode.record "struct PipelineConfig" fieldNames setYaml {} []
      (.mapping none (Json.fieldNodes f c.jsonFields)) =
        Decode.entries fieldNames setYaml [] [] {} (Json.fieldNodes f c.jsonFields) := rfl
  have keys : c.jsonFields.map Prod.fst = fieldNames := rfl
  have root : Decode.text "a string" [.field "root"] ((Json.Value.string c.root).toNode f) =
      pure (f c.root) := rfl
  have steps : Decode.list StepEntry.ofYaml [.field "steps"]
      ((Json.Value.array (c.steps.map StepEntry.toJson)).toNode f) =
        pure (c.steps.map (StepEntry.mapStrings f)) := by
    rw [Json.Value.toNode, Json.itemNodes_eq, List.map_map]
    exact Decode.items_map (fun e place => e.ofYaml_toJson f place) _ 0 c.steps
  have manifest : Decode.option (Decode.text "path string") [.field "manifest"]
      ((c.manifest.elim Json.Value.null .string).toNode f) = pure (c.manifest.map f) := by
    cases c.manifest <;> rfl
  have stderr := c.stderr.ofYaml_name word [.field "stderr"]
  rw [toJson, Json.Value.toNode, isRecord, Decode.entries_fieldNodes [] f (keys ▸ by decide)
    (fun key mem => ⟨keys ▸ mem, List.not_mem_nil⟩)]
  simp [jsonFields, setYaml, root, steps, manifest, stderr, mapStrings]

namespace Json

variable {p : String → Bool}

lemma fieldsSimple_append (fs gs : List (String × Value)) :
    fieldsSimple (fs ++ gs) = (fieldsSimple fs && fieldsSimple gs) := by
  induction fs with
  | nil => rfl
  | cons f fs ih => simp [fieldsSimple, ih, Bool.and_assoc]

lemma fieldsAllStrings_append (fs gs : List (String × Value)) :
    fieldsAllStrings p (fs ++ gs) = (fieldsAllStrings p fs && fieldsAllStrings p gs) := by
  induction fs with
  | nil => rfl
  | cons f fs ih => simp [fieldsAllStrings, ih, Bool.and_assoc]

/-- A field that may be left out has a value that is simple, under a key that is a word. -/
lemma fieldsSimple_optionalField {α : Type} {key : String} {make : α → Value}
    (word : (Yaml.isWord key && decide (key.toList.length ≤ 100)) = true)
    (simple : ∀ x, (make x).isSimple = true) (value : Option α) :
    fieldsSimple (optionalField key (value.map make)) = true := by
  cases value with
  | none => rfl
  | some x => simp [optionalField, fieldsSimple, word, simple]

/-- A string that may be left out has a property if it is there. -/
lemma fieldsAllStrings_optionalField (key : String) (value : Option String) :
    fieldsAllStrings p (optionalField key (value.map .string)) = value.toList.all p := by
  cases value with
  | none => rfl
  | some x => simp [optionalField, fieldsAllStrings, Value.allStrings]

end Json

/-- The JSON of a step entry is simple. -/
lemma StepEntry.isSimple_toJson (e : StepEntry) : e.toJson.isSimple = true := by
  rw [toJson, Json.Value.isSimple]
  simp only [jsonFields, Json.fieldsSimple_append, Bool.and_eq_true]
  have text (key : String) (word : (Yaml.isWord key && decide (key.toList.length ≤ 100)) = true)
      (value : Option String) :
      Json.fieldsSimple (optionalField key (value.map .string)) = true :=
    Json.fieldsSimple_optionalField word (fun _ => rfl) value
  exact ⟨⟨⟨⟨⟨⟨rfl, text "success" (by decide) _⟩, text "failure" (by decide) _⟩,
    text "scriptName" (by decide) _⟩, text "command" (by decide) _⟩, text "config" (by decide) _⟩,
    Json.fieldsSimple_optionalField (by decide) (fun _ => rfl) _⟩

/-- The strings in the JSON of a step entry are those of the entry. -/
lemma StepEntry.allStrings_toJson (p : String → Bool) (e : StepEntry) :
    e.toJson.allStrings p = e.strings.all p := by
  rw [toJson, Json.Value.allStrings]
  have result : Json.fieldsAllStrings p (optionalField "result" (e.result.map .bool)) = true := by
    cases e.result <;> rfl
  simp only [jsonFields, Json.fieldsAllStrings_append, Json.fieldsAllStrings_optionalField, result,
    strings, List.all_append, Bool.and_true]
  simp [Json.fieldsAllStrings, Json.Value.allStrings]

/-- The JSON of a configuration is simple. -/
lemma Config.isSimple_toJson (c : Config) : Json.fieldsSimple c.jsonFields = true := by
  have steps : Json.allSimple (c.steps.map StepEntry.toJson) = true := by
    induction c.steps with
    | nil => rfl
    | cons e es ih => rw [List.map_cons, Json.allSimple, e.isSimple_toJson, ih]; rfl
  have manifest : (c.manifest.elim Json.Value.null .string).isSimple = true := by
    cases c.manifest <;> rfl
  have words : ∀ key ∈ fieldNames,
      Yaml.isWord key = true ∧ decide (key.toList.length ≤ 100) = true := by decide
  simp only [fieldNames, List.forall_mem_cons] at words
  simp [jsonFields, Json.fieldsSimple, Json.Value.isSimple, steps, manifest, words]

/-- The strings in the JSON of a configuration are its own and the word for its policy. -/
lemma Config.allStrings_toJson (p : String → Bool) (c : Config) :
    c.toJson.allStrings p = (c.strings.all p && p c.stderr.name) := by
  have steps : Json.itemsAllStrings p (c.steps.map StepEntry.toJson) =
      (c.steps.flatMap StepEntry.strings).all p := by
    induction c.steps with
    | nil => rfl
    | cons e es ih =>
      rw [List.map_cons, Json.itemsAllStrings, e.allStrings_toJson, ih, List.flatMap_cons,
        List.all_append]
  have manifest : (c.manifest.elim Json.Value.null .string).allStrings p = c.manifest.toList.all p := by
    cases c.manifest with
    | none => rfl
    | some path => simp [Json.Value.allStrings]
  rw [toJson, Json.Value.allStrings]
  simp [jsonFields, strings, Json.fieldsAllStrings, Json.Value.allStrings, steps, manifest,
    Bool.and_assoc]

/-- A step entry stays the same with other strings if each of its strings does. -/
lemma StepEntry.mapStrings_eq_self_iff (f : String → String) (e : StepEntry) :
    e.mapStrings f = e ↔ ∀ s ∈ e.strings, f s = s := by
  have optional (value : Option String) :
      value.map f = value ↔ ∀ s ∈ value.toList, f s = s := by
    cases value <;> simp
  obtain ⟨name, typeTag, success, failure, scriptName, command, config, result⟩ := e
  simp only [mapStrings, strings, StepEntry.mk.injEq, optional, List.forall_mem_append,
    List.forall_mem_cons, and_assoc, and_true]
  simp

/-- A configuration stays the same with other strings if each of its strings does. -/
lemma Config.mapStrings_eq_self_iff (f : String → String) (c : Config) :
    c.mapStrings f = c ↔ ∀ s ∈ c.strings, f s = s := by
  have steps (es : List StepEntry) :
      es.map (StepEntry.mapStrings f) = es ↔ ∀ s ∈ es.flatMap StepEntry.strings, f s = s := by
    induction es with
    | nil => simp
    | cons e es ih =>
      rw [List.map_cons, List.cons.injEq, e.mapStrings_eq_self_iff, ih, List.flatMap_cons,
        List.forall_mem_append]
  obtain ⟨root, entries, manifest, stderr⟩ := c
  have path : manifest.map f = manifest ↔ ∀ s ∈ manifest.toList, f s = s := by
    cases manifest <;> simp
  simp only [mapStrings, strings, Config.mk.injEq, steps, path, List.forall_mem_append,
    List.forall_mem_cons, and_true]

/-- The words for policies are read again as they are. -/
lemma StderrPolicy.reread_name (p : StderrPolicy) :
    Yaml.isShown p.name = true ∧ Yaml.reread p.name = some p.name := by
  rw [Yaml.reread_eq_some_iff]
  cases p <;> decide

/-- The JSON text of a configuration is read as a configuration if all its strings may be shown and
can be read again, and then those are the strings of what is read. -/
lemma Config.ofYaml_pretty_eq_ok_iff (c c' : Config) :
    ofYaml c.toJson.pretty = .ok c' ↔
      (∀ s ∈ c.strings, Yaml.isShown s = true ∧ Yaml.isLegible s = true) ∧
        c' = c.mapStrings Yaml.afresh := by
  obtain ⟨shown, again⟩ := c.stderr.reread_name
  have word : Yaml.afresh c.stderr.name = c.stderr.name := by rw [Yaml.afresh, again]; rfl
  have legible : Yaml.isLegible c.stderr.name = true := by rw [Yaml.isLegible, again]; rfl
  have scanned := Yaml.tokensOf_pretty c.isSimple_toJson
  rw [← toJson, c.allStrings_toJson, c.allStrings_toJson, shown, legible, Bool.and_true,
    Bool.and_true] at scanned
  have each : (c.strings.all Yaml.isShown && c.strings.all Yaml.isLegible) = true ↔
      ∀ s ∈ c.strings, Yaml.isShown s = true ∧ Yaml.isLegible s = true := by
    rw [Bool.and_eq_true, List.all_eq_true, List.all_eq_true]
    exact forall₂_and.symm
  rw [← each]
  split at scanned
  case isTrue all =>
    have document : Yaml.Document.ofText c.toJson.pretty =
        ⟨some (c.toJson.toNode Yaml.afresh), [], none, false⟩ :=
      Yaml.Document.ofText_of_tokens scanned
    have decoded : ofYaml c.toJson.pretty = .ok (c.mapStrings Yaml.afresh) := by
      rw [ofYaml, Yaml.decodeText, document]
      dsimp only
      rw [c.record_toJson word]
      rfl
    rw [decoded, Except.ok.injEq, eq_comm]
    exact (and_iff_right all).symm
  case isFalse all =>
    -- a scan that fails before the end of the text leaves no document to decode
    obtain ⟨ts, e, scanned, unended⟩ := scanned
    have fails := Yaml.decodeText_of_unended scanned unended
      (Decode.record "struct PipelineConfig" fieldNames setYaml {}) {} c'
    refine iff_of_false (fun decoded => ?_) fun h => all h.1
    unfold ofYaml at decoded
    cases read : Yaml.decodeText (Decode.record "struct PipelineConfig" fieldNames setYaml {}) {}
        c.toJson.pretty with
    | error e =>
      rw [read] at decoded
      cases decoded
    | ok x =>
      rw [read] at decoded
      cases decoded
      exact fails read

/-- The JSON text of a configuration is read as that configuration exactly when all its strings are
shown as characters that YAML allows, and stay as they are where JSON shows spacing that YAML folds:
no string has a next-line character, a line or paragraph separator before a space or the marker of a
document, or a space before a separator. -/
theorem Config.ofYaml_pretty_eq_self_iff (c : Config) :
    ofYaml c.toJson.pretty = .ok c ↔
      ∀ s ∈ c.strings, Yaml.isShown s = true ∧ Yaml.stays s.toList = true := by
  have one (s : String) : Yaml.isLegible s = true ∧ Yaml.afresh s = s ↔
      Yaml.stays s.toList = true := by
    rw [← Yaml.reread_eq_some_iff, Yaml.isLegible, Yaml.afresh]
    cases Yaml.reread s <;> simp
  rw [ofYaml_pretty_eq_ok_iff, eq_comm, mapStrings_eq_self_iff, ← forall₂_and]
  exact forall₂_congr fun s _ => by rw [and_assoc, one]

/-- The name of a root with a next-line character, which YAML can write with an escape, is read from
JSON with a space instead. -/
theorem Config.ofYaml_nextLine :
    ofYaml "root: \"a\\Nb\"" = .ok { root := "a\x85b" } ∧
      ofYaml ({ root := "a\x85b" } : Config).toJson.pretty = .ok { root := "a b" } ∧
        ({ root := "a b" } : Config) ≠ { root := "a\x85b" } :=
  ⟨by decide +kernel, by decide +kernel, by decide⟩

end Pipeline
