import Pipeline.Config.Error
import Pipeline.Config.OfJson
import Pipeline.Yaml.Decode

/-!
# Configurations from YAML texts

A configuration and a step entry are read from mappings in the order of their entries
(specification, section 11). Fields of other names are ignored, and a field that comes twice is
refused.
-/

namespace Pipeline

open Yaml (Node Part Decode)

namespace StderrPolicy

/-- The policy of a tag, which is reported at `owner` when there is none. -/
def ofTag (owner : List Part) (word : String) : Decode StderrPolicy :=
  match ofName? word with
  | some p => return p
  | none => Decode.refuse owner (.unknownVariant word names)

/-- A policy: its word, or its word as a tag with nothing behind it. -/
def ofYaml (place : List Part) (n : Node) : Decode StderrPolicy := do
  let owner := Decode.tagPlace place n
  match ← Decode.resolve n with
  | .scalar s =>
    match s.tag.bind Yaml.Tag.localWord? with
    | none =>
      match ofName? s.text with
      | some p => return p
      | none => Decode.refuse place (.unknownVariant s.text names)
    | some word =>
      let p ← ofTag owner word
      if s.style = .plain ∧ (s.text.isEmpty ∨ Yaml.isNullWord s.text) then return p
      else Decode.refuse place (.invalidValue (.text s.text) "null")
  | .sequence tag _ => collection owner tag .sequence
  | .mapping tag _ => collection owner tag .map
  | _ => Decode.broken
where
  /-- A collection is no policy, whatever its tag. -/
  collection (owner : List Part) (tag : Option Yaml.Tag) (found : Found) :
      Decode StderrPolicy := do
    match tag.bind Yaml.Tag.localWord? with
    | none => Decode.refuse place (.invalidType found "a YAML tag starting with '!'")
    | some word =>
      let _ ← ofTag owner word
      Decode.refuse place (.invalidType found "unit")

end StderrPolicy

namespace StepEntry

/-- The draft with one more field read. -/
def Draft.setYaml (d : Draft) (key : String) (place : List Part) (n : Node) : Decode Draft := do
  let text := Decode.text "a string"
  if key = "name" then return { d with name := some (← text place n) }
  else if key = "type" then return { d with typeTag := some (← text place n) }
  else if key = "success" then return { d with success := ← Decode.option text place n }
  else if key = "failure" then return { d with failure := ← Decode.option text place n }
  else if key = "scriptName" then return { d with scriptName := ← Decode.option text place n }
  else if key = "command" then return { d with command := ← Decode.option text place n }
  else if key = "config" then return { d with config := ← Decode.option text place n }
  else if key = "result" then return { d with result := ← Decode.option Decode.bool place n }
  else return d

/-- A step entry from a mapping. -/
def ofYaml (place : List Part) (n : Node) : Decode StepEntry := do
  let d ← Decode.record "struct StepConfig" fieldNames Draft.setYaml {} place n
  match d.finish fun _ name => .missingField name with
  | .ok e => return e
  | .error m => Decode.refuse place m

end StepEntry

namespace Config

/-- The configuration with one more field read. -/
def setYaml (c : Config) (key : String) (place : List Part) (n : Node) : Decode Config := do
  if key = "root" then return { c with root := ← Decode.text "a string" place n }
  else if key = "steps" then return { c with steps := ← Decode.list StepEntry.ofYaml place n }
  else if key = "manifest" then
    return { c with manifest := ← Decode.option (Decode.text "path string") place n }
  else if key = "stderr" then return { c with stderr := ← StderrPolicy.ofYaml place n }
  else return c

/-- The configuration of a text; a text with nothing in it is an empty configuration. -/
def ofYaml (text : String) : Except ConfigError Config :=
  (Yaml.decodeText (Decode.record "struct PipelineConfig" fieldNames setYaml {}) {} text).mapError
    .unparsable

end Config

end Pipeline
