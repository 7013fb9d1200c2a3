import Pipeline.Config
import Pipeline.Json.Value

/-!
# Configurations from JSON values

A configuration and a step entry are read from an object, whose fields are taken in the order of
their keys, or from an array with the fields in the order of their declaration. Fields of other
names are ignored, and of fields with one name the last counts. The first thing that is wrong is
reported.
-/

namespace Pipeline

open Json (Value)

namespace Json

/-- The result of reading a value, or why it is not what is wanted. -/
abbrev Decoded := Except Mismatch

/-- The refusal of a value of another type. -/
def refuse {α : Type} (v : Value) (expected : String) : Decoded α :=
  .error (.invalidType v.found expected)

/-- A text, called `expected` in a refusal. -/
def decodeText (expected : String) : Value → Decoded String
  | .string s => .ok s
  | v => refuse v expected

/-- A truth value. -/
def decodeBool : Value → Decoded Bool
  | .bool b => .ok b
  | v => refuse v "a boolean"

/-- A value that null leaves out. -/
def decodeOption {α : Type} (decode : Value → Decoded α) : Value → Decoded (Option α)
  | .null => .ok none
  | v => (decode v).map some

/-- The items of an array. -/
def decodeList {α : Type} (decode : Value → Decoded α) : Value → Decoded (List α)
  | .array items => items.mapM decode
  | v => refuse v "a sequence"

/-- The fields in the order of their keys, the last of each key. -/
def sortedFields (fields : List (String × Value)) : List (String × Value) :=
  (fields.foldl (fun acc f => f :: acc.filter fun g => g.1 != f.1) []).mergeSort
    fun a b => decide (a.1 ≤ b.1)

/-- The object's fields applied to a record one after the other. -/
def decodeFields {α : Type} (apply : α → String → Value → Decoded α) (start : α)
    (fields : List (String × Value)) : Decoded α :=
  (sortedFields fields).foldlM (fun acc f => apply acc f.1 f.2) start

/-- The array's items applied to a record, under the names of the fields they stand for. -/
def decodeItems {α : Type} (apply : α → String → Value → Decoded α) :
    List String → α → List Value → Decoded (α × List Value)
  | [], acc, items => .ok (acc, items)
  | _ :: _, acc, [] => .ok (acc, [])
  | name :: names, acc, item :: items => do
    let acc ← apply acc name item
    decodeItems apply names acc items

end Json

/-- A policy: its word, or an object with its word as the only key and null as its value. -/
def StderrPolicy.ofJson : Value → Json.Decoded StderrPolicy
  | .string name =>
    (ofName? name).elim (.error (.unknownVariant name names)) .ok
  | .object fields =>
    match Json.sortedFields fields with
    | [(name, v)] =>
      match ofName? name with
      | none => .error (.unknownVariant name names)
      | some p =>
        match v with
        | .null => .ok p
        | v => Json.refuse v "unit"
    | _ => .error (.invalidValue .map "map with a single key")
  | v => Json.refuse v "string or map"

namespace StepEntry

/-- A step entry some of whose fields are read. -/
structure Draft where
  name : Option String := none
  typeTag : Option String := none
  success : Option String := none
  failure : Option String := none
  scriptName : Option String := none
  command : Option String := none
  config : Option String := none
  result : Option Bool := none

/-- The names of the fields in the order of their declaration. -/
def fieldNames : List String :=
  ["name", "type", "success", "failure", "scriptName", "command", "config", "result"]

/-- The draft with one more field read. -/
def Draft.setJson (d : Draft) (key : String) (v : Value) : Json.Decoded Draft :=
  let text := Json.decodeText "a string"
  if key = "name" then (text v).map fun x => { d with name := some x }
  else if key = "type" then (text v).map fun x => { d with typeTag := some x }
  else if key = "success" then (Json.decodeOption text v).map fun x => { d with success := x }
  else if key = "failure" then (Json.decodeOption text v).map fun x => { d with failure := x }
  else if key = "scriptName" then
    (Json.decodeOption text v).map fun x => { d with scriptName := x }
  else if key = "command" then (Json.decodeOption text v).map fun x => { d with command := x }
  else if key = "config" then (Json.decodeOption text v).map fun x => { d with config := x }
  else if key = "result" then
    (Json.decodeOption Json.decodeBool v).map fun x => { d with result := x }
  else .ok d

/-- The entry of a draft that has a name and a type; `missing` says what to report otherwise. -/
def Draft.finish (d : Draft) (missing : Nat → String → Mismatch) : Json.Decoded StepEntry :=
  match d.name, d.typeTag with
  | none, _ => .error (missing 0 "name")
  | some _, none => .error (missing 1 "type")
  | some name, some typeTag =>
    .ok ⟨name, typeTag, d.success, d.failure, d.scriptName, d.command, d.config, d.result⟩

/-- A step entry from an object or an array. -/
def ofJson : Value → Json.Decoded StepEntry
  | .object fields => do
    let d ← Json.decodeFields Draft.setJson {} fields
    d.finish fun _ name => .missingField name
  | .array items => do
    let (d, left) ← Json.decodeItems Draft.setJson fieldNames {} items
    let e ← d.finish fun n _ => .invalidLength n "struct StepConfig with 8 elements"
    if left.isEmpty then .ok e
    else .error (.invalidLength items.length "fewer elements in array")
  | v => Json.refuse v "struct StepConfig"

end StepEntry

namespace Config

/-- The names of the fields in the order of their declaration. -/
def fieldNames : List String := ["root", "steps", "manifest", "stderr"]

/-- The configuration with one more field read. -/
def setJson (c : Config) (key : String) (v : Value) : Json.Decoded Config :=
  if key = "root" then (Json.decodeText "a string" v).map fun x => { c with root := x }
  else if key = "steps" then
    (Json.decodeList StepEntry.ofJson v).map fun x => { c with steps := x }
  else if key = "manifest" then
    (Json.decodeOption (Json.decodeText "path string") v).map fun x => { c with manifest := x }
  else if key = "stderr" then (StderrPolicy.ofJson v).map fun x => { c with stderr := x }
  else .ok c

/-- A configuration from an object or an array. -/
def ofJson : Value → Json.Decoded Config
  | .object fields => Json.decodeFields setJson {} fields
  | .array items => do
    let (c, left) ← Json.decodeItems setJson fieldNames {} items
    if left.isEmpty then .ok c
    else .error (.invalidLength items.length "fewer elements in array")
  | v => Json.refuse v "struct PipelineConfig"

end Config

end Pipeline
