import Pipeline.Config
import Pipeline.Json.Printer

/-!
# Configurations as JSON values

What `validate --json` shows of a configuration (specification, section 15): all four fields are
written, an absent manifest as null; a step entry has its name and type and those optional fields
that are present.
-/

namespace Pipeline

/-- A field that is left out when there is no value. -/
def optionalField (key : String) (value : Option Json.Value) : List (String × Json.Value) :=
  match value with
  | none => []
  | some v => [(key, v)]

/-- The fields of a step entry in JSON. -/
def StepEntry.jsonFields (e : StepEntry) : List (String × Json.Value) :=
  [("name", .string e.name), ("type", .string e.typeTag)] ++
    optionalField "success" (e.success.map .string) ++
    optionalField "failure" (e.failure.map .string) ++
    optionalField "scriptName" (e.scriptName.map .string) ++
    optionalField "command" (e.command.map .string) ++
    optionalField "config" (e.config.map .string) ++
    optionalField "result" (e.result.map .bool)

/-- A step entry as a JSON object. -/
def StepEntry.toJson (e : StepEntry) : Json.Value :=
  .object e.jsonFields

/-- The fields of a configuration in JSON. -/
def Config.jsonFields (c : Config) : List (String × Json.Value) :=
  [("root", .string c.root), ("steps", .array (c.steps.map StepEntry.toJson)),
    ("manifest", c.manifest.elim .null .string), ("stderr", .string c.stderr.name)]

/-- A configuration as a JSON object. -/
def Config.toJson (c : Config) : Json.Value :=
  .object c.jsonFields

end Pipeline
