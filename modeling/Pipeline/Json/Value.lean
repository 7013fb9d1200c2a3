import Pipeline.Mismatch

/-!
# JSON values

Numbers are whole or double precision; the fields of an object keep their order.
-/

namespace Pipeline.Json

/-- A JSON number. -/
inductive Number where
  | integer (n : Int)
  | float (x : Pipeline.Number.Signed64)
  deriving DecidableEq, Repr

/-- A JSON value. -/
inductive Value where
  | null
  | bool (b : Bool)
  | number (n : Number)
  | string (s : String)
  | array (items : List Value)
  | object (fields : List (String × Value))
  deriving Repr, Inhabited

/-- What a number is, for a message. -/
def Number.found : Number → Found
  | .integer n => .integer n
  | .float x => .float x

/-- What a value is, for a message. -/
def Value.found : Value → Found
  | .null => .nothing
  | .bool b => .bool b
  | .number n => n.found
  | .string s => .text s
  | .array _ => .sequence
  | .object _ => .map

/-- JSON writes numbers with an exponent outside of `1e-5` to `1e16`. -/
def foundStyle : Found.Style where
  nothing := "null"
  float := Pipeline.Number.Layout.render ⟨-5, 16⟩

/-- The value of the last field named `key`. -/
def lookup? (fields : List (String × Value)) (key : String) : Option Value :=
  (fields.reverse.find? fun f => f.1 == key).map Prod.snd

end Pipeline.Json
