import Pipeline.Text.Escaped
import Pipeline.Number.Layout

/-!
# Mismatches

Why a value does not have the shape that is wanted. A format of texts decides two spellings: how it
calls the value that is nothing, and how it writes a number that is not whole.
-/

namespace Pipeline

/-- What stands where something else is wanted. -/
inductive Found where
  | bool (b : Bool)
  | integer (n : Int)
  /-- A whole number wider than a machine word, with the name of the width it needs. -/
  | wideInteger (n : Int) (width : String)
  | float (x : Number.Signed64)
  | infinite (negative : Bool)
  | notANumber
  | text (s : String)
  | sequence
  | map
  | nothing
  deriving DecidableEq, Repr

/-- How a format names what it finds. -/
structure Found.Style where
  nothing : String
  float : Number.Decimal → String

/-- The description of what was found. -/
def Found.describe (style : Found.Style) : Found → String
  | .bool b => "boolean `" ++ toString b ++ "`"
  | .integer n => "integer `" ++ toString n ++ "`"
  | .wideInteger n width => "integer `" ++ toString n ++ "` as " ++ width
  | .float x => "floating point `" ++ x.render style.float ++ "`"
  | .infinite negative => "floating point `" ++ (if negative then "-inf" else "inf") ++ "`"
  | .notANumber => "floating point `NaN`"
  | .text s => "string " ++ Text.quoted s
  | .sequence => "sequence"
  | .map => "map"
  | .nothing => style.nothing

/-- The ways in which a value can fail to be what is wanted. -/
inductive Mismatch where
  | invalidType (found : Found) (expected : String)
  | invalidValue (found : Found) (expected : String)
  | invalidLength (length : Nat) (expected : String)
  | missingField (name : String)
  | duplicateField (name : String)
  | unknownVariant (name : String) (options : List String)
  deriving DecidableEq, Repr

/-- Names between backquotes, as a choice. -/
def describeOptions : List String → String
  | [] => "there are no variants"
  | [a] => "expected `" ++ a ++ "`"
  | [a, b] => "expected `" ++ a ++ "` or `" ++ b ++ "`"
  | names => "expected one of " ++ String.intercalate ", " (names.map fun n => "`" ++ n ++ "`")

/-- The text of a mismatch. -/
def Mismatch.message (style : Found.Style) : Mismatch → String
  | .invalidType found expected =>
    "invalid type: " ++ found.describe style ++ ", expected " ++ expected
  | .invalidValue found expected =>
    "invalid value: " ++ found.describe style ++ ", expected " ++ expected
  | .invalidLength length expected =>
    "invalid length " ++ toString length ++ ", expected " ++ expected
  | .missingField name => "missing field `" ++ name ++ "`"
  | .duplicateField name => "duplicate field `" ++ name ++ "`"
  | .unknownVariant name options => "unknown variant `" ++ name ++ "`, " ++ describeOptions options

end Pipeline
