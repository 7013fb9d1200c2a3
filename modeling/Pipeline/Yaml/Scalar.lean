import Pipeline.Text.Digit
import Pipeline.Yaml.Node

/-!
# What scalars stand for

A plain scalar without a tag stands for nothing, a truth value, a number or itself, and a tag of the
core schema says which of these it has to be. All other scalars stand for themselves.
-/

namespace Pipeline.Yaml

/-- Whether the text is a word for nothing. -/
def isNullWord (text : String) : Bool :=
  text == "null" || text == "Null" || text == "NULL" || text == "~"

/-- The truth value of a word. -/
def boolWord? (text : String) : Option Bool :=
  if text = "true" ∨ text = "True" ∨ text = "TRUE" then some true
  else if text = "false" ∨ text = "False" ∨ text = "FALSE" then some false
  else none

/-- The value of a whole number without a sign: a letter after a zero tells the base. -/
def wholeValue? (cs : List Char) : Option Nat :=
  match cs with
  | '0' :: 'x' :: rest => Text.natIn? 16 rest
  | '0' :: 'o' :: rest => Text.natIn? 8 rest
  | '0' :: 'b' :: rest => Text.natIn? 2 rest
  | _ => Text.natIn? 10 cs

/-- A number without its sign. -/
def dropSign (cs : List Char) : List Char :=
  match cs with
  | '+' :: rest => rest
  | '-' :: rest => rest
  | _ => cs

/-- Whether the text is digits after a leading zero, which makes no number. -/
def hasLeadingZero (cs : List Char) : Bool :=
  match dropSign cs with
  | '0' :: c :: rest => (c :: rest).all Char.isDigit
  | _ => false

/-- The whole number of a text, if it fits into 128 bits. -/
def integerFound? (cs : List Char) : Option Found :=
  if hasLeadingZero cs then none
  else
    match cs with
    | '-' :: rest =>
      (wholeValue? rest).bind fun n =>
        if n ≤ Nat.pow 2 63 then some (.integer (-n))
        else if n ≤ Nat.pow 2 127 then some (.wideInteger (-n) "i128")
        else none
    | _ =>
      (wholeValue? (match cs with | '+' :: rest => rest | _ => cs)).bind fun n =>
        if n < Nat.pow 2 64 then some (.integer n)
        else if n < Nat.pow 2 128 then some (.wideInteger n "u128")
        else none

/-- The exponent of a decimal, or zero if nothing is left. -/
def exponentValue? (cs : List Char) : Option Int :=
  match cs with
  | [] => some 0
  | c :: rest =>
    if c = 'e' ∨ c = 'E' then
      match rest with
      | '-' :: ds => (Text.natIn? 10 ds).map fun n => -n
      | '+' :: ds => (Text.natIn? 10 ds).map Int.ofNat
      | ds => (Text.natIn? 10 ds).map Int.ofNat
    else none

/-- The magnitude `digits * 10 ^ power`, if it is finite. -/
def scaleDecimal? (digits : Nat) (power : Int) : Option Number.Binary64 :=
  let width : Int := (toString digits).length
  if digits = 0 ∨ width + power < -400 then some .zero
  else if 400 < width + power then none
  else if 0 ≤ power then Number.Binary64.ofRatio? (digits * Nat.pow 10 power.toNat) 1
  else Number.Binary64.ofRatio? digits (Nat.pow 10 (-power).toNat)

/-- The magnitude of a decimal without a sign, nearest in double precision. -/
def decimalValue? (cs : List Char) : Option Number.Binary64 := do
  let whole := cs.takeWhile Char.isDigit
  let rest := cs.dropWhile Char.isDigit
  let (fraction, rest) :=
    match rest with
    | '.' :: rest => (rest.takeWhile Char.isDigit, rest.dropWhile Char.isDigit)
    | _ => ([], rest)
  let digits ← Text.natIn? 10 (whole ++ fraction)
  let exponent ← exponentValue? rest
  scaleDecimal? digits (exponent - fraction.length)

/-- The number of a text that is a decimal or a word for what is no finite number. -/
def floatFound? (cs : List Char) : Option Found :=
  let text := String.ofList cs
  let signed (negative : Bool) (rest : List Char) : Option Found :=
    (decimalValue? rest).map fun x => .float ⟨negative, x⟩
  if text = ".nan" ∨ text = ".NaN" ∨ text = ".NAN" then some .notANumber
  else if text = "-.inf" ∨ text = "-.Inf" ∨ text = "-.INF" then some (.infinite true)
  else
    let positive := match cs with | '+' :: rest => rest | _ => cs
    let word := String.ofList positive
    if word = ".inf" ∨ word = ".Inf" ∨ word = ".INF" then some (.infinite false)
    else
      match cs with
      | '-' :: rest => signed true rest
      | _ => signed false positive

/-- What a plain text without a tag stands for. -/
def plainFound (text : String) : Found :=
  if text.isEmpty ∨ isNullWord text then .nothing
  else
    match boolWord? text with
    | some b => .bool b
    | none =>
      let cs := text.toList
      match integerFound? cs with
      | some found => found
      | none =>
        if hasLeadingZero cs then .text text else (floatFound? cs).getD (.text text)

namespace Scalar

/-- Whether the scalar is plain and has nothing in it. -/
def isVoid (s : Scalar) : Bool :=
  s.text.isEmpty && s.style == .plain

/-- The mismatch of a scalar where `expected` is wanted. A scalar that is not what its tag says is
itself the matter. -/
def mismatch (expected : String) (s : Scalar) : Mismatch :=
  let refuse (found : Found) : Mismatch := .invalidType found expected
  let wrongTag (what : String) : Mismatch := .invalidValue (.text s.text) what
  match s.tag with
  | none => refuse (if s.style = .plain then plainFound s.text else .text s.text)
  | some tag =>
    if tag = Tag.core "bool" then (boolWord? s.text).elim (wrongTag "a boolean") (refuse <| .bool ·)
    else if tag = Tag.core "int" then
      (integerFound? s.text.toList).elim (wrongTag "an integer") refuse
    else if tag = Tag.core "float" then
      (floatFound? s.text.toList).elim (wrongTag "a float") refuse
    else if tag = Tag.core "null" then
      if isNullWord s.text then refuse .nothing else wrongTag "null"
    else if tag.isLocal ∧ s.style = .plain then refuse (plainFound s.text)
    else refuse (.text s.text)

end Scalar

end Pipeline.Yaml
