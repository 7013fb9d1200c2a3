import Pipeline.Number.Layout

/-!
# Numbers to a given precision

Three ways to write a magnitude with as many digits as asked for: with a fixed number of places,
with one digit before the point and an exponent, and whichever of the two suits the size of the
number. Each rounds the exact value once, a half to the even digit.
-/

namespace Pipeline.Number

/-- A number in double precision, or what is no finite number. -/
inductive Floating where
  | finite (x : Signed64)
  | infinite (negative : Bool)
  | notANumber (negative : Bool)
  deriving DecidableEq, Repr

namespace Floating

/-- The number zero. -/
def zero : Floating := .finite ⟨false, .zero⟩

/-- Whether the sign is set. -/
def isNegative : Floating → Bool
  | .finite x => x.negative
  | .infinite negative => negative
  | .notANumber negative => negative

/-- The number of a ratio with a sign, infinite if it is too great. -/
def ofRatio (negative : Bool) (n d : Nat) : Floating :=
  (Binary64.ofRatio? n d).elim (.infinite negative) fun x => .finite ⟨negative, x⟩

end Floating

/-- The digits of a whole number, at least `least` of them. -/
def paddedDigits (n least : Nat) : String :=
  let text := toString n
  zeros (least - text.length) ++ text

/-- The digits with a point before the last `places` of them; a point with nothing after it is there
only if it is `kept`. -/
def withPoint (digits : Nat) (places : Nat) (kept : Bool) : String :=
  let cs := (paddedDigits digits (places + 1)).toList
  String.ofList (cs.take (cs.length - places)) ++
    (if places = 0 ∧ !kept then "" else ".") ++ String.ofList (cs.drop (cs.length - places))

/-- The ratio `n / d` with a number of places. -/
def fixedText (n d places : Nat) (kept : Bool) : String :=
  withPoint (Binary64.roundHalfEven (n * Nat.pow 10 places) d) places kept

/-- The ratio `n / d` times a power of ten, rounded. -/
def roundScaled (n d : Nat) (power : Int) : Nat :=
  if 0 ≤ power then Binary64.roundHalfEven (n * Nat.pow 10 power.toNat) d
  else Binary64.roundHalfEven n (d * Nat.pow 10 (-power).toNat)

/-- The decimal with `places + 1` digits that is nearest to `n / d`, which is not zero: its digits,
and the exponent of the first. -/
def leadingDigits (n d places : Nat) : Nat × Int :=
  let guess : Int := (Decimal.width n : Int) - (Decimal.width d : Int)
  let least := Nat.pow 10 places
  let at? (e : Int) : Option (Nat × Int) :=
    let digits := roundScaled n d ((places : Int) - e)
    if digits < least then none
    else if digits < least * 10 then some (digits, e)
    else none
  ((at? guess).orElse fun _ => (at? (guess - 1)).orElse fun _ => at? (guess + 1)).getD
    (least, guess)

/-- An exponent with its sign and at least two digits. -/
def exponentText (letter : Char) (e : Int) : String :=
  letter.toString ++ (if e < 0 then "-" else "+") ++ paddedDigits e.natAbs 2

/-- The ratio `n / d` with one digit before the point and an exponent. -/
def exponentialText (n d places : Nat) (kept : Bool) (letter : Char) : String :=
  let (digits, e) := if n = 0 then (0, 0) else leadingDigits n d places
  withPoint digits places kept ++ exponentText letter e

/-- A text without the zeros at the end of its fraction, nor a point with nothing after it. -/
def withoutTrailingZeros (text : String) : String :=
  if text.toList.contains '.' then
    let cs := text.toList.reverse.dropWhile (· = '0')
    String.ofList (if cs.head? = some '.' then cs.drop 1 else cs).reverse
  else text

/-- The ratio `n / d` with a number of significant digits, an exponent being written where the
number is very small or has more digits than that; zeros at the end are `kept` or dropped. -/
def generalText (n d precision : Nat) (kept : Bool) (letter : Char) : String :=
  let precision := max precision 1
  let (digits, e) := if n = 0 then (0, 0) else leadingDigits n d (precision - 1)
  let trim (text : String) : String := if kept then text else withoutTrailingZeros text
  if e < -4 ∨ (precision : Int) ≤ e then
    trim (withPoint digits (precision - 1) kept) ++ exponentText letter e
  else trim (fixedText n d (precision - 1 - e).toNat kept)

end Pipeline.Number
