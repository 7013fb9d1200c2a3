import Pipeline.Number.Notation
import Pipeline.Text.Blank
import Pipeline.Text.Digit

/-!
# Numbers at the front of a text

A number in double precision as a text may begin with it: blanks, a sign, then decimal digits with a
point and an exponent, hexadecimal ones, or a word for what is no finite number.
-/

namespace Pipeline.Number

/-- The value of digits in a base. -/
def digitsValue (base : Nat) (cs : List Char) : Nat :=
  cs.foldl (fun n c => n * base + (Text.hexValue? c).getD 0) 0

/-- The digits before and after a point at the front of a text, and the rest; `none` if there are no
digits. -/
def scanDigits (isDigit : Char → Bool) (cs : List Char) :
    Option (List Char × List Char × List Char) :=
  let whole := cs.takeWhile isDigit
  let (fraction, rest) :=
    match cs.drop whole.length with
    | '.' :: rest => (rest.takeWhile isDigit, rest.dropWhile isDigit)
    | rest => ([], rest)
  if whole.isEmpty && fraction.isEmpty then none else some (whole, fraction, rest)

/-- The exponent after one of two letters at the front of a text, and the rest; without digits there
is no exponent. -/
def scanPower (lower upper : Char) (cs : List Char) : Int × List Char :=
  match cs with
  | c :: rest =>
    if c = lower ∨ c = upper then
      let (negative, digits) :=
        match rest with
        | '-' :: digits => (true, digits)
        | '+' :: digits => (false, digits)
        | digits => (false, digits)
      let ds := digits.takeWhile Char.isDigit
      if ds.isEmpty then (0, cs)
      else
        let n : Int := min (digitsValue 10 ds) 100000
        (if negative then -n else n, digits.drop ds.length)
    else (0, cs)
  | [] => (0, [])

/-- The ratio `digits * base ^ power`, where a power far out of range counts as a large one. -/
def powerRatio (digits base : Nat) (power : Int) (bound : Nat) : Nat × Nat :=
  let width := Decimal.width digits
  if 0 ≤ power then (digits * Nat.pow base (min power.toNat bound), 1)
  else (digits, Nat.pow base (min (-power).toNat (bound + width * 4)))

/-- What stands at the front of a text: a ratio, or a word for what is no finite number. -/
inductive Scanned where
  | ratio (n d : Nat)
  | infinite
  | notANumber

/-- The magnitude at the front of a text without sign, and the rest. -/
def scanMagnitude? (cs : List Char) : Option (Scanned × List Char) :=
  let decimal : Option (Scanned × List Char) :=
    (scanDigits Char.isDigit cs).map fun (whole, fraction, rest) =>
      let (e, rest) := scanPower 'e' 'E' rest
      let (n, d) := powerRatio (digitsValue 10 (whole ++ fraction)) 10 (e - fraction.length) 800
      (.ratio n d, rest)
  let word (text : String) : Bool := text.toList.isPrefixOf (cs.map Char.toLower)
  match cs with
  | '0' :: x :: digits =>
    if x = 'x' ∨ x = 'X' then
      match scanDigits (fun c => (Text.hexValue? c).isSome) digits with
      | some (whole, fraction, rest) =>
        let (e, rest) := scanPower 'p' 'P' rest
        let (n, d) :=
          powerRatio (digitsValue 16 (whole ++ fraction)) 2 (e - 4 * fraction.length) 2400
        some (.ratio n d, rest)
      | none => decimal
    else decimal
  | _ =>
    if word "infinity" then some (.infinite, cs.drop 8)
    else if word "inf" then some (.infinite, cs.drop 3)
    else if word "nan" then some (.notANumber, cs.drop 3)
    else decimal

/-- What was scanned, with a sign, in double precision. -/
def Scanned.toFloating (negative : Bool) : Scanned → Floating
  | ratio n d => .ofRatio negative n d
  | infinite => .infinite negative
  | notANumber => .notANumber negative

/-- What stands at the front of a text after blanks and a sign, whether the sign is a minus, and the
rest. -/
def scanSigned? (cs : List Char) : Option (Bool × Scanned × List Char) :=
  match cs.dropWhile Text.isSpace with
  | '-' :: rest => (scanMagnitude? rest).map fun found => (true, found)
  | '+' :: rest => (scanMagnitude? rest).map fun found => (false, found)
  | rest => (scanMagnitude? rest).map fun found => (false, found)

/-- The number at the front of a text, and the rest. -/
def scanFloating? (cs : List Char) : Option (Floating × List Char) :=
  (scanSigned? cs).map fun (negative, x, rest) => (x.toFloating negative, rest)

end Pipeline.Number
