import Pipeline.Number.Machine
import Pipeline.Shell.Format
import Pipeline.Shell.Utility.Awk.Syntax
import Pipeline.Text.Blank

/-!
# Values of programs on records

Numbers and texts, and how one is taken for the other. A text from the input that looks like a
number is one where it is compared.
-/

namespace Pipeline.Shell.Utility.Awk

open Number (Floating)

/-- A value. -/
inductive Value where
  | unset
  | number (x : Float)
  | text (s : String)
  /-- A text from the input that looks like a number. -/
  | numeral (s : String) (x : Float)

/-- The number at the front of a text. -/
def numberAtFront (s : String) : Float :=
  match Number.scanFloating? s.toList with
  | some (x, _) => x.toFloat
  | none => 0

/-- The value of a text from the input. -/
def Value.ofInput (s : String) : Value :=
  let bare := (s.toList.dropWhile Text.isFieldGap).reverse.dropWhile Text.isFieldGap
  let starts := bare.getLast?.any fun c => c.isDigit || c == '+' || c == '-' || c == '.'
  let stops := bare.head?.any fun c => c.isDigit || c == '.'
  if starts && stops then
    match Number.scanFloating? bare.reverse with
    | some (x, []) => .numeral s x.toFloat
    | _ => .text s
  else .text s

/-- The value of a truth. -/
def Value.ofBool (b : Bool) : Value :=
  .number (if b then 1 else 0)

/-- A value as a number. -/
def Value.toNumber : Value → Float
  | unset => 0
  | number x => x
  | text s => numberAtFront s
  | numeral _ x => x

/-- Whether a value counts as true. -/
def Value.isTrue : Value → Bool
  | unset => false
  | number x => x != 0
  | text s => !s.isEmpty
  | numeral _ x => x != 0

/-- The whole number that a number is. -/
def whole? (x : Float) : Option Int :=
  if x.floor == x then Number.wholePart? x else none

/-- The greatest whole number without sign. -/
def greatest : Nat :=
  Nat.pow 2 64 - 1

/-- The whole number towards zero from a number, within the range that a conversion has. -/
def truncated (x : Float) : Int :=
  match Number.wholePart? x with
  | some n => max (-Nat.pow 2 63) (min n greatest)
  | none => if 0 < x then greatest else -Nat.pow 2 63

/-- The whole number that counts octets. -/
def countOf (x : Float) : Int :=
  (Number.wholePart? x).getD (if 0 < x then greatest else -greatest)

/-- What is wrong with a format. -/
inductive FormatFault where
  | fewArguments
  | improper (number : Nat)

/-- What was made of a format, up to a fault in it. -/
structure Formatted where
  text : List Char := []
  fault : Option FormatFault := none

/-- A number as a text, by a format if it is not whole. -/
def numberText (format : Float → String) (x : Float) : String :=
  match whole? x with
  | some n =>
    if -Nat.pow 2 63 ≤ n ∧ n ≤ greatest + 1 then toString (min n greatest) else format x
  | none => format x

/-- A value as a text, where a format writes numbers that are not whole. -/
def Value.toText (format : Float → String) : Value → String
  | unset => ""
  | number x => numberText format x
  | text s => s
  | numeral s _ => s

/-- The octet that a value stands for. -/
def Value.octets : Value → List Char
  | unset => []
  | number x => [Char.ofNat ((truncated x).emod 256).toNat]
  | text s => s.toList.take 1
  | numeral _ x => [Char.ofNat ((truncated x).emod 256).toNat]

/-- A value in a conversion; `none` if its letter has no meaning. -/
def Conversion.value? (v : Conversion) (letter : Char) (format : Float → String) (a : Value) :
    Option String :=
  match letter with
  | 's' =>
    let s := a.toText format
    some (v.pad (v.precision.elim s fun n => String.ofList (s.toList.take n)))
  | 'c' => some (v.pad (String.ofList (if a.octets.isEmpty then ['\x00'] else a.octets)))
  | 'd' | 'i' => some (v.signed (truncated a.toNumber))
  | 'o' | 'x' | 'X' | 'u' => some (v.unsigned letter (unsignedValue (truncated a.toNumber)))
  | 'e' | 'E' | 'f' | 'F' | 'g' | 'G' | 'a' | 'A' =>
    some (v.floating letter (Floating.ofFloat a.toNumber))
  | _ => none

/-- An amount in a format: digits, or a star for the next value; `none` without such a value. -/
def takeStar (cs : List Char) (args : List Value) : Option (Int × List Char × List Value) :=
  match cs, args with
  | '*' :: rest, a :: args => some (truncated a.toNumber, rest, args)
  | '*' :: _, [] => none
  | cs, args =>
    let digits := cs.takeWhile Char.isDigit
    some (Number.digitsValue 10 digits, cs.drop digits.length, args)

/-- The conversion after a percent sign up to its letter, the text from there on, and the values
that are left; `none` where there are too few. -/
def takeDirective (cs : List Char) (args : List Value) :
    Option (Conversion × List Char × List Value) := do
  let (v, rest) := takeFlags {} cs
  let (width, rest, args) ← takeStar rest args
  let v := { v with width := width.natAbs, leftAligned := v.leftAligned || width < 0 }
  let (v, rest, args) ←
    match rest with
    | '.' :: rest => do
      let (n, rest, args) ← takeStar rest args
      pure ({ v with precision := if n < 0 then none else some n.toNat }, rest, args)
    | rest => pure (v, rest, args)
  let rest :=
    match rest with
    | 'l' :: more | 'h' :: more => more
    | rest => rest
  if args.isEmpty then none else some (v, rest, args)

/-- What a format makes of values, of which the conversions have numbers from `number` on; `fuel`
exceeds its length. -/
def formatValues (format : Float → String) : Nat → Nat → List Char → List Value → Formatted
  | 0, _, _, _ => {}
  | _, _, [], _ => {}
  | fuel + 1, number, '%' :: '%' :: cs, args =>
    let after := formatValues format fuel number cs args
    { after with text := '%' :: after.text }
  | fuel + 1, number, '%' :: cs, args =>
    match takeDirective cs args with
    | none => { fault := some .fewArguments }
    | some (v, rest, args) =>
      let made : Option String := do
        let letter ← rest.head?
        let a ← args.head?
        Conversion.value? v letter format a
      match made with
      | none => { fault := some (.improper number) }
      | some s =>
        let after := formatValues format fuel (number + 1) (rest.drop 1) (args.drop 1)
        { after with text := s.toList ++ after.text }
  | fuel + 1, number, c :: cs, args =>
    let after := formatValues format fuel number cs args
    { after with text := c :: after.text }

/-- The text of a number in a format, which is written as it is where nothing is asked for. -/
def formatNumber (format : String) (x : Float) : String :=
  let made := formatValues (fun _ => "") (format.length + 1) 1 format.toList [.number x]
  String.ofList made.text

/-- How two values are ordered: as numbers if both can be, and as texts otherwise. -/
def Value.order (format : Float → String) (a b : Value) : Ordering :=
  let byNumber (x y : Float) : Ordering := if x < y then .lt else if y < x then .gt else .eq
  let byText : Ordering :=
    let s := a.toText format
    let t := b.toText format
    if s < t then .lt else if s = t then .eq else .gt
  match a, b with
  | .text _, _ => byText
  | _, .text _ => byText
  | a, b => byNumber a.toNumber b.toNumber

/-- Whether a comparison holds of an order. -/
def Comparison.holds : Comparison → Ordering → Bool
  | .less, o => o == .lt
  | .lessEqual, o => o != .gt
  | .equal, o => o == .eq
  | .notEqual, o => o != .eq
  | .greater, o => o == .gt
  | .greaterEqual, o => o != .lt

/-- The result of an operation. -/
def NumberOp.apply : NumberOp → Float → Float → Float
  | .add, x, y => x + y
  | .subtract, x, y => x - y
  | .multiply, x, y => x * y
  | .divide, x, y => x / y
  | .remainder, x, y => Number.remainder x y
  | .power, x, y => x.pow y

end Pipeline.Shell.Utility.Awk
