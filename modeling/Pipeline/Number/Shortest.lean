import Pipeline.Number.Binary64

/-!
# Shortest decimals

The decimal with the fewest digits that a magnitude is the nearest double precision number to, and
of those the one closest to it. On the grid of each digit count only the two neighbours of the
magnitude are tried: if any point of the grid reads back, one of them does.
-/

namespace Pipeline.Number

/-- The decimal `digits * 10 ^ exponent`. -/
structure Decimal where
  digits : Nat
  exponent : Int
  deriving DecidableEq, Repr

namespace Decimal

/-- How many decimal digits `n` is written with. -/
def width (n : Nat) : Nat :=
  (Nat.toDigits 10 n).length

/-- The decimal without the zeros its digits end in; `fuel` bounds their number. -/
def stripZeros : Nat → Decimal → Decimal
  | 0, d => d
  | fuel + 1, d =>
    if d.digits ≠ 0 ∧ d.digits % 10 = 0 then stripZeros fuel ⟨d.digits / 10, d.exponent + 1⟩ else d

/-- Whether `a / b ≤ c * 10 ^ p`, or `<` when `strict`. -/
def ratioBelow (strict : Bool) (a b c : Nat) (p : Int) : Bool :=
  let lhs := if 0 ≤ p then a else a * Nat.pow 10 (-p).toNat
  let rhs := if 0 ≤ p then c * b * Nat.pow 10 p.toNat else c * b
  if strict then lhs < rhs else lhs ≤ rhs

/-- Whether `c * 10 ^ p ≤ a / b`, or `<` when `strict`. -/
def ratioAbove (strict : Bool) (a b c : Nat) (p : Int) : Bool :=
  if strict then !ratioBelow false a b c p else !ratioBelow true a b c p

/-- The distance of `c * 10 ^ p` from `a / b`, in a unit that does not depend on `c`. -/
def distance (a b c : Nat) (p : Int) : Nat :=
  let lhs := if 0 ≤ p then a else a * Nat.pow 10 (-p).toNat
  let rhs := if 0 ≤ p then c * b * Nat.pow 10 p.toNat else c * b
  (lhs - rhs) + (rhs - lhs)

/-- The ratios between which every number rounds to `x`: the half steps to its two neighbours. -/
def roundingBounds (x : Binary64) : (Nat × Nat) × (Nat × Nat) :=
  let below : Nat :=
    if x.mantissa = Binary64.hidden ∧ Binary64.minExponent < x.exponent then 1 else 2
  (Binary64.toRatio ⟨4 * x.mantissa - below, x.exponent - 2⟩,
    Binary64.toRatio ⟨4 * x.mantissa + 2, x.exponent - 2⟩)

/-- The grid point of `10 ^ p` nearest to `x` among its two neighbours that read back as `x`. -/
def onGrid? (x : Binary64) (p : Int) : Option Decimal :=
  let v := x.toRatio
  let c := if 0 ≤ p then v.1 / (v.2 * Nat.pow 10 p.toNat) else v.1 * Nat.pow 10 (-p).toNat / v.2
  let bounds := roundingBounds x
  let strict := x.mantissa % 2 = 1
  let readsBack := fun c : Nat =>
    ratioBelow strict bounds.1.1 bounds.1.2 c p && ratioAbove strict bounds.2.1 bounds.2.2 c p
  match readsBack c, readsBack (c + 1) with
  | true, true =>
    if distance v.1 v.2 (c + 1) p < distance v.1 v.2 c p then some ⟨c + 1, p⟩ else some ⟨c, p⟩
  | true, false => some ⟨c, p⟩
  | false, true => some ⟨c + 1, p⟩
  | false, false => none

/-- The power of ten of the leading digit of a magnitude other than zero. -/
def leadingPower (x : Binary64) : Int :=
  let v := x.toRatio
  (width (v.1 * Nat.pow 10 340 / v.2) : Int) - 341

/-- The first grid, from `digits` digits on, with a point that reads back. -/
def search (x : Binary64) (lead : Int) : Nat → Nat → Decimal
  | 0, _ => ⟨0, 0⟩
  | tries + 1, digits =>
    match onGrid? x (lead - digits + 1) with
    | some d => d
    | none => search x lead tries (digits + 1)

/-- The shortest decimal of a magnitude. -/
def shortest (x : Binary64) : Decimal :=
  if x.mantissa = 0 then ⟨0, 0⟩ else stripZeros 20 (search x (leadingPower x) 17 1)

end Decimal

end Pipeline.Number
