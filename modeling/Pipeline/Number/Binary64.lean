/-!
# Double precision

Magnitudes of finite double precision numbers as `mantissa * 2 ^ exponent`, and the rounding of an
exact ratio to the nearest of them. Every operation is exact arithmetic followed by one rounding, so
a half goes to the even neighbour.
-/

namespace Pipeline.Number

/-- A finite magnitude `mantissa * 2 ^ exponent`. -/
structure Binary64 where
  mantissa : Nat
  exponent : Int
  deriving DecidableEq, Repr

namespace Binary64

/-- The mantissas of normal numbers lie from here up to twice this. -/
def hidden : Nat := Nat.pow 2 52

/-- The exponent of the smallest magnitudes. -/
def minExponent : Int := -1074

/-- The exponent of the largest magnitudes. -/
def maxExponent : Int := 971

/-- The magnitude zero. -/
def zero : Binary64 := ⟨0, minExponent⟩

/-- The magnitude as a ratio of whole numbers. -/
def toRatio (x : Binary64) : Nat × Nat :=
  if 0 ≤ x.exponent then (x.mantissa * Nat.pow 2 x.exponent.toNat, 1)
  else (x.mantissa, Nat.pow 2 (-x.exponent).toNat)

/-- The ratio `n / d` divided by `2 ^ e`, again as a ratio. -/
def scaleDown (n d : Nat) (e : Int) : Nat × Nat :=
  if 0 ≤ e then (n, d * Nat.pow 2 e.toNat) else (n * Nat.pow 2 (-e).toNat, d)

/-- The whole number nearest to `n / d`; a half goes to the even one. -/
def roundHalfEven (n d : Nat) : Nat :=
  let q := n / d
  let r := n % d
  if d < 2 * r ∨ (2 * r = d ∧ q % 2 = 1) then q + 1 else q

/-- The exponent at which `n / d` has a normal mantissa, or the least one. -/
def exponentOf (n d : Nat) : Int :=
  let guess : Int := (Nat.log2 n : Int) - (Nat.log2 d : Int) - 52
  let s := scaleDown n d guess
  max minExponent (if s.1 / s.2 < hidden then guess - 1 else guess)

/-- The magnitude nearest to `n / d`, if it is finite. -/
def ofRatio? (n d : Nat) : Option Binary64 :=
  if n = 0 then some zero
  else
    let e := exponentOf n d
    let s := scaleDown n d e
    let q := roundHalfEven s.1 s.2
    let x : Binary64 := if q = 2 * hidden then ⟨hidden, e + 1⟩ else ⟨q, e⟩
    if maxExponent < x.exponent then none else some x

/-- The magnitude nearest to a whole number, if it is finite. -/
def ofNat? (n : Nat) : Option Binary64 :=
  ofRatio? n 1

/-- The sum, rounded. -/
def add? (x y : Binary64) : Option Binary64 :=
  let a := x.toRatio
  let b := y.toRatio
  ofRatio? (a.1 * b.2 + b.1 * a.2) (a.2 * b.2)

/-- The product, rounded. -/
def mul? (x y : Binary64) : Option Binary64 :=
  let a := x.toRatio
  let b := y.toRatio
  ofRatio? (a.1 * b.1) (a.2 * b.2)

/-- The quotient by a magnitude other than zero, rounded. -/
def div? (x y : Binary64) : Option Binary64 :=
  let a := x.toRatio
  let b := y.toRatio
  ofRatio? (a.1 * b.2) (a.2 * b.1)

/-- The magnitude in tenths, rounded to a whole number of them. -/
def tenths (x : Binary64) : Nat :=
  let a := x.toRatio
  roundHalfEven (a.1 * 10) a.2

end Binary64

end Pipeline.Number
