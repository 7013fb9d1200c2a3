import Pipeline.Number.Notation

/-!
# Numbers of the machine

Numbers in double precision as the machine keeps them, and as signs and magnitudes.
-/

namespace Pipeline.Number

/-- The bits of a finite number. -/
def Signed64.bits (x : Signed64) : UInt64 :=
  let m := x.magnitude.mantissa
  let field : Nat :=
    if m < Binary64.hidden then m
    else (x.magnitude.exponent + 1075).toNat * Binary64.hidden + (m - Binary64.hidden)
  (field + if x.negative then Nat.pow 2 63 else 0).toUInt64

/-- A number as the machine keeps it. -/
def Floating.toFloat : Floating → Float
  | .finite x => Float.ofBits x.bits
  | .infinite negative => if negative then -1.0 / 0.0 else 1.0 / 0.0
  | .notANumber _ => 0.0 / 0.0

/-- A number of the machine by its sign and magnitude; what is no number counts as negative. -/
def Floating.ofFloat (x : Float) : Floating :=
  let bits := x.toBits.toNat
  let negative := Nat.pow 2 63 ≤ bits
  let field := bits / Binary64.hidden % 2048
  let rest := bits % Binary64.hidden
  if field = 2047 then (if rest = 0 then .infinite negative else .notANumber true)
  else if field = 0 then .finite ⟨negative, ⟨rest, Binary64.minExponent⟩⟩
  else .finite ⟨negative, ⟨rest + Binary64.hidden, (field : Int) - 1075⟩⟩

/-- The whole number towards zero from a finite number. -/
def wholePart? (x : Float) : Option Int :=
  match Floating.ofFloat x with
  | .finite y =>
    let (n, d) := y.magnitude.toRatio
    let whole : Int := (n / d : Nat)
    some (if y.negative then -whole else whole)
  | _ => none

/-- What is left of one number after a whole number of times another one, with the sign of the
first. -/
def remainder (x y : Float) : Float :=
  match Floating.ofFloat x, Floating.ofFloat y with
  | .finite a, .finite b =>
    if b.magnitude.mantissa = 0 then 0.0 / 0.0
    else
      let (n, d) := a.magnitude.toRatio
      let (m, e) := b.magnitude.toRatio
      (Floating.ofRatio a.negative (n * e % (m * d)) (d * e)).toFloat
  | .finite _, .infinite _ => x
  | _, _ => 0.0 / 0.0

end Pipeline.Number
