import Pipeline.Json.Error

/-!
# Numbers in JSON texts

A number as it is written, and its value. The digits are gathered into one machine word; those that
no longer fit only count as powers of ten before the point and not at all after it. The word is then
scaled by one power of ten in double precision.
-/

namespace Pipeline.Json

/-- A number as it is written, without its sign. -/
structure NumberText where
  whole : List Char
  fraction : Option (List Char)
  /-- Whether the exponent is negative, and its digits. -/
  exponent : Option (Bool × List Char)

/-- The digits at the start, and the rest. -/
def spanDigits (cs : List Char) : List Char × List Char :=
  (cs.takeWhile Char.isDigit, cs.dropWhile Char.isDigit)

/-- Digits of which at least one is there; `atEnd` is the error if the text stops before it. -/
def someDigits (atEnd : Error) (cs : List Char) : Except Error (List Char × List Char) :=
  match spanDigits cs with
  | ([], []) => .error atEnd
  | ([], _ :: _) => .error .invalidNumber
  | (ds, rest) => .ok (ds, rest)

/-- The digits of a fraction, if a point comes first. -/
def scanFraction (atEnd : Error) (cs : List Char) :
    Except Error (Option (List Char) × List Char) :=
  match cs with
  | '.' :: rest => (someDigits atEnd rest).map fun (ds, rest) => (some ds, rest)
  | _ => .ok (none, cs)

/-- The sign and digits of an exponent, if its letter comes first. -/
def scanExponent (atEnd : Error) (cs : List Char) :
    Except Error (Option (Bool × List Char) × List Char) :=
  match cs with
  | c :: rest =>
    if c = 'e' ∨ c = 'E' then
      let (negative, rest) :=
        match rest with
        | '-' :: rest => (true, rest)
        | '+' :: rest => (false, rest)
        | _ => (false, rest)
      (someDigits atEnd rest).map fun (ds, rest) => (some (negative, ds), rest)
    else .ok (none, cs)
  | [] => .ok (none, cs)

/-- The digits before the point: one zero, or digits that do not start with one. -/
def scanWhole (atEnd : Error) (cs : List Char) : Except Error (List Char × List Char) :=
  match cs with
  | '0' :: rest =>
    match rest with
    | c :: _ => if c.isDigit then .error .invalidNumber else .ok (['0'], rest)
    | [] => .ok (['0'], [])
  | _ => someDigits atEnd cs

/-- A number without its sign; `atEnd` is the error if the text stops inside. -/
def scanNumber (atEnd : Error) (cs : List Char) : Except Error (NumberText × List Char) := do
  let (whole, rest) ← scanWhole atEnd cs
  let (fraction, rest) ← scanFraction atEnd rest
  let (exponent, rest) ← scanExponent atEnd rest
  .ok (⟨whole, fraction, exponent⟩, rest)

/-- The value of a digit. -/
def digitValue (c : Char) : Nat :=
  c.toNat - 48

/-- The greatest machine word. -/
def wordMax : Nat := Nat.pow 2 64 - 1

/-- The word that the digits continue, and the digits that no longer fit. -/
def gather (word : Nat) : List Char → Nat × List Char
  | [] => (word, [])
  | c :: cs =>
    let next := word * 10 + digitValue c
    if wordMax < next then (word, c :: cs) else gather next cs

/-- The greatest exponent that is read as written. -/
def exponentMax : Nat := Nat.pow 2 31 - 1

/-- `word * 10 ^ power` by one multiplication or division, after steps of `1e308` for very small
ones. -/
def scaleWord (word : Nat) (power : Int) : Except Error Pipeline.Number.Binary64 :=
  let finite (x : Option Pipeline.Number.Binary64) : Except Error Pipeline.Number.Binary64 :=
    x.elim (.error .numberOutOfRange) .ok
  if word = 0 then .ok .zero
  else if 308 < power then .error .numberOutOfRange
  else do
    let x ← finite (Pipeline.Number.Binary64.ofNat? word)
    if 0 ≤ power then
      finite ((Pipeline.Number.Binary64.ofNat? (Nat.pow 10 power.toNat)).bind x.mul?)
    else shrink 8 x (-power).toNat
where
  /-- Divides by `10 ^ power`, at most `1e308` at a time. -/
  shrink : Nat → Pipeline.Number.Binary64 → Nat → Except Error Pipeline.Number.Binary64
    | 0, _, _ => .ok .zero
    | tries + 1, x, power =>
      let divisor := (Pipeline.Number.Binary64.ofNat? (Nat.pow 10 (min power 308))).getD .zero
      let y := (x.div? divisor).getD .zero
      if power ≤ 308 then .ok y else shrink tries y (power - 308)

/-- The value of a number and its sign. -/
def NumberText.value (negative : Bool) (t : NumberText) : Except Error Number :=
  let (word, left) := gather 0 t.whole
  match t.fraction, t.exponent, left with
  | none, none, [] =>
    if negative then
      if 1 ≤ word ∧ word ≤ Nat.pow 2 63 then .ok (.integer (-word))
      else (scaleWord word 0).map fun x => .float ⟨true, x⟩
    else .ok (.integer word)
  | fraction, exponent, left =>
    let (significand, skipped) := gather word (fraction.getD [])
    let power : Int := (left.length : Int) - ((fraction.getD []).length - skipped.length : Nat)
    match exponent with
    | none => (scaleWord significand power).map fun x => .float ⟨negative, x⟩
    | some (downward, ds) =>
      let e := ds.foldl (fun n c => n * 10 + digitValue c) 0
      if exponentMax < e then
        if significand ≠ 0 ∧ !downward then .error .numberOutOfRange
        else .ok (.float ⟨negative, .zero⟩)
      else
        (scaleWord significand (if downward then power - e else power + e)).map fun x =>
          .float ⟨negative, x⟩

end Pipeline.Json
