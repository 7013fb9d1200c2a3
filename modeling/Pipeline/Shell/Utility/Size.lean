/-!
# Sizes and counts

How numbers of lines and octets are written: digits, with a letter for a greater unit.
-/

namespace Pipeline.Shell.Utility

/-- Why a text is no size. -/
inductive SizeError where
  | malformed
  | tooLarge
  deriving DecidableEq, Repr

/-- What is said after the text of a size. -/
def SizeError.ending : SizeError → String
  | malformed => ""
  | tooLarge => ": Value too large for defined data type"

/-- The letters for powers of a thousand or of 1024, in order. -/
def unitLetters : List Char :=
  ['K', 'M', 'G', 'T', 'P', 'E', 'Z', 'Y', 'R', 'Q']

/-- The factor of a unit. -/
def unitFactor? (unit : String) : Option Nat :=
  match unit.toList with
  | [] => some 1
  | ['b'] => some 512
  | c :: rest =>
    let letter := if c = 'k' then 'K' else c
    match unitLetters.idxOf? letter, rest with
    | some i, [] => some (Nat.pow 1024 (i + 1))
    | some i, ['i', 'B'] => some (Nat.pow 1024 (i + 1))
    | some i, ['B'] => some (Nat.pow 1000 (i + 1))
    | _, _ => none

/-- The size that a text writes. -/
def sizeOf (text : String) : Except SizeError Nat :=
  let cs := match text.toList with | '+' :: cs => cs | cs => cs
  let digits := cs.takeWhile Char.isDigit
  match (String.ofList digits).toNat?, unitFactor? (String.ofList (cs.drop digits.length)) with
  | some n, some factor =>
    if n * factor < 18446744073709551616 then .ok (n * factor) else .error .tooLarge
  | _, _ => .error .malformed

/-- From which end a count is taken. -/
inductive CountFrom where
  | plain
  /-- A minus sign stands before it. -/
  | back
  /-- A plus sign stands before it. -/
  | front
  deriving DecidableEq, Repr

/-- The count that a text writes, with its sign. -/
def signedSizeOf (text : String) : Except SizeError (CountFrom × Nat) :=
  match text.toList with
  | '-' :: cs => (sizeOf (String.ofList cs)).map fun n => (.back, n)
  | '+' :: cs => (sizeOf (String.ofList cs)).map fun n => (.front, n)
  | _ => (sizeOf text).map fun n => (.plain, n)

end Pipeline.Shell.Utility
