/-!
# Digits

The values of digits in any base up to thirty-six, where letters of either case go on from ten, and
of rows of digits.
-/

namespace Pipeline.Text

/-- The value of a digit below `base`. -/
def digitIn? (base : Nat) (c : Char) : Option Nat :=
  let value? :=
    if c.isDigit then some (c.toNat - 48)
    else if 'a' ≤ c ∧ c ≤ 'z' then some (c.toNat - 87)
    else if 'A' ≤ c ∧ c ≤ 'Z' then some (c.toNat - 55)
    else none
  value?.filter (· < base)

/-- The value of a hexadecimal digit. -/
def hexValue? (c : Char) : Option Nat :=
  digitIn? 16 c

/-- The value of digits of which at least one is there. -/
def natIn? (base : Nat) (cs : List Char) : Option Nat :=
  if cs.isEmpty then none
  else cs.foldlM (fun n c => (digitIn? base c).map (n * base + ·)) 0

end Pipeline.Text
