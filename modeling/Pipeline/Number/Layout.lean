import Pipeline.Number.Shortest

/-!
# Numbers as text

How a double precision number is written: always positionally, or positionally near one and with an
exponent elsewhere. In both a number that is whole shows it by a final `.0`.
-/

namespace Pipeline.Number

/-- A signed double precision number that is finite. -/
structure Signed64 where
  negative : Bool
  magnitude : Binary64
  deriving DecidableEq, Repr

/-- `n` zeros. -/
def zeros (n : Nat) : String :=
  String.ofList (List.replicate n '0')

/-- The decimal without an exponent, whole numbers with a final `.0`. -/
def positional (d : Decimal) : String :=
  let text := toString d.digits
  let width := text.length
  if 0 ≤ d.exponent then text ++ zeros d.exponent.toNat ++ ".0"
  else
    let places := (-d.exponent).toNat
    if places < width then
      String.ofList (text.toList.take (width - places)) ++ "." ++
        String.ofList (text.toList.drop (width - places))
    else "0." ++ zeros (places - width) ++ text

/-- The decimal with one digit before the point and an exponent that always has its sign. -/
def scientific (d : Decimal) : String :=
  let text := toString d.digits
  let power := d.exponent + (text.length : Int) - 1
  let exponent := "e" ++ (if power < 0 then "" else "+") ++ toString power
  match text.toList with
  | [] => ""
  | [c] => c.toString ++ exponent
  | c :: cs => c.toString ++ "." ++ String.ofList cs ++ exponent

/-- Where positional notation ends: the leading digit's place lies above `low` and up to `high`. -/
structure Layout where
  low : Int
  high : Int

/-- The decimal positionally where the layout allows it, else with an exponent. -/
def Layout.render (l : Layout) (d : Decimal) : String :=
  let point := d.exponent + (toString d.digits).length
  if d.digits = 0 ∨ (l.low < point ∧ point ≤ l.high) then positional d else scientific d

/-- The sign, then the text of the magnitude. -/
def Signed64.render (x : Signed64) (text : Decimal → String) : String :=
  (if x.negative then "-" else "") ++ text (Decimal.shortest x.magnitude)

end Pipeline.Number
