import Pipeline.Number.Layout
import Pipeline.Text.Digit
import Pipeline.Text.Escaped

/-!
# Execution identifiers

A run is known by 128 bits, written as 32 hexadecimal digits in five groups (specification, section
13).
-/

namespace Pipeline

/-- The identifier of a run. -/
structure ExecutionId where
  value : Nat
  deriving DecidableEq, Repr, Inhabited

namespace ExecutionId

/-- The identifier with all bits zero. -/
def nil : ExecutionId := ⟨0⟩

/-- The 32 digits. -/
def digits (id : ExecutionId) : List Char :=
  let text := Text.hexDigits id.value
  List.replicate (32 - text.length) '0' ++ text.toList

/-- Digits in groups of the given lengths. -/
def grouped : List Nat → List Char → List String
  | [], _ => []
  | n :: ns, ds => String.ofList (ds.take n) :: grouped ns (ds.drop n)

/-- The identifier in its five groups. -/
def render (id : ExecutionId) : String :=
  String.intercalate "-" (grouped [8, 4, 4, 4, 12] id.digits)

/-- The first group, by which a reader tells runs apart. -/
def short (id : ExecutionId) : String :=
  String.ofList (id.digits.take 8)

/-- The identifier that 16 random octets give: version 4 and variant 1 take the place of six
bits. -/
def ofRandom (octets : List UInt8) : ExecutionId :=
  let marked := octets.zipIdx.map fun (b, i) =>
    if i = 6 then b % 16 + 64 else if i = 8 then b % 64 + 128 else b
  ⟨marked.foldl (fun n b => n * 256 + b.toNat) 0⟩

/-- The value of a digit of an identifier: a hexadecimal one of either case. -/
def digitValue? (c : Char) : Option Nat :=
  Text.hexValue? c

/-- The 32 digits of a text that are written in one group or in the five. -/
def groupedDigits? (cs : List Char) : Option (List Char) :=
  if cs.length = 32 then some cs
  else
    let hyphens := (cs.zipIdx.filter fun p => p.1 == '-').map Prod.snd
    if cs.length = 36 ∧ hyphens = [8, 13, 18, 23] then some (cs.filter fun c => c != '-') else none

/-- The text without the braces around it or the name of its scheme before it, of which only the
five groups may have one. -/
def bareText (s : String) : Option (List Char) :=
  let cs := s.toList
  let scheme := "urn:uuid:".toList
  if cs.length = 38 ∧ cs.head? = some '\x7b' ∧ cs.getLast? = some '\x7d' then
    some ((cs.drop 1).take 36)
  else if cs.length = 45 ∧ scheme.isPrefixOf cs then some (cs.drop scheme.length)
  else if cs.length = 32 ∨ cs.length = 36 then some cs
  else none

/-- The identifier of a text: its digits in one group or in five, the five also between braces or
after the name of their scheme. -/
def ofText? (s : String) : Option ExecutionId := do
  let ds ← groupedDigits? (← bareText s)
  (ds.foldlM (fun n c => (digitValue? c).map (n * 16 + ·)) 0).map ExecutionId.mk

end ExecutionId

end Pipeline
