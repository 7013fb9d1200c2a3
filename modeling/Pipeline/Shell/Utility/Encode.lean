import Pipeline.Shell.Utility.Arguments

/-!
# Octets as digits

Octets are written as digits of an alphabet, each of which stands for a few bits, and read back.
Groups of digits that are not full are filled up.
-/

namespace Pipeline.Shell.Utility

/-- An alphabet of digits. -/
structure Encoding where
  digits : String
  /-- How many bits a digit stands for. -/
  bits : Nat
  /-- How many digits a group has. -/
  group : Nat
  /-- Whether the octets of a group are given that is not whole. -/
  givesPart : Bool := false

namespace Encoding

/-- The letters, small ones, figures, and two more signs. -/
def base64 : Encoding where
  digits := "ABCDEFGHIJKLMNOPQRSTUVWXYZabcdefghijklmnopqrstuvwxyz0123456789+/"
  bits := 6
  group := 4
  givesPart := true

/-- Sixty-four digits that may stand in paths. -/
def base64url : Encoding where
  digits := "ABCDEFGHIJKLMNOPQRSTUVWXYZabcdefghijklmnopqrstuvwxyz0123456789-_"
  bits := 6
  group := 4
  givesPart := true

/-- The letters and six figures. -/
def base32 : Encoding where
  digits := "ABCDEFGHIJKLMNOPQRSTUVWXYZ234567"
  bits := 5
  group := 8

/-- The figures and the letters after them. -/
def base32hex : Encoding where
  digits := "0123456789ABCDEFGHIJKLMNOPQRSTUV"
  bits := 5
  group := 8

/-- Hexadecimal digits. -/
def base16 : Encoding where
  digits := "0123456789ABCDEF"
  bits := 4
  group := 2

/-- How many octets a group stands for. -/
def octets (e : Encoding) : Nat :=
  e.bits * e.group / 8

/-- The digits of a group for octets, of which there are no more than it stands for. -/
def encodeGroup (e : Encoding) (cs : List Char) : List Char :=
  let size := Nat.pow 2 e.bits
  let value := cs.foldl (fun n c => n * 256 + c.toNat) 0 * Nat.pow 256 (e.octets - cs.length)
  let used := (cs.length * 8 + e.bits - 1) / e.bits
  (List.range e.group).map fun i =>
    if i < used then
      e.digits.toList.getD (value / Nat.pow size (e.group - 1 - i) % size) '='
    else '='

/-- The digits for octets; `fuel` exceeds their number. -/
def encode (e : Encoding) : Nat → List Char → List Char
  | 0, _ => []
  | _, [] => []
  | fuel + 1, cs => e.encodeGroup (cs.take e.octets) ++ encode e fuel (cs.drop e.octets)

/-- The octets of a group of digits, as far as they can be read, and whether the group is whole. -/
def decodeGroup (e : Encoding) (cs : List Char) : List Char × Bool :=
  let alphabet := e.digits.toList
  let ds := cs.takeWhile alphabet.contains
  let count := ds.length * e.bits / 8
  let value := ds.foldl (fun n c => n * Nat.pow 2 e.bits + (alphabet.idxOf? c).getD 0) 0 /
    Nat.pow 2 (ds.length * e.bits - count * 8)
  let octets := (List.range count).map fun i =>
    Char.ofNat (value / Nat.pow 256 (count - 1 - i) % 256)
  let whole := cs.length = e.group ∧ 0 < count ∧ (cs.drop ds.length).all (· == '=') ∧
    (count * 8 + e.bits - 1) / e.bits = ds.length
  (octets, whole)

/-- The octets of digits, as far as they can be read, and whether all could be; `fuel` exceeds the
number of digits. -/
def decode (e : Encoding) : Nat → List Char → List Char × Bool
  | 0, _ => ([], true)
  | _, [] => ([], true)
  | fuel + 1, cs =>
    let (octets, whole) := e.decodeGroup (cs.take e.group)
    if whole then
      let (rest, all) := decode e fuel (cs.drop e.group)
      (octets ++ rest, all)
    else (if e.givesPart then octets else [], false)

end Encoding

/-- A text in lines of a width; `fuel` exceeds its length. -/
def wrapped (width : Nat) : Nat → List Char → List Char
  | 0, _ => []
  | _, [] => []
  | fuel + 1, cs => cs.take width ++ '\n' :: wrapped width fuel (cs.drop width)

/-- Writes octets as digits, or reads digits. -/
def transcode (name : String) (e : Encoding) (a : Arguments) : Act Nat := do
  let width? : Option Nat := ((a.value? "w").getD "76").toNat?
  match width?, a.operands with
  | none, _ =>
    report name ("invalid wrap size: " ++ quotedArgument ((a.value? "w").getD ""))
    return 1
  | _, _ :: extra :: _ => reportUse name ("extra operand " ++ quotedArgument extra)
  | some width, operands =>
    let operand := operands.headD "-"
    match ← contentOf operand with
    | .error e =>
      report name (if e = .isDirectory then "read error: " ++ e.reason
        else plainComplaint operand e)
      return 1
    | .ok content =>
      if a.has "d" then
        let kept (c : Char) : Bool :=
          if a.has "i" then e.digits.toList.contains c || c == '=' else c != '\n'
        let digits := content.filter kept
        let (octets, all) := e.decode (digits.length + 1) digits
        put octets
        if !all then report name "invalid input"
        return if all then 0 else 1
      else
        let digits := e.encode (content.length + 1) content
        put (if width = 0 then digits else wrapped width (digits.length + 1) digits)
        return 0

/-- The options of the utilities that write octets as digits. -/
def encodeOptions : OptionTable where
  plain := "di"
  valued := "w"
  long := [("decode", 'd'), ("ignore-garbage", 'i'), ("wrap", 'w')]

/-- Writes octets as digits of one alphabet, or reads them. -/
def encodeBy (name : String) (e : Encoding) (args : List String) : Act Nat :=
  withArguments name encodeOptions 1 args (transcode name e)

/-- Writes octets as digits of an alphabet that is asked for, or reads them. -/
def basenc (args : List String) : Act Nat :=
  let encodings : List (String × Encoding) :=
    [("base64", .base64), ("base64url", .base64url), ("base32", .base32), ("base32hex", .base32hex),
      ("base16", .base16)]
  withArguments "basenc" { encodeOptions with longPlain := encodings.map Prod.fst } 1 args fun a =>
    match (a.last? (encodings.map Prod.fst)).bind fun key => encodings.lookup key with
    | some e => transcode "basenc" e a
    | none => reportUse "basenc" "missing encoding type"

end Pipeline.Shell.Utility
