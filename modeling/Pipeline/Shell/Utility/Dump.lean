import Pipeline.Number.Scan
import Pipeline.Shell.Utility.Arguments
import Pipeline.Shell.Utility.Content

/-!
# Contents in numbers

Contents are shown octet by octet or in units of some octets, each line with the place where it
starts.
-/

namespace Pipeline.Shell.Utility

/-- How a unit is shown. -/
inductive UnitKind where
  | name
  | character
  | signed
  | unsigned
  | octal
  | hexadecimal
  deriving DecidableEq, Repr

/-- How octets are shown in a line. -/
structure DumpStyle where
  kind : UnitKind
  /-- How many octets a unit has. -/
  size : Nat
  /-- Whether the octets are written after the units. -/
  trailing : Bool := false
  deriving DecidableEq, Repr

/-- The width of a unit without the blank before it. -/
def DumpStyle.width (s : DumpStyle) : Nat :=
  let greatest := Nat.pow 256 s.size - 1
  match s.kind with
  | .name | .character => 3
  | .signed => (toString (greatest / 2 + 1)).length + 1
  | .unsigned => (toString greatest).length
  | .octal => (Nat.toDigits 8 greatest).length
  | .hexadecimal => 2 * s.size

/-- The names of the octets that are not shown. -/
def controlNames : List String :=
  ["nul", "soh", "stx", "etx", "eot", "enq", "ack", "bel", "bs", "ht", "nl", "vt", "ff", "cr", "so",
    "si", "dle", "dc1", "dc2", "dc3", "dc4", "nak", "syn", "etb", "can", "em", "sub", "esc", "fs",
    "gs", "rs", "us", "sp"]

/-- An octet as a character, an escape or three digits. -/
def characterText (c : Char) : String :=
  match c with
  | '\x00' => "\\0"
  | '\x07' => "\\a"
  | '\x08' => "\\b"
  | '\x0c' => "\\f"
  | '\n' => "\\n"
  | '\r' => "\\r"
  | '\t' => "\\t"
  | '\x0b' => "\\v"
  | c => if isShown c then c.toString else String.ofList (octalDigits c)

/-- Digits with zeros before them. -/
def zeroPadded (width : Nat) (digits : List Char) : String :=
  String.ofList (List.replicate (width - digits.length) '0' ++ digits)

/-- A unit of octets; `bigEndian` says that the first octet counts most. -/
def DumpStyle.unitText (s : DumpStyle) (bigEndian : Bool) (cs : List Char) : String :=
  let cs := cs ++ List.replicate (s.size - cs.length) '\x00'
  let value := (if bigEndian then cs else cs.reverse).foldl (fun n c => n * 256 + c.toNat) 0
  match s.kind with
  | .name =>
    let n := value % 128
    if n = 127 then "del" else controlNames.getD n (Char.ofNat n).toString
  | .character => characterText (cs.headD '\x00')
  | .signed =>
    let half := Nat.pow 256 s.size / 2
    if value < half then toString value else "-" ++ toString (Nat.pow 256 s.size - value)
  | .unsigned => toString value
  | .octal => zeroPadded s.width (Nat.toDigits 8 value)
  | .hexadecimal => zeroPadded s.width (Nat.toDigits 16 value)

/-- The number of octets in a unit that a text writes: digits or a letter. -/
def unitSizeOf (cs : List Char) : Option Nat × List Char :=
  match cs with
  | 'C' :: rest => (some 1, rest)
  | 'S' :: rest => (some 2, rest)
  | 'I' :: rest => (some 4, rest)
  | 'L' :: rest => (some 8, rest)
  | cs =>
    let digits := cs.takeWhile Char.isDigit
    ((String.ofList digits).toNat?, cs.drop digits.length)

/-- The styles that a text writes, or what is wrong with it; `fuel` exceeds its length. -/
def dumpStylesOf (text : String) : Nat → List Char → Except String (List DumpStyle)
  | 0, _ => .ok []
  | _, [] => .ok []
  | fuel + 1, c :: cs => do
    let invalid : String := "invalid type string " ++ quotedArgument text
    let kind? : Option UnitKind :=
      match c with
      | 'a' => some .name
      | 'c' => some .character
      | 'd' => some .signed
      | 'u' => some .unsigned
      | 'o' => some .octal
      | 'x' => some .hexadecimal
      | _ => none
    match kind? with
    | none =>
      throw ("invalid character '" ++ c.toString ++ "' in type string " ++ quotedArgument text)
    | some kind =>
      let bytewise := kind = .name ∨ kind = .character
      let (size?, rest) := if bytewise then (some 1, cs) else unitSizeOf cs
      let size := size?.getD 4
      if !([1, 2, 4, 8].contains size) then
        throw (invalid ++ ";\nthis system doesn't provide a " ++ toString size ++
          "-byte integral type")
      let (trailing, rest) :=
        match rest with
        | 'z' :: rest => (true, rest)
        | rest => (false, rest)
      return ⟨kind, size, trailing⟩ :: (← dumpStylesOf text fuel rest)

/-- How contents are shown. -/
structure Dump where
  styles : List DumpStyle
  /-- How many octets a line has. -/
  perLine : Nat
  /-- The base of the places, if they are shown. -/
  base : Option Nat
  /-- Whether lines that are the same are all shown. -/
  showsAll : Bool
  bigEndian : Bool

/-- The least number that several numbers divide. -/
def commonMultiple (ns : List Nat) : Nat :=
  ns.foldl Nat.lcm 1

/-- A place as it is shown. -/
def Dump.address (d : Dump) (n : Nat) : String :=
  match d.base with
  | none => ""
  | some base => zeroPadded (if base = 16 then 6 else 7) (Nat.toDigits base n)

/-- The octets of a line in one style. -/
def Dump.row (d : Dump) (s : DumpStyle) (cs : List Char) : String :=
  let blockSize := commonMultiple (d.styles.map DumpStyle.size)
  let blockWidth := d.styles.foldl (fun n t => max n ((t.width + 1) * (blockSize / t.size))) 0
  let fields := d.perLine / s.size
  let padding := (blockWidth - (s.width + 1) * (blockSize / s.size)) * (d.perLine / blockSize)
  let used := (cs.length + s.size - 1) / s.size
  let texts := (List.range used).map fun i =>
    let left := fields - i
    let before := padding * left / fields - padding * (left - 1) / fields
    padded (before + s.width + 1) (s.unitText d.bigEndian ((cs.drop (i * s.size)).take s.size))
  let trailing :=
    if s.trailing then
      let shown := String.join texts
      let whole := (s.width + 1) * fields + padding
      String.ofList (List.replicate (whole - shown.length) ' ') ++ "  >" ++
        String.ofList (cs.map fun c => if isShown c || c == ' ' then c else '.') ++ "<"
    else ""
  String.join texts ++ trailing

/-- The octets of a line in all styles. -/
def Dump.line (d : Dump) (place : Nat) (cs : List Char) : String :=
  let address := d.address place
  let blank := String.ofList (List.replicate address.length ' ')
  String.join (d.styles.mapIdx fun i s => (if i = 0 then address else blank) ++ d.row s cs ++ "\n")

/-- The lines of a content from a place on, where `before` is the line before and `hidden` says that
it was left out; `fuel` exceeds the number of lines. -/
def Dump.lines (d : Dump) : Nat → Nat → Option (List Char) → Bool → List Char → List String
  | 0, _, _, _, _ => []
  | fuel + 1, place, before, hidden, cs =>
    if cs.isEmpty then [if d.base.isSome then d.address place ++ "\n" else ""]
    else
      let line := cs.take d.perLine
      let rest := cs.drop d.perLine
      let place' := place + line.length
      if !d.showsAll && before == some line && line.length == d.perLine then
        (if hidden then "" else "*\n") :: d.lines fuel place' before true rest
      else d.line place line :: d.lines fuel place' (some line) false rest

/-- The options of `od`. -/
def odOptions : OptionTable where
  plain := "abcdilosvx"
  valued := "AjNt"
  optional := "w"
  long := [("address-radix", 'A'), ("skip-bytes", 'j'), ("read-bytes", 'N'), ("format", 't'),
    ("output-duplicates", 'v'), ("width", 'w')]
  longValued := ["endian"]

/-- The style that a letter asks for by itself. -/
def letterStyle? (letter : String) : Option DumpStyle :=
  match letter with
  | "a" => some ⟨.name, 1, false⟩
  | "b" => some ⟨.octal, 1, false⟩
  | "c" => some ⟨.character, 1, false⟩
  | "d" => some ⟨.unsigned, 2, false⟩
  | "i" => some ⟨.signed, 4, false⟩
  | "l" => some ⟨.signed, 8, false⟩
  | "o" => some ⟨.octal, 2, false⟩
  | "s" => some ⟨.signed, 2, false⟩
  | "x" => some ⟨.hexadecimal, 2, false⟩
  | _ => none

/-- The styles that arguments ask for in order, or what is wrong with them. -/
def requestedStyles : List (String × String) → Except String (List DumpStyle)
  | [] => .ok []
  | (key, value) :: rest => do
    let these ←
      if key = "t" then dumpStylesOf value (value.length + 1) value.toList
      else pure (letterStyle? key).toList
    return these ++ (← requestedStyles rest)

/-- A number in the base that its front tells, with a unit after it. -/
def dumpNumber? (text : String) : Option Nat :=
  let cs := text.toList
  let (base, digits) : Nat × List Char :=
    match cs with
    | '0' :: 'x' :: rest => (16, rest)
    | '0' :: 'X' :: rest => (16, rest)
    | '0' :: _ => (8, cs)
    | _ => (10, cs)
  let ds := digits.takeWhile fun c => (Text.digitIn? base c).isSome
  if ds.isEmpty then none
  else (unitFactor? (String.ofList (digits.drop ds.length))).map (Number.digitsValue base ds * ·)

/-- The way of showing contents that arguments ask for, or what is wrong with them. -/
def dumpOf (a : Arguments) : Except String Dump := do
  let base ←
    match a.value? "A" with
    | none | some "o" => pure (some 8)
    | some "d" => pure (some 10)
    | some "x" => pure (some 16)
    | some "n" => pure none
    | some text =>
      throw ("invalid output address radix '" ++ text ++
        "'; it must be one character from [doxn]")
  let requested ← requestedStyles a.options
  let styles := if requested.isEmpty then [⟨.octal, 2, false⟩] else requested
  let unit := commonMultiple (styles.map DumpStyle.size)
  let perLine ←
    match a.value? "w" with
    | none => pure (16 / unit * unit)
    | some "" => pure 32
    | some text =>
      match dumpNumber? text with
      | none => throw ("invalid -w argument " ++ quotedArgument text)
      | some n => pure (if n = 0 ∨ n % unit ≠ 0 then unit else n)
  return { styles := styles, perLine := perLine, base := base, showsAll := a.has "v"
           bigEndian := a.value? "endian" == some "big" }

/-- Shows contents in numbers. -/
def od (args : List String) : Act Nat :=
  withArguments "od" odOptions 1 args fun a => do
    for key in ["j", "N"] do
      if let some text := (a.value? key).filter fun t => (dumpNumber? t).isNone then
        report "od" ("invalid -" ++ key ++ " argument " ++ quotedArgument text)
        return 1
    match dumpOf a with
    | .error problem =>
      report "od" problem
      return 1
    | .ok d =>
      let mut gathered : List (List Char) := []
      let mut status := 0
      let mut opened := false
      for operand in if a.operands.isEmpty then ["-"] else a.operands do
        match ← contentOf operand with
        | .ok content =>
          gathered := content :: gathered
          opened := true
        | .error e =>
          report "od" (plainComplaint operand e)
          status := 1
          opened := opened || e == .isDirectory
      let content := gathered.reverse.flatten
      let skipped := ((a.value? "j").bind dumpNumber?).getD 0
      if content.length < skipped then
        report "od" "cannot skip past end of combined input"
        return 1
      let content := content.drop skipped
      let content :=
        match (a.value? "N").bind dumpNumber? with
        | some n => content.take n
        | none => content
      if opened then
        Act.say (String.join (d.lines (content.length + 1) skipped none false content))
      return status

end Pipeline.Shell.Utility
