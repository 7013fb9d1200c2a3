import Pipeline.Shell.Utility.Arguments
import Pipeline.Text.Blank

/-!
# Utilities that count

Lines, words and octets of contents, and the sums by which contents are checked.
-/

namespace Pipeline.Shell.Utility

/-- The number of words in a content: stretches without space in which something can be shown. -/
def wordsIn (content : List Char) : Nat :=
  go false content
where
  /-- The words that start from here on; `inside` tells whether one is under way. -/
  go (inside : Bool) : List Char → Nat
    | [] => 0
    | c :: cs =>
      if Text.isSpace c then go false cs
      else if isShown c && !inside then 1 + go true cs
      else go inside cs

/-- The greatest width of a line, with stops for tabs at every eighth column. -/
def widestLine (content : List Char) : Nat :=
  let (widest, last) := content.foldl (fun (acc : Nat × Nat) c =>
    if c = '\n' ∨ c = '\r' ∨ c = '\x0c' then (max acc.1 acc.2, 0)
    else if c = '\t' then (acc.1, (acc.2 / 8 + 1) * 8)
    else (acc.1, acc.2 + if isShown c then 1 else 0)) (0, 0)
  max widest last

/-- What `wc` counts of a content. -/
structure Counts where
  lines : Nat := 0
  words : Nat := 0
  octets : Nat := 0
  widest : Nat := 0

/-- The counts of a content. -/
def Counts.ofContent (content : List Char) : Counts :=
  ⟨content.count '\n', wordsIn content, content.length, widestLine content⟩

/-- The counts of two contents together. -/
def Counts.add (a b : Counts) : Counts :=
  ⟨a.lines + b.lines, a.words + b.words, a.octets + b.octets, max a.widest b.widest⟩

/-- The columns that are asked for, all the usual ones if none is. -/
def Counts.columns (a : Arguments) (c : Counts) : List Nat :=
  let usual := !(["l", "w", "c", "m", "L"].any a.has)
  (if usual || a.has "l" then [c.lines] else []) ++
    (if usual || a.has "w" then [c.words] else []) ++
    (if a.has "m" then [c.octets] else []) ++
    (if usual || a.has "c" then [c.octets] else []) ++
    (if a.has "L" then [c.widest] else [])

/-- The width of the columns: that of the sum of all sizes, but wide where a size is not known. -/
def countWidth (s : State) (operands : List String) : Nat :=
  let sizes := operands.map fun o =>
    if o = "-" then some s.inputFileSize?
    else
      match s.files.at? s.workingDir o with
      | none => none
      | some (.file content) => some (some content.length)
      | some _ => some none
  let known := (sizes.filterMap id).filterMap id
  let least := if (sizes.filterMap id).any Option.isNone then 7 else 1
  max least (toString (known.foldl (· + ·) 0)).length

/-- When `wc` writes a line for all contents together. -/
def totalWords : List String :=
  ["auto", "always", "only", "never"]

/-- Counts lines, words and octets. -/
def wc (args : List String) : Act Nat :=
  withArguments "wc"
    { plain := "lwcmL", longValued := ["total", "files0-from"]
      long := [("bytes", 'c'), ("chars", 'm'), ("lines", 'l'), ("words", 'w'),
        ("max-line-length", 'L')] }
    1 args fun a => do
      let total := (a.value? "total").getD "auto"
      if !totalWords.contains total then
        report "wc" ("invalid argument " ++ quotedArgument total ++ " for '--total'")
        Act.warn ("Valid arguments are:\n" ++
          String.join (totalWords.map fun w => "  - '" ++ w ++ "'\n"))
        pointToHelp "wc"
        return 1
      let operands := if a.operands.isEmpty then ["-"] else a.operands
      let single := (Counts.columns a {}).length = 1 && operands.length = 1
      let s ← get
      let width := if single || total = "only" then 1 else countWidth s operands
      let row (c : Counts) (label : String) : String :=
        String.intercalate " " ((c.columns a).map fun n => padded width (toString n)) ++
          (if label.isEmpty then "" else " " ++ label) ++ "\n"
      let mut sum : Counts := {}
      let mut status := 0
      for operand in operands do
        if operand.isEmpty then
          report "wc" "invalid zero-length file name"
          status := 1
        else
          match ← contentOf operand with
          | .ok content =>
            let counts := Counts.ofContent content
            sum := sum.add counts
            if total != "only" then
              Act.say (row counts (if a.operands.isEmpty then "" else operand))
          | .error e =>
            report "wc" (plainComplaint operand e)
            if e = .isDirectory && total != "only" then Act.say (row {} operand)
            status := 1
      if total = "always" || total = "only" || (total = "auto" && 1 < operands.length) then
        Act.say (row sum (if total = "only" then "" else "total"))
      return status

/-- One step of a sum with a remainder of polynomials, bit by bit. -/
def remainderStep (n : UInt32) (octet : UInt8) : UInt32 :=
  (List.range 8).foldl (fun (r : UInt32) _ =>
    if r &&& 0x80000000 = 0 then r <<< 1 else r <<< 1 ^^^ 0x04C11DB7)
    (n ^^^ octet.toUInt32 <<< 24)

/-- The octets of a number, the least first. -/
def octetsOfNumber : Nat → Nat → List UInt8
  | 0, _ => []
  | fuel + 1, n => if n = 0 then [] else UInt8.ofNat (n % 256) :: octetsOfNumber fuel (n / 256)

/-- The check sum of octets, in which their number counts too. -/
def checkSum (octets : List UInt8) : UInt32 :=
  ((octets ++ octetsOfNumber 9 octets.length).foldl remainderStep 0) ^^^ 0xFFFFFFFF

/-- The check sum of octets that turns at each. -/
def turningSum (octets : List UInt8) : Nat :=
  octets.foldl (fun (n : Nat) b => (n / 2 + n % 2 * 32768 + b.toNat) % 65536) 0

/-- Writes the check sums of contents. -/
def sums (name : String) (text : List UInt8 → String) (args : List String) : Act Nat :=
  withArguments name {} 1 args fun a =>
    forContents name a.operands plainComplaint 1 fun operand content =>
      Act.say (text (Text.octetsOf content) ++
        (if a.operands.isEmpty then "" else " " ++ operand) ++ "\n")

/-- Writes check sums and sizes. -/
def cksum : List String → Act Nat :=
  sums "cksum" fun octets => toString (checkSum octets).toNat ++ " " ++ toString octets.length

/-- Writes turning check sums and sizes in blocks. -/
def sum : List String → Act Nat :=
  sums "sum" fun octets =>
    let text := toString (turningSum octets)
    String.ofList (List.replicate (5 - text.length) '0') ++ text ++ " " ++
      padded 5 (toString ((octets.length + 1023) / 1024))

end Pipeline.Shell.Utility
