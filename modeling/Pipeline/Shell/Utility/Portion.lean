import Pipeline.Shell.Utility.Arguments
import Pipeline.Shell.Utility.Size

/-!
# Utilities for portions

A content is cut into files of some size, or copied in blocks.
-/

namespace Pipeline.Shell.Utility

/-- How a content is cut. -/
inductive Cutting where
  | lines (count : Nat)
  | octets (count : Nat)
  /-- Lines, as many as have room. -/
  | lineOctets (count : Nat)
  /-- A number of parts, of which one may be asked for. -/
  | parts (byLine : Bool) (count : Nat) (only : Option Nat)
  /-- Lines in turn. -/
  | turns (count : Nat) (only : Option Nat)

/-- The lists of a size at most that a list consists of; `fuel` exceeds its length. -/
def portions {α : Type} (size : Nat) : Nat → List α → List (List α)
  | 0, _ => []
  | _, [] => []
  | fuel + 1, l => l.take size :: portions size fuel (l.drop size)

/-- Lines put together as long as they have room; longer ones are cut. -/
def packed (size : Nat) : List (List Char) → List Char → List (List Char)
  | [], acc => if acc.isEmpty then [] else [acc]
  | line :: lines, acc =>
    if acc.length + line.length ≤ size then packed size lines (acc ++ line)
    else
      let before := if acc.isEmpty then [] else [acc]
      if line.length ≤ size then before ++ packed size lines line
      else
        let pieces := portions size (line.length + 1) line
        before ++ pieces.dropLast ++ packed size lines (pieces.getLastD [])

/-- The places where each of some parts of a size ends. -/
def partEnds (size count : Nat) : List Nat :=
  (List.range count).map fun i => (i + 1) * (size / count) + min (i + 1) (size % count)

/-- Lines in parts that end with the line in which places lie; `taken` octets were taken. -/
def lineParts : List Nat → Nat → List (List Char) → List (List Char)
  | [], _, _ => []
  | stop :: stops, taken, lines =>
    let (mine, rest) := takeUntil stop taken lines
    mine.flatten :: lineParts stops (taken + mine.flatten.length) rest
where
  /-- The lines that start before a place, and the others. -/
  takeUntil (stop : Nat) : Nat → List (List Char) → List (List Char) × List (List Char)
    | _, [] => ([], [])
    | taken, line :: lines =>
      if taken < stop then
        let (mine, rest) := takeUntil stop (taken + line.length) lines
        (line :: mine, rest)
      else ([], line :: lines)

/-- The portions of a content. -/
def Cutting.cut (c : Cutting) (delimiter : Char) (content : List Char) : List (List Char) :=
  let swap (d : Char) : Char :=
    if d = delimiter then '\n' else if d = '\n' then delimiter else d
  let rows := (linesOf (content.map swap)).map (List.map swap)
  match c with
  | .lines count => (portions count (content.length + 1) rows).map List.flatten
  | .octets count => portions count (content.length + 1) content
  | .lineOctets count => packed count rows []
  | .parts byLine count _ =>
    let ends := partEnds content.length count
    if byLine then lineParts ends 0 rows
    else
      (ends.foldl (fun (acc : List (List Char) × Nat) stop =>
        (((content.drop acc.2).take (stop - acc.2)) :: acc.1, stop)) ([], 0)).1.reverse
  | .turns count _ =>
    let numbered := rows.zipIdx
    (List.range count).map fun i =>
      (numbered.filter fun (x : List Char × Nat) => x.2 % count == i).flatMap Prod.fst

/-- The part that alone is asked for. -/
def Cutting.only? : Cutting → Option Nat
  | .parts _ _ only => only
  | .turns _ only => only
  | _ => none

/-- A number in digits of an alphabet, at least as many as asked for. -/
def suffixDigits (alphabet : List Char) (length n : Nat) : List Char :=
  (List.range length).map fun i =>
    let size := alphabet.length
    alphabet.getD (n / Nat.pow size (length - 1 - i) % size) '?'

/-- The ending of a portion by its number; endings grow longer before the last letter is used up;
`fuel` exceeds how often. -/
def growingSuffix (alphabet : List Char) : Nat → Nat → Nat → List Char
  | 0, length, n => suffixDigits alphabet length n
  | fuel + 1, length, n =>
    let size := alphabet.length
    let room := (size - 1) * Nat.pow size (length - 1)
    if n < room then suffixDigits alphabet length n
    else alphabet.getD (size - 1) '?' :: growingSuffix alphabet fuel (length + 1) (n - room)

/-- The options of `split`. -/
def splitOptions : OptionTable where
  plain := "dexu0123456789"
  valued := "abClnt"
  long := [("suffix-length", 'a'), ("bytes", 'b'),
    ("line-bytes", 'C'), ("lines", 'l'), ("number", 'n'),
    ("separator", 't'), ("elide-empty-files", 'e'), ("unbuffered", 'u')]
  longPlain := ["verbose"]
  longValued := ["additional-suffix", "filter"]
  longOptional := ["numeric-suffixes", "hex-suffixes"]

/-- The way of cutting that a text with a number of parts asks for. -/
def Cutting.ofParts? (text : String) : Option Cutting := do
  let number (s : String) : Option Nat := s.toNat?.filter (0 < ·)
  match text.splitOn "/" with
  | [n] => return .parts false (← number n) none
  | ["l", n] => return .parts true (← number n) none
  | ["r", n] => return .turns (← number n) none
  | ["l", k, n] => return .parts true (← number n) (some (← number k))
  | ["r", k, n] => return .turns (← number n) (some (← number k))
  | [k, n] => return .parts false (← number n) (some (← number k))
  | _ => none

/-- The way of cutting that arguments ask for, or what is wrong with them. -/
def Cutting.ofArguments (a : Arguments) : Except String Cutting := do
  let digits := String.join ((a.options.map Prod.fst).filter fun key =>
    key.toList.all Char.isDigit)
  let size (what text : String) : Except String Nat :=
    match (sizeOf text).toOption.filter (0 < ·) with
    | some n => .ok n
    | none => .error ("invalid number of " ++ what ++ ": " ++ quotedArgument text)
  match a.last? ["l", "b", "C", "n"] with
  | some "b" => return .octets (← size "bytes" ((a.value? "b").getD ""))
  | some "C" => return .lineOctets (← size "bytes" ((a.value? "C").getD ""))
  | some "n" =>
    let text := (a.value? "n").getD ""
    match Cutting.ofParts? text with
    | some c => return c
    | none => throw ("invalid number of chunks: " ++ quotedArgument text)
  | some _ => return .lines (← size "lines" ((a.value? "l").getD ""))
  | none => return .lines (← size "lines" (if digits.isEmpty then "1000" else digits))

/-- Writes a portion to a file or a command; tells whether that was possible. -/
def writePortion (system : System) (a : Arguments) (name : String) (content : List Char) :
    Act Bool := do
  match a.value? "filter" with
  | some command =>
    let before := (← get).bindings.lookup "FILE"
    modify fun s => s.withVariable "FILE" ⟨some name, true, false⟩
    let _ ← system.feed "sh" command content
    modify fun s => s.withVariable? "FILE" before
    return true
  | none =>
    if a.has "verbose" then Act.say ("creating file " ++ quoted name ++ "\n")
    let dir := (← get).workingDir
    change "split" (plainComplaint name) fun f => f.write dir name (Text.octetsOf content)

/-- Cuts a content into files. -/
def split (system : System) (args : List String) : Act Nat :=
  withArguments "split" splitOptions 1 args fun a => do
    let fail (text : String) : Act Nat := do
      report "split" text
      return 1
    let kinds := ((a.options.map Prod.fst).filter ["l", "b", "C", "n"].contains).eraseDups
    if 1 < kinds.length then return ← reportUse "split" "cannot split in more than one way"
    match Cutting.ofArguments a with
    | .error problem => fail problem
    | .ok cutting =>
      if let some text := (a.value? "a").filter fun t => t.toNat?.isNone then
        return ← fail ("invalid suffix length: " ++ quotedArgument text)
      if let _ :: _ :: extra :: _ := a.operands then
        return ← reportUse "split" ("extra operand " ++ quotedArgument extra)
      let operand := a.operands.headD "-"
      let stem := (a.operands.drop 1).headD "x"
      match ← contentOf operand with
      | .error e =>
        fail (if e = .isDirectory then quotedIfNeeded operand ++ ": read error: " ++ e.reason
          else "cannot open " ++ quoted operand ++ " for reading: " ++ e.reason)
      | .ok content =>
        let delimiter :=
          if a.value? "t" == some "\\0" then '\x00' else ((a.value? "t").getD "\n").front
        let pieces := cutting.cut delimiter content
        let pieces := if a.has "e" then pieces.filter fun p => !p.isEmpty else pieces
        if let some k := cutting.only? then
          put (pieces.getD (k - 1) [])
          return 0
        let start := ((a.value? "numeric-suffixes").or (a.value? "hex-suffixes")).bind String.toNat?
        let alphabet :=
          if a.has "d" || a.has "numeric-suffixes" then "0123456789".toList
          else if a.has "x" || a.has "hex-suffixes" then "0123456789abcdef".toList
          else "abcdefghijklmnopqrstuvwxyz".toList
        let length := ((a.value? "a").bind String.toNat?).filter (0 < ·)
        let ending := (a.value? "additional-suffix").getD ""
        let mut n := start.getD 0
        for piece in pieces do
          if length.any fun l => Nat.pow alphabet.length l ≤ n then
            return ← fail "output file suffixes exhausted"
          let suffix :=
            match length, start with
            | some l, _ => suffixDigits alphabet l n
            | none, some _ => suffixDigits alphabet 2 n
            | none, none => growingSuffix alphabet 20 2 n
          if !(← writePortion system a (stem ++ String.ofList suffix ++ ending) piece) then return 1
          n := n + 1
        return 0

/-- The number that a text for blocks writes: factors with units, and an `x` between them. -/
def blockNumber? (text : String) : Option Nat :=
  let factor (s : String) : Option Nat :=
    let digits := s.toList.takeWhile Char.isDigit
    let unit := String.ofList (s.toList.drop digits.length)
    let size? : Option Nat :=
      match unit with
      | "c" | "B" => some 1
      | "w" => some 2
      | unit => unitFactor? unit
    match (String.ofList digits).toNat?, size? with
    | some n, some size => some (n * size)
    | _, _ => none
  ((text.splitOn "x").mapM factor).map fun ns => ns.foldl (· * ·) 1

/-- The words that `dd` knows for what is done with octets. -/
def conversionWords : List String :=
  ["notrunc", "ucase", "lcase", "swab", "sync", "noerror", "fsync", "fdatasync", "excl", "nocreat",
    "sparse", "ascii", "ebcdic", "ibm", "block", "unblock"]

/-- Octets in pairs the other way round. -/
def swapPairs : List Char → List Char
  | a :: b :: cs => b :: a :: swapPairs cs
  | cs => cs

/-- Blocks filled up to a size. -/
def filledBlocks (size : Nat) (content : List Char) : List Char :=
  content ++ List.replicate ((size - content.length % size) % size) '\x00'

/-- How many whole blocks and whether one more part a number of octets has. -/
def blockCount (octets size : Nat) : String :=
  toString (octets / size) ++ "+" ++ (if octets % size = 0 then "0" else "1")

/-- Copies a content in blocks. -/
def dd (args : List String) : Act Nat := do
  let fail (text : String) : Act Nat := do
    report "dd" text
    return 1
  let settings := args.map fun arg =>
    let key := String.ofList (arg.toList.takeWhile (· ≠ '='))
    (arg, key, String.ofList (arg.toList.drop (key.length + 1)))
  let known := ["if", "of", "bs", "ibs", "obs",
    "cbs", "count", "skip", "seek", "iseek", "oseek", "conv",
    "status", "iflag", "oflag"]
  for (arg, key, value) in settings do
    if !(known.contains key) || !(arg.toList.contains '=') then
      return ← reportUse "dd" ("unrecognized operand " ++ quotedArgument arg)
    if key = "conv" then
      if let some word := (value.splitOn ",").find? fun w => !(conversionWords.contains w) then
        return ← reportUse "dd" ("invalid conversion: " ++ quotedArgument word)
    if key = "status" && !(["none", "noxfer", "progress"].contains value) then
      return ← reportUse "dd" ("invalid status level: " ++ quotedArgument value)
    if ["bs", "ibs", "obs", "cbs", "count", "skip", "seek", "iseek", "oseek"].contains key then
      let least := if ["bs", "ibs", "obs", "cbs"].contains key then 1 else 0
      if !((blockNumber? value).any (least ≤ ·)) then
        return ← fail ("invalid number: " ++ quotedArgument value)
  let text? (key : String) : Option String :=
    (settings.reverse.find? fun s => s.2.1 == key).map fun s => s.2.2
  let number? (key : String) : Option Nat := (text? key).bind blockNumber?
  let words := ((settings.filter fun s => s.2.1 == "conv").map fun s => s.2.2.splitOn ",").flatten
  if words.contains "ucase" && words.contains "lcase" then
    return ← fail "cannot combine lcase and ucase"
  let inSize := ((number? "bs").or (number? "ibs")).getD 512
  let outSize := ((number? "bs").or (number? "obs")).getD 512
  let seek := ((number? "seek").or (number? "oseek")).getD 0 * outSize
  let skip := ((number? "skip").or (number? "iseek")).getD 0 * inSize
  let left := (← get).inputFileSize?
  match ← contentOf ((text? "if").getD "-") with
  | .error e =>
    let name := quoted ((text? "if").getD "standard input")
    if e = .isDirectory then
      let _ ← fail ("error reading " ++ name ++ ": " ++ e.reason)
      if (text? "status") != some "none" then Act.warn "0+0 records in\n0+0 records out\n"
      return 1
    else fail ("failed to open " ++ name ++ ": " ++ e.reason)
  | .ok content =>
    let rest := content.drop skip
    let taken := ((number? "count").map fun n => rest.take (n * inSize)).getD rest
    let octets := if words.contains "sync" then filledBlocks inSize taken else taken
    let octets := if words.contains "swab" then swapPairs octets else octets
    let octets :=
      if words.contains "ucase" then octets.map Char.toUpper
      else if words.contains "lcase" then octets.map Char.toLower
      else octets
    if (text? "if").isNone && left.isSome then
      modify fun s =>
        match s.descriptors.lookup 0 with
        | some stream =>
          { s with streams := s.streams.set stream (.remaining (rest.drop taken.length) true) }
        | none => s
    match text? "of" with
    | none => put octets
    | some name =>
      let s ← get
      let before := ((s.files.read s.workingDir name).toOption.map Text.ofOctets).getD []
      let front := before.take seek
      let front := front ++ List.replicate (seek - front.length) '\x00'
      let back := if words.contains "notrunc" then before.drop (seek + octets.length) else []
      let written ← change "dd" (fun e => "failed to open " ++ quoted name ++ ": " ++ e.reason)
        fun f => f.write s.workingDir name (Text.octetsOf (front ++ octets ++ back))
      if !written then return 1
    if text? "status" != some "none" then
      Act.warn (blockCount taken.length inSize ++ " records in\n" ++
        blockCount octets.length outSize ++ " records out\n")
      if text? "status" != some "noxfer" then
        Act.warn (toString octets.length ++ " bytes copied, 0.0001 s, " ++
          toString (octets.length / 100) ++ ".0 kB/s\n")
    return 0

/-- The stretches of at least some characters that are shown, the one under way collected in
reverse. -/
def shownStretches (least : Nat) (acc : List Char) : List Char → List (List Char)
  | [] => if least ≤ acc.length then [acc.reverse] else []
  | c :: cs =>
    if isShown c || c == ' ' || c == '\t' then shownStretches least (c :: acc) cs
    else if least ≤ acc.length then acc.reverse :: shownStretches least [] cs
    else shownStretches least [] cs

/-- Shows the texts in contents of any kind. -/
def strings (args : List String) : Act Nat :=
  withArguments "strings"
      { plain := "af", valued := "ntoe", long := [("all", 'a'), ("bytes", 'n')] } 1
    args fun a =>
      forContents "strings" a.operands
        (fun operand e =>
          if e = .noSuchFile then quoted operand ++ ": No such file" else plainComplaint operand e)
        1 fun _ content =>
          putLines (shownStretches (((a.value? "n").bind String.toNat?).getD 4) [] content)

end Pipeline.Shell.Utility
