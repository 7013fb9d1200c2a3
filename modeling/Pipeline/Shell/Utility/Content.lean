import Pipeline.Shell.Regex.OfText
import Pipeline.Shell.Utility.Arguments
import Pipeline.Shell.Utility.Size

/-!
# Utilities that show contents

Contents are shown whole or in part, with marks and numbers, or backwards.
-/

namespace Pipeline.Shell.Utility

/-- An octet in letters that can be seen; `keep` says which octets stay. -/
def visible (keep : Char → Bool) (c : Char) : List Char :=
  let low (n : Nat) : List Char :=
    if n < 32 then ['^', Char.ofNat (n + 64)] else if n = 127 then ['^', '?'] else [Char.ofNat n]
  if keep c then [c]
  else if c.toNat < 128 then low c.toNat
  else ['M', '-'] ++ low (c.toNat - 128)

/-- Lines without those that are empty after an empty one. -/
def squeezeLines : Bool → List (List Char) → List (List Char)
  | _, [] => []
  | afterEmpty, line :: lines =>
    let isEmpty := line == ['\n']
    if isEmpty && afterEmpty then squeezeLines true lines
    else line :: squeezeLines isEmpty lines

/-- Lines with numbers in front, from `n` on; empty ones only if `all` says so. -/
def numberLines (all : Bool) : Nat → List (List Char) → List (List Char)
  | _, [] => []
  | n, line :: lines =>
    if all || line != ['\n'] then
      ((padded 6 (toString n)).toList ++ ['\t'] ++ line) :: numberLines all (n + 1) lines
    else line :: numberLines all n lines

/-- Shows contents one after the other. -/
def cat (args : List String) : Act Nat :=
  withArguments "cat"
    { plain := "AbeEnstTuv"
      long := [("number-nonblank", 'b'), ("number", 'n'), ("squeeze-blank", 's'),
        ("show-nonprinting", 'v'), ("show-ends", 'E'), ("show-tabs", 'T'), ("show-all", 'A')] }
    1 args fun a => do
      let showAll := a.has "A"
      let marks := showAll || a.has "v" || a.has "e" || a.has "t"
      let ends := showAll || a.has "E" || a.has "e"
      let tabs := showAll || a.has "T" || a.has "t"
      let keep (c : Char) : Bool :=
        c == '\n' || (c == '\t' && !tabs) || (!marks && !(c == '\t' && tabs))
      let shown (line : List Char) : List Char :=
        line.flatMap fun c => if c = '\n' && ends then ['$', '\n'] else visible keep c
      let mut gathered : List (List Char) := []
      let mut status := 0
      for operand in if a.operands.isEmpty then ["-"] else a.operands do
        match ← contentOf operand with
        | .ok content => gathered := content :: gathered
        | .error e =>
          report "cat" (plainComplaint operand e)
          status := 1
      let content := gathered.reverse.flatten
      if a.options.all fun o => o.1 == "u" then put content
      else
        let lines := linesOf content
        let lines := if a.has "s" then squeezeLines false lines else lines
        let nonblank := a.has "b"
        let plainLines := lines.map fun line =>
          if line = ['\n'] ∧ nonblank then line else shown line
        let numbered :=
          if nonblank || a.has "n" then
            (numberLines (!nonblank) 1 lines).zip lines |>.map fun (n, line) =>
              n.take (n.length - line.length) ++ shown line
          else plainLines
        put numbered.flatten
      return status

/-- The complaint about a file that cannot be opened or read. -/
def openComplaint (operand : String) (e : FileError) : String :=
  if e = .isDirectory then
    "error reading " ++
      quoted (if operand = "-" then "standard input" else operand) ++ ": " ++ e.reason
  else "cannot open " ++ quoted operand ++ " for reading: " ++ e.reason

/-- The parts at the front. -/
def headOf {α : Type} (count : CountFrom × Nat) (parts : List α) : List α :=
  if count.1 = .back then parts.take (parts.length - count.2) else parts.take count.2

/-- The parts at the end. -/
def tailOf {α : Type} (count : CountFrom × Nat) (parts : List α) : List α :=
  if count.1 = .front then parts.drop (count.2 - 1) else parts.drop (parts.length - count.2)

/-- What is left of a content after its first lines. -/
def afterHead (count : CountFrom × Nat) (octets : Bool) (content : List Char) : List Char :=
  if count.1 = .back then []
  else if octets then content.drop count.2
  else ((linesOf content).drop count.2).flatten

/-- The arguments with a count at the front, such as `-5c`, written as options. -/
def expandCount (signs : List Char) (args : List String) : List String :=
  match args with
  | [] => []
  | arg :: rest =>
    match arg.toList with
    | sign :: cs =>
      let digits := cs.takeWhile Char.isDigit
      let letters := cs.drop digits.length
      if signs.contains sign && !digits.isEmpty &&
          letters.all fun c => "bcklmqvfz".toList.contains c
      then
        let unit := letters.filter fun c => c == 'b' || c == 'k' || c == 'm'
        let octets := letters.contains 'c' || !unit.isEmpty
        let kept := letters.filter fun c => c == 'q' || c == 'v' || c == 'f' || c == 'z'
        let number := (if sign = '+' then ['+'] else []) ++ digits ++ unit
        (kept.map fun c => String.ofList ['-', c]) ++
          [if octets then "-c" else "-n", String.ofList number] ++ rest
      else args
    | [] => args

/-- Shows one end of contents; the two utilities that do so differ in what they show. -/
def endOf (name : String) (signs : List Char)
    (shown : (α : Type) → CountFrom × Nat → List α → List α) (args : List String) : Act Nat :=
  withArguments name
    { plain := "qvfFz", valued := "nc"
      long := [("lines", 'n'), ("bytes", 'c'), ("quiet", 'q'), ("silent", 'q'), ("verbose", 'v'),
        ("zero-terminated", 'z'), ("follow", 'f')] }
    1 (expandCount signs args) fun a => do
      let octets := a.last? ["n", "c"] == some "c"
      let text := (a.value? (if octets then "c" else "n")).getD "10"
      match signedSizeOf text with
      | .error e =>
        let bare := if name = "head" then text.toList.dropWhile (· = '-') else text.toList
        report name ("invalid number of " ++ (if octets then "bytes" else "lines") ++ ": " ++
          quotedArgument (String.ofList bare) ++ e.ending)
        return 1
      | .ok count =>
        let labelled := a.last? ["q", "v"]
        let several := (1 < a.operands.length || labelled == some "v") && labelled != some "q"
        let mut status := 0
        let mut first := true
        for operand in if a.operands.isEmpty then ["-"] else a.operands do
          let label := if operand = "-" then "standard input" else operand
          let before := (if first then "" else "\n") ++ "==> " ++ label ++ " <==\n"
          let left := (← get).inputFileSize?
          match ← contentOf operand with
          | .error e =>
            if several && e == .isDirectory then
              Act.say before
              first := false
            report name (openComplaint operand e)
            status := 1
          | .ok content =>
            if several then Act.say before
            first := false
            let swap := swapEnds (a.has "z")
            if octets then put (shown Char count content)
            else put (swap (shown (List Char) count (linesOf (swap content))).flatten)
            if operand = "-" && name = "head" && left.isSome then
              restore (afterHead count octets content)
        return status
where
  /-- Puts back what was not shown of a file on standard input. -/
  restore (content : List Char) : Act Unit :=
    modify fun s =>
      match s.descriptors.lookup 0 with
      | some stream => { s with streams := s.streams.set stream (.remaining content true) }
      | none => s

/-- Shows contents backwards line by line. -/
def tac (args : List String) : Act Nat :=
  withArguments "tac"
      { plain := "br", valued := "s", long := [("before", 'b'), ("separator", 's')] }
    1 args fun a =>
      forContents "tac" a.operands
        (fun operand e =>
          if e = .isDirectory then quotedIfNeeded operand ++ ": read error: Invalid argument"
          else "failed to open " ++ quoted operand ++ " for reading: " ++ e.reason)
        1 fun _ content =>
          match a.value? "s" with
          | some separator =>
            let parts := (String.ofList content).splitOn separator
            let whole := (parts.dropLast.map (· ++ separator)) ++
              if parts.getLast? = some "" then [] else [parts.getLastD ""]
            Act.say (String.join whole.reverse)
          | none => put (linesOf content).reverse.flatten

/-- Shows the characters of each line backwards. -/
def rev (args : List String) : Act Nat :=
  withArguments "rev" {} 1 args fun a =>
    forContents "rev" a.operands (fun operand e => "cannot open " ++ operand ++ ": " ++ e.reason) 1
      fun _ content =>
        for line in linesOf content do
          put ((withoutEnd line).reverse ++ if line.getLast? = some '\n' then ['\n'] else [])

/-- How `nl` writes a number. -/
def numberText (format : String) (width : Nat) (n : Int) : String :=
  let text := toString n
  let fill (c : Char) : String := String.ofList (List.replicate (width - text.length) c)
  match format with
  | "ln" => text ++ fill ' '
  | "rz" => fill '0' ++ text
  | _ => fill ' ' ++ text

/-- Which lines of a section are numbered. -/
inductive NumberedLines where
  | all
  | none
  | nonempty
  | matching (pattern : Regex)

/-- The lines that a word asks to be numbered. -/
def NumberedLines.ofText? (text : String) : Option NumberedLines :=
  match text.toList with
  | ['a'] => some .all
  | ['n'] => some .none
  | ['t'] => some .nonempty
  | 'p' :: pattern => (Regex.ofText {} pattern).toOption.map .matching
  | _ => Option.none

/-- Whether a line is numbered. -/
def NumberedLines.holds (kind : NumberedLines) (line : List Char) : Bool :=
  match kind with
  | .all => true
  | .none => false
  | .nonempty => !line.isEmpty
  | .matching r => (r.find? false line.toArray 0).isSome

/-- The section that a line of delimiters begins. -/
def sectionOf? (delimiter line : List Char) : Option Char :=
  if line = delimiter ++ delimiter ++ delimiter then some 'h'
  else if line = delimiter ++ delimiter then some 'b'
  else if line = delimiter then some 'f'
  else none

/-- The options of `nl`. -/
def nlOptions : OptionTable where
  plain := "p"
  valued := "bdfhilnsvw"
  long := [("body-numbering", 'b'), ("section-delimiter", 'd'), ("footer-numbering", 'f'),
    ("header-numbering", 'h'), ("line-increment", 'i'), ("join-blank-lines", 'l'),
    ("number-format", 'n'), ("no-renumber", 'p'), ("number-separator", 's'),
    ("starting-line-number", 'v'), ("number-width", 'w')]

/-- Numbers the lines of contents. -/
def nl (args : List String) : Act Nat :=
  withArguments "nl" nlOptions 1 args fun a => do
    let kindOf (key usual : String) : Option NumberedLines :=
      NumberedLines.ofText? ((a.value? key).getD usual)
    let sections := [("h", "header", "n"), ("b", "body", "t"), ("f", "footer", "n")]
    for (key, name, usual) in sections do
      if (kindOf key usual).isNone then
        return ← reportUse "nl" ("invalid " ++ name ++ " numbering style: " ++
          quotedArgument ((a.value? key).getD ""))
    let format := (a.value? "n").getD "rn"
    if !(["rn", "ln", "rz"].contains format) then
      return ← reportUse "nl" ("invalid line numbering format: " ++ quotedArgument format)
    let numbers := [("v", "starting line number"), ("i", "line number increment"),
      ("l", "line number of blank lines"), ("w", "line number field width")]
    for (key, name) in numbers do
      if let some text := a.value? key then
        let least : Int := if key = "w" || key = "l" then 1 else -9223372036854775808
        match text.toInt? with
        | none =>
          report "nl" ("invalid " ++ name ++ ": " ++ quotedArgument text)
          return 1
        | some n =>
          if n < least then
            report "nl" ("invalid " ++ name ++ ": " ++ quotedArgument text ++
              ": Numerical result out of range")
            return 1
    let number (key : String) (usual : Int) : Int := ((a.value? key).bind String.toInt?).getD usual
    let width := (number "w" 6).toNat
    let separator := (a.value? "s").getD "\t"
    let blank := String.ofList (List.replicate (width + separator.length) ' ')
    let delimiter :=
      match ((a.value? "d").getD "\\:").toList with
      | [c] => [c, ':']
      | cs => cs
    let mut n := number "v" 1
    let mut part := 'b'
    let mut empties := 0
    let mut gathered : List (List Char) := []
    let mut status := 0
    for operand in if a.operands.isEmpty then ["-"] else a.operands do
      match ← contentOf operand with
      | .ok content => gathered := content :: gathered
      | .error e =>
        report "nl" (plainComplaint operand e)
        status := 1
    for line in bareLinesOf gathered.reverse.flatten do
      if let some next := if delimiter.isEmpty then none else sectionOf? delimiter line then
        part := next
        if next = 'h' && !a.has "p" then n := number "v" 1
        Act.say "\n"
      else
        let kind := (kindOf part.toString (if part = 'b' then "t" else "n")).getD .nonempty
        empties := if line.isEmpty then empties + 1 else 0
        let joined := match kind with | .all => number "l" 1 | _ => 1
        let skipped := line.isEmpty && (empties : Int) < joined
        if kind.holds line && !skipped then
          Act.say (numberText format width n ++ separator)
          n := n + number "i" 1
          empties := 0
        else Act.say blank
        put (line ++ ['\n'])
    return status

/-- Shows standard input and writes it to files. -/
def tee (args : List String) : Act Nat :=
  withArguments "tee" { plain := "aip", long := [("append", 'a'), ("ignore-interrupts", 'i')] }
    1 args fun a => do
      let content ← Act.readAll
      let octets := Text.octetsOf content
      let mut status := 0
      for operand in a.operands do
        let dir := (← get).workingDir
        let written ← change "tee" (plainComplaint operand) fun f =>
          if a.has "a" then f.append dir operand octets else f.write dir operand octets
        if !written then status := 1
      put content
      return status

end Pipeline.Shell.Utility
