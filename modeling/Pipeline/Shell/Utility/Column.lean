import Pipeline.Shell.Utility.Arguments
import Pipeline.Shell.Utility.Sort

/-!
# Utilities for parts of lines

Fields and columns of lines are picked out, put next to each other, or brought to a width.
-/

namespace Pipeline.Shell.Utility

/-- A stretch of places, open at its end if there is none. -/
abbrev PlaceRange := Nat × Option Nat

/-- What is counted when parts are picked out. -/
inductive PartKind where
  | octets
  | fields
  deriving DecidableEq, Repr

/-- The stretch that a text writes, or what is wrong with it. -/
def placeRangeOf (kind : PartKind) (text : String) : Except String PlaceRange := do
  let fromOne := match kind with
    | .octets => "byte/character positions are numbered from 1"
    | .fields => "fields are numbered from 1"
  let invalid := match kind with
    | .octets => "invalid byte/character position "
    | .fields => "invalid field value "
  let number (digits : String) : Except String Nat :=
    match digits.toNat? with
    | some n => .ok n
    | none => .error (invalid ++ quotedArgument text)
  match text.splitOn "-" with
  | [n] =>
    let n ← if n.isEmpty then pure 0 else number n
    if n = 0 then throw fromOne
    return (n, some n)
  | ["", ""] => throw "invalid range with no endpoint: -"
  | [low, high] =>
    let first ← if low.isEmpty then pure 1 else number low
    if first = 0 then throw fromOne
    if high.isEmpty then return (first, none)
    else
      let last ← number high
      if last < first then throw "invalid decreasing range"
      return (first, some last)
  | _ =>
    throw (match kind with
      | .octets => "invalid byte or character range"
      | .fields => "invalid field range")

/-- Whether a place, counted from one, lies in a stretch. -/
def inRange (ranges : List PlaceRange) (n : Nat) : Bool :=
  ranges.any fun r => r.1 ≤ n && r.2.all fun last => n ≤ last

/-- The parts whose places are picked. -/
def pick {α : Type} (wanted : Nat → Bool) (parts : List α) : List α :=
  (parts.zipIdx.filter fun p => wanted (p.2 + 1)).map Prod.fst

/-- The elements of a list that stand next to each other by their places. -/
def adjacent {α : Type} : List (α × Nat) → List (List α)
  | [] => []
  | (a, i) :: rest =>
    match rest, adjacent rest with
    | (_, j) :: _, group :: groups =>
      if j = i + 1 then (a :: group) :: groups else [a] :: group :: groups
    | _, groups => [a] :: groups

/-- What is picked out of lines. -/
structure Cut where
  kind : PartKind
  wanted : Nat → Bool
  delimiter : Char
  /-- What stands between parts in the output. -/
  joint : Option (List Char)
  onlyDelimited : Bool

/-- What is left of a line. -/
def Cut.line? (c : Cut) (line : List Char) : Option (List Char) :=
  match c.kind with
  | .octets =>
    match c.joint with
    | none => some (pick c.wanted line)
    | some joint =>
      some (joint.intercalate (adjacent (line.zipIdx.filter fun p => c.wanted (p.2 + 1))))
  | .fields =>
    if line.contains c.delimiter then
      some ((c.joint.getD [c.delimiter]).intercalate (pick c.wanted (line.splitOn c.delimiter)))
    else if c.onlyDelimited then none
    else some line

/-- Picks parts out of lines. -/
def cut (args : List String) : Act Nat :=
  withArguments "cut"
    { plain := "nsz", valued := "bcdf", longPlain := ["complement"]
      longValued := ["output-delimiter"]
      long := [("bytes", 'b'), ("characters", 'c'), ("fields", 'f'), ("delimiter", 'd'),
        ("only-delimited", 's'), ("zero-terminated", 'z')] }
    1 args fun a => do
      let lists := a.options.filter fun o => ["b", "c", "f"].contains o.1
      let kind := if a.has "f" then PartKind.fields else PartKind.octets
      let delimiter := (a.value? "d").map String.toList
      match lists with
      | [] => reportUse "cut" "you must specify a list of bytes, characters, or fields"
      | _ :: _ :: _ => reportUse "cut" "only one list may be specified"
      | [(_, list)] =>
        if delimiter.any fun d => 1 < d.length then
          return ← reportUse "cut" "the delimiter must be a single character"
        if kind = .octets && delimiter.isSome then
          return ← reportUse "cut"
            "an input delimiter may be specified only when operating on fields"
        if kind = .octets && a.has "s" then
          return ← reportUse "cut"
            "suppressing non-delimited lines makes sense\n\tonly when operating on fields"
        match ((list.splitOn ",").flatMap fun p => p.splitOn " ").mapM (placeRangeOf kind) with
        | .error problem => reportUse "cut" problem
        | .ok ranges =>
          let c : Cut :=
            { kind := kind
              wanted := fun n => inRange ranges n != a.has "complement"
              delimiter := match delimiter with | some [c] => c | some _ => '\x00' | none => '\t'
              joint := (a.value? "output-delimiter").map String.toList
              onlyDelimited := a.has "s" }
          forContents "cut" a.operands plainComplaint 1 fun _ content =>
            let swap := swapEnds (a.has "z")
            put (swap (endedLines ((bareLinesOf (swap content)).filterMap c.line?)))

/-- The characters of a list in which a backslash takes a letter. -/
def delimitersOf : List Char → List (List Char)
  | '\\' :: 'n' :: rest => ['\n'] :: delimitersOf rest
  | '\\' :: 't' :: rest => ['\t'] :: delimitersOf rest
  | '\\' :: '0' :: rest => [] :: delimitersOf rest
  | '\\' :: c :: rest => [c] :: delimitersOf rest
  | c :: rest => [c] :: delimitersOf rest
  | [] => []

/-- Texts with delimiters between them, which are taken in turn. -/
def joinWith (delimiters : List (List Char)) (parts : List (List Char)) : List Char :=
  let count := max 1 delimiters.length
  (parts.zipIdx.map fun (part, i) =>
    if i = 0 then part else (delimiters.getD ((i - 1) % count) []) ++ part).flatten

/-- The lines of standard input dealt out to its operands in turn. -/
def dealt (lines : List (List Char)) (count place : Nat) : List (List Char) :=
  pick (fun n => (n - 1) % count = place) lines

/-- Puts lines of several contents next to each other. -/
def paste (args : List String) : Act Nat :=
  withArguments "paste"
    { plain := "sz", valued := "d", long := [("serial", 's'), ("delimiters", 'd'),
        ("zero-terminated", 'z')] }
    1 args fun a => do
      let delimiters := delimitersOf ((a.value? "d").getD "\t").toList
      let operands := if a.operands.isEmpty then ["-"] else a.operands
      let input := operands.filter (· = "-")
      let mut contents : List (Option (List (List Char))) := []
      let mut status := 0
      let swap := swapEnds (a.has "z")
      let read ← if input.isEmpty then pure [] else Act.readAll
      let shared := bareLinesOf (swap read)
      let mut dealtOut := 0
      for operand in operands do
        if operand = "-" then
          contents := contents ++ [some (if a.has "s" then if dealtOut = 0 then shared else []
            else dealt shared input.length dealtOut)]
          dealtOut := dealtOut + 1
        else
          match ← contentOf operand with
          | .ok content => contents := contents ++ [some (bareLinesOf (swap content))]
          | .error e =>
            if status = 0 || a.has "s" then report "paste" (plainComplaint operand e)
            status := 1
      if a.has "s" then
        for lines in contents.filterMap id do
          put (swap (endedLines [joinWith delimiters lines]))
      else if status = 0 then
        let columns := contents.filterMap id
        let size := (columns.map List.length).foldl max 0
        put (swap (endedLines ((List.range size).map fun i =>
          joinWith delimiters (columns.map fun column => (column[i]?).getD []))))
      return status

/-- The column after an octet. -/
def nextColumn (octets : Bool) (column : Nat) (c : Char) : Nat :=
  if octets then column + 1
  else if c = '\x08' then column - 1
  else if c = '\r' then 0
  else if c = '\t' then (column / 8 + 1) * 8
  else column + 1

/-- A line in parts that fit a width, broken after blanks if `spaces` says so; the part under way is
in reverse. -/
def foldLine (octets spaces : Bool) (width : Nat) :
    Nat → List Char → Nat → List Char → List (List Char)
  | 0, part, _, cs => [part.reverse ++ cs]
  | _, part, _, [] => [part.reverse]
  | fuel + 1, part, column, c :: cs =>
    let next := nextColumn octets column c
    if next ≤ width || part.isEmpty then foldLine octets spaces width fuel (c :: part) next cs
    else
      let tail := part.takeWhile fun d => !(d == ' ' || d == '\t')
      if spaces && tail.length < part.length then
        let kept := part.drop tail.length
        let column := tail.reverse.foldl (nextColumn octets) 0
        kept.reverse :: foldLine octets spaces width fuel tail column (c :: cs)
      else part.reverse :: foldLine octets spaces width fuel [] 0 (c :: cs)

/-- Breaks lines so that they fit a width. -/
def fold (args : List String) : Act Nat :=
  let args := args.map fun arg =>
    match arg.toList with
    | '-' :: c :: cs => if (c :: cs).all Char.isDigit then "-w" ++ String.ofList (c :: cs) else arg
    | _ => arg
  withArguments "fold"
    { plain := "bs", valued := "w", long := [("bytes", 'b'), ("spaces", 's'), ("width", 'w')] }
    1 args fun a => do
      let text := (a.value? "w").getD "80"
      match text.toNat? with
      | none | some 0 =>
        report "fold" ("invalid number of columns: " ++ quotedArgument text)
        return 1
      | some width =>
        forContents "fold" a.operands plainComplaint 1 fun _ content =>
          for line in linesOf content do
            let bare := withoutEnd line
            let parts := foldLine (a.has "b") (a.has "s") width (2 * bare.length + 4) [] 0 bare
            put (['\n'].intercalate parts ++ if line.getLast? = some '\n' then ['\n'] else [])

/-- The next stop for a tab. -/
def nextStop (stops : List Nat) (column : Nat) : Nat :=
  match stops with
  | [width] => (column / max 1 width + 1) * max 1 width
  | stops => (stops.find? fun s => column < s).getD (column + 1)

/-- A line with blanks in the place of tabs; only those at its front if `initial` says so. -/
def expandLine (stops : List Nat) (initial : Bool) : Nat → Bool → List Char → List Char
  | _, _, [] => []
  | column, started, c :: cs =>
    if c = '\t' ∧ !(initial ∧ started) then
      let next := nextStop stops column
      List.replicate (next - column) ' ' ++ expandLine stops initial next started cs
    else c :: expandLine stops initial (column + 1) (started || c != ' ') cs

/-- The stops for tabs that a list writes. -/
def stopsOf (text : Option String) : List Nat :=
  match text with
  | none => [8]
  | some text => ((text.splitOn ",").flatMap fun p => p.splitOn " ").filterMap String.toNat?

/-- Replaces tabs by blanks. -/
def expand (args : List String) : Act Nat :=
  withArguments "expand" { plain := "i", valued := "t", long := [("initial", 'i'), ("tabs", 't')] }
    1 args fun a =>
      forContents "expand" a.operands plainComplaint 1 fun _ content =>
        for line in linesOf content do
          put (expandLine (stopsOf (a.value? "t")) (a.has "i") 0 false line)

/-- A line with tabs in the place of blanks before stops; `blanks` are held back, from `start`
on. -/
def unexpandLine (stops : List Nat) (all : Bool) :
    Nat → Nat → Nat → Bool → List Char → List Char
  | 0, _, _, _, cs => cs
  | _, column, start, _, [] => List.replicate (column - start) ' '
  | fuel + 1, column, start, started, c :: cs =>
    let held := List.replicate (column - start) ' '
    if started && !all then held ++ c :: cs
    else if c = ' ' then
      let column := column + 1
      if nextStop stops start = column then
        (if column - start = 1 then [' '] else ['\t']) ++
          unexpandLine stops all fuel column column started cs
      else unexpandLine stops all fuel column start started cs
    else if c = '\t' then
      let next := nextStop stops column
      '\t' :: unexpandLine stops all fuel next next started cs
    else held ++ c :: unexpandLine stops all fuel (column + 1) (column + 1) true cs

/-- Replaces blanks by tabs. -/
def unexpand (args : List String) : Act Nat :=
  withArguments "unexpand"
    { plain := "a", valued := "t", longPlain := ["first-only"],
      long := [("all", 'a'), ("tabs", 't')] }
    1 args fun a =>
      forContents "unexpand" a.operands plainComplaint 1 fun _ content =>
        let all := (a.has "a" || a.has "t") && !a.has "first-only"
        for line in linesOf content do
          put (unexpandLine (stopsOf (a.value? "t")) all (line.length + 1) 0 0 false line)

end Pipeline.Shell.Utility
