import Pipeline.Shell.Pattern
import Pipeline.Shell.Regex.OfText
import Pipeline.Shell.Utility.Arguments
import Pipeline.Shell.Utility.Size

/-!
# Searching lines

Lines in which patterns occur are shown with their neighbours, counted, or named by their files.
-/

namespace Pipeline.Shell.Utility

/-- The options of `grep`. -/
def grepOptions : OptionTable where
  plain := "EFGPciHhlLnoqsvwxyrRaUzZTbI"
  valued := "efmABCdD"
  longPlain := ["line-buffered", "no-ignore-case"]
  longValued := ["include", "exclude", "exclude-dir", "label", "binary-files"]
  longOptional := ["color", "colour"]
  long := [("extended-regexp", 'E'), ("fixed-strings", 'F'), ("basic-regexp", 'G'),
    ("perl-regexp", 'P'), ("regexp", 'e'), ("file", 'f'), ("ignore-case", 'i'),
    ("invert-match", 'v'), ("word-regexp", 'w'), ("line-regexp", 'x'), ("count", 'c'),
    ("files-with-matches", 'l'), ("files-without-match", 'L'), ("max-count", 'm'),
    ("only-matching", 'o'), ("quiet", 'q'), ("silent", 'q'), ("no-messages", 's'),
    ("byte-offset", 'b'), ("with-filename", 'H'), ("no-filename", 'h'), ("line-number", 'n'),
    ("initial-tab", 'T'), ("null", 'Z'), ("after-context", 'A'), ("before-context", 'B'),
    ("context", 'C'), ("text", 'a'), ("recursive", 'r'), ("dereference-recursive", 'R'),
    ("null-data", 'z'), ("binary", 'U')]

/-- What a search asks of a line. -/
structure LineSearch where
  patterns : List Regex
  fold : Bool
  wholeLine : Bool
  wholeWord : Bool
  inverted : Bool

/-- The longest match at a place that fits what is asked for. -/
def LineSearch.matchAt? (q : LineSearch) (text : Array Char) (start : Nat) : Option Nat :=
  let spots := q.patterns.flatMap fun r => Regex.ends text q.fold r ⟨start, []⟩
  let fits (s : Spot) : Bool :=
    (!q.wholeLine || (start == 0 && s.pos == text.size)) &&
      (!q.wholeWord || !(Regex.wordBefore text start || Regex.wordAt text s.pos))
  (spots.filter fits).foldl (fun best s => some (max (best.getD 0) s.pos)) none

/-- The matches in a line from one of `count` places on. -/
def LineSearch.matches (q : LineSearch) (text : Array Char) : Nat → Nat → List (Nat × Nat)
  | 0, _ => []
  | count + 1, start =>
    if text.size < start then []
    else
      match q.matchAt? text start with
      | some stop => (start, stop) :: LineSearch.matches q text count (max stop (start + 1))
      | none => LineSearch.matches q text count (start + 1)

/-- Whether a line is one of those that are searched for. -/
def LineSearch.selects (q : LineSearch) (line : List Char) : Bool :=
  let text := line.toArray
  let starts := if q.wholeLine then [0] else List.range (text.size + 1)
  (starts.any fun p => (q.matchAt? text p).isSome) != q.inverted

/-- How found lines are shown. -/
structure SearchOutput where
  label : Option String
  numbers : Bool
  offsets : Bool
  onlyMatches : Bool
  colored : Bool
  nullAfterName : Bool
  tabbed : Bool
  before : Nat
  after : Nat

/-- A text in a color. -/
def SearchOutput.paint (o : SearchOutput) (code text : String) : String :=
  if o.colored then "\x1b[" ++ code ++ "m\x1b[K" ++ text ++ "\x1b[m\x1b[K" else text

/-- What stands before a line, with a sign that tells whether it was searched for. -/
def SearchOutput.lead (o : SearchOutput) (sign : String) (number offset : Nat) : String :=
  let name := o.label.elim "" fun l =>
    o.paint "35" l ++ if o.nullAfterName then "\x00" else o.paint "36" sign
  let width := if o.tabbed then 2 else 0
  let column (n : Nat) : String :=
    o.paint "32" (padded width (toString n)) ++ o.paint "36" sign
  let all := name ++ (if o.numbers then column number else "") ++
    (if o.offsets then column offset else "")
  all ++ if o.tabbed && !all.isEmpty then "\t" else ""

/-- A line with its matches in color. -/
def SearchOutput.painted (o : SearchOutput) (found : List (Nat × Nat))
    (line : List Char) : String :=
  if !o.colored then String.ofList line
  else
    let (text, last) := found.foldl (fun (acc : String × Nat) (start, stop) =>
      if start = stop then acc
      else
        (acc.1 ++ String.ofList ((line.take start).drop acc.2) ++
          o.paint "01;31" (String.ofList ((line.take stop).drop start)), stop)) ("", 0)
    text ++ String.ofList (line.drop last)

/-- A line of a content with its number and the place where it starts. -/
structure PlacedLine where
  text : List Char
  number : Nat
  offset : Nat

/-- The lines of a content with their places. -/
def placedLines (content : List Char) : List PlacedLine :=
  (go 1 0 (linesOf content))
where
  /-- The lines from one of a number and a place on. -/
  go (number offset : Nat) : List (List Char) → List PlacedLine
    | [] => []
    | line :: rest =>
        ⟨withoutEnd line, number, offset⟩ :: go (number + 1) (offset + line.length) rest

/-- The numbers of the lines that are shown around those that were found. -/
def shownNumbers (o : SearchOutput) (found : List Nat) (n : Nat) : Bool :=
  found.any fun m => m ≤ n + o.before && n ≤ m + o.after

/-- Writes the lines of a content that were found, with their neighbours; `earlier` tells whether
other lines were shown before. -/
def showFound (q : LineSearch) (o : SearchOutput) (lines found : List PlacedLine) (earlier : Bool) :
    Act Unit := do
  let numbers := found.map PlacedLine.number
  let context := 0 < o.before || 0 < o.after
  let shown := if context then lines.filter fun l => shownNumbers o numbers l.number else found
  let mut last : Option Nat := none
  for l in shown do
    let isFound := numbers.contains l.number
    if context && !o.onlyMatches then
      match last with
      | some m => if l.number ≠ m + 1 then Act.say (o.paint "36" "--" ++ "\n")
      | none => if earlier then Act.say (o.paint "36" "--" ++ "\n")
    last := some l.number
    let text := l.text.toArray
    let found := if o.onlyMatches || o.colored then q.matches text (text.size + 1) 0 else []
    if o.onlyMatches then
      if isFound && !q.inverted then
        for (start, stop) in found do
          if start < stop then
            Act.say (o.lead ":" l.number (l.offset + start) ++
              o.paint "01;31" (String.ofList ((l.text.take stop).drop start)) ++ "\n")
    else
      let sign := if isFound then ":" else "-"
      Act.say (o.lead sign l.number l.offset ++
        (if isFound && !q.inverted then o.painted found l.text else String.ofList l.text) ++ "\n")

/-- The files below a directory, in order, with the path that leads there. -/
def filesBelow (f : Files) (base : Place) (skip : String → Bool) : Nat → String → List String
  | 0, _ => []
  | fuel + 1, path =>
    match f.locate base path with
    | .ok (place, .directory) =>
      (f.childrenOf place).flatMap fun name =>
        let below := if path = "" then name else Path.join path name
        match f.ownAt? base below with
        | some .directory => if skip name then [] else filesBelow f base skip fuel below
        | some (.file _) => [below]
        | _ => []
    | _ => []

/-- The patterns that the arguments give, and the operands that are left. -/
def searchPatterns (a : Arguments) : Act (Except String (Option (List String) × List String)) := do
  let mut patterns : List String := a.values "e"
  for path in a.values "f" do
    match ← contentOf path with
    | .ok content => patterns := patterns ++ (bareLinesOf content).map String.ofList
    | .error e => return .error (path ++ ": " ++ e.reason)
  if a.has "e" || a.has "f" then return .ok (some patterns, a.operands)
  else return .ok (a.operands.head?.map ([·]), a.operands.drop 1)

/-- Writes how `grep` is used. -/
def grepUsage : Act Nat := do
  Act.warn "Usage: grep [OPTION]... PATTERNS [FILE]...\nTry 'grep --help' for more information.\n"
  return 2

/-- The arguments with a bare number as the size of the context. -/
def expandContext (args : List String) : List String :=
  args.map fun arg =>
    match arg.toList with
    | '-' :: c :: cs => if (c :: cs).all Char.isDigit then "-C" ++ String.ofList (c :: cs) else arg
    | _ => arg

/-- The search that arguments ask for, with the signs in it that have no effect. -/
def lineSearch (kinds : List String) (a : Arguments) (patterns : List String) :
    Except RegexError (LineSearch × List String) := do
  let kind := (a.last? ["E", "F", "G", "P"]).getD (kinds.headD "G")
  let style : RegexStyle :=
    { extended := kind == "E" || kind == "P", lenient := true, letters := kind == "P"
      digits := kind == "P" }
  let texts := patterns.flatMap fun p => p.splitOn "\n"
  let parsed ← texts.mapM fun text =>
    if kind = "F" then pure (Regex.literal text.toList, [])
    else Regex.ofTextWithNotes style text.toList
  return (⟨parsed.map Prod.fst, a.has "i" || a.has "y", a.has "x", a.has "w", a.has "v"⟩,
    parsed.flatMap Prod.snd)

/-- Shows the lines in which patterns occur; `kinds` says how patterns are written if no option
does. -/
def grepAs (kinds : List String) (args : List String) : Act Nat := do
  match parseArguments grepOptions false (args.length + 1) (expandContext args) with
  | .error problem =>
    report "grep" problem
    grepUsage
  | .ok a =>
    let context (key : String) : Except String Nat :=
      match a.value? key <|> a.value? "C" with
      | none => .ok 0
      | some text =>
        match text.toNat? with
        | some n => .ok n
        | none => .error (text ++ ": invalid context length argument")
    let limit : Except String (Option Nat) :=
      match a.value? "m" with
      | none => .ok none
      | some text =>
        match text.toInt? with
        | some n => .ok (if n < 0 then none else some n.toNat)
        | none => .error "invalid max count"
    match context "B", context "A", limit with
    | .error e, _, _ | _, .error e, _ | _, _, .error e =>
      report "grep" e
      return 2
    | .ok before, .ok after, .ok limit =>
    match ← searchPatterns a with
    | .error problem =>
      report "grep" problem
      return 2
    | .ok (none, _) => grepUsage
    | .ok (some patterns, operands) =>
    match lineSearch kinds a patterns with
    | .error e =>
      report "grep" e.message
      return 2
    | .ok (q, idle) =>
      for sign in idle do report "grep" ("warning: " ++ sign ++ " at start of expression")
      let recursive := a.has "r" || a.has "R"
      let s ← get
      let wanted (path : String) : Bool :=
        let name := ((Path.components path).filter (· ≠ "")).getLastD path
        let fits (globs : List String) : Bool :=
          globs.any fun g => (patternOfText g).acceptsText name
        (!a.has "include" || fits (a.values "include")) && !fits (a.values "exclude")
      let skip (name : String) : Bool :=
        (a.values "exclude-dir").any fun g => (patternOfText g).acceptsText name
      let below (path : String) : List String :=
        (filesBelow s.files s.workingDir skip 100 path).filter wanted
      let files :=
        if recursive then
          if operands.isEmpty then
            (below ".").map fun p => String.ofList (p.toList.drop 2)
          else
            operands.flatMap fun o =>
              if s.files.isDirectory s.workingDir o then below o else [o]
        else if operands.isEmpty then ["-"]
        else operands.filter fun o => o = "-" || wanted o
      let labelled := a.last? ["H", "h"]
      let several := labelled == some "H" || (labelled != some "h" &&
        (1 < operands.length || (recursive && (operands.isEmpty ||
          operands.any (s.files.isDirectory s.workingDir)))))
      let swap := swapEnds (a.has "z")
      let color := (a.value? "color" <|> a.value? "colour").getD "never"
      let mut found := false
      let mut failed := false
      let mut earlier := false
      for operand in files do
        if found && a.has "q" then break
        let label := if operand = "-" then (a.value? "label").getD "(standard input)" else operand
        let o : SearchOutput :=
          { label := if several then some label else none
            numbers := a.has "n", offsets := a.has "b", onlyMatches := a.has "o"
            colored := color == "always", nullAfterName := a.has "Z", tabbed := a.has "T"
            before := before, after := after }
        match ← contentOf operand with
        | .error e =>
          if !a.has "s" then report "grep" (label ++ ": " ++ e.reason)
          failed := true
        | .ok content =>
          let lines := placedLines (swap content)
          let all := lines.filter fun l => q.selects l.text
          let hits := (limit.map fun n => all.take n).getD all
          if !hits.isEmpty then found := true
          let name := o.paint "35" label ++ if a.has "Z" then "\x00" else "\n"
          if a.has "q" then pure ()
          else if a.has "l" then
            if !hits.isEmpty then Act.say name
          else if a.has "L" then
            if hits.isEmpty then Act.say name
          else if a.has "c" then
            Act.say ((o.label.elim "" fun l => o.paint "35" l ++ o.paint "36" ":") ++
              toString hits.length ++ "\n")
          else if content.contains '\x00' && !a.has "a" && !a.has "z" then
            if !hits.isEmpty then Act.say ("grep: " ++ label ++ ": binary file matches\n")
          else
            let lines :=
              match limit, hits.getLast? with
              | some n, some last =>
                if all.length ≤ n then lines
                else
                  let next := (all.drop n).head?.map PlacedLine.number
                  lines.filter fun l =>
                    l.number ≤ last.number || next.all fun m => l.number < m
              | _, _ => lines
            showFound q o lines hits earlier
            if !hits.isEmpty then earlier := true
      return if a.has "q" && found then 0 else if failed then 2 else if found then 0 else 1

/-- Shows the lines in which patterns occur. -/
def grep : List String → Act Nat :=
  grepAs []

/-- Shows the lines in which extended patterns occur. -/
def egrep : List String → Act Nat :=
  grepAs ["E"]

/-- Shows the lines in which texts occur. -/
def fgrep : List String → Act Nat :=
  grepAs ["F"]

end Pipeline.Shell.Utility
