import Pipeline.Shell.Pattern
import Pipeline.Shell.Regex.OfText
import Pipeline.Shell.Utility.Arguments
import Pipeline.Shell.Utility.Content
import Pipeline.Shell.Utility.Date
import Pipeline.Shell.Utility.Difference
import Pipeline.Shell.Utility.PathName
import Pipeline.Text.Blank

/-!
# Utilities that compare files

Two files are compared octet by octet, or line by line with the lines shown that have to go and to
come. Directories are compared by the files in them.
-/

namespace Pipeline.Shell.Utility

open Difference (Hunk)

/-- What is looked at when lines are compared. -/
structure LineView where
  foldsCase : Bool := false
  /-- Blanks at the end of a line do not count. -/
  ignoresEnd : Bool := false
  /-- How many blanks there are does not count. -/
  ignoresAmount : Bool := false
  ignoresBlanks : Bool := false
  ignoresReturn : Bool := false

/-- A line with one space for blanks that stand together. -/
def squeezed : List Char → List Char
  | [] => []
  | c :: cs =>
    if Text.isSpace c then
      match squeezed cs with
      | ' ' :: rest => ' ' :: rest
      | rest => ' ' :: rest
    else c :: squeezed cs

/-- What counts of a line. -/
def LineView.key (v : LineView) (line : List Char) : List Char :=
  let bare := withoutEnd line
  let line :=
    if v.ignoresReturn && bare.getLast? == some '\r' then bare.dropLast ++ ['\n'] else line
  let line := if v.foldsCase then line.map Char.toLower else line
  let trimmed (cs : List Char) : List Char := (cs.reverse.dropWhile Text.isSpace).reverse
  if v.ignoresBlanks then line.filter fun c => !(Text.isSpace c)
  else if v.ignoresAmount then squeezed (trimmed line)
  else if v.ignoresEnd then trimmed line
  else line

/-- How differences are written. -/
inductive DiffStyle where
  | plain
  | copied (context : Nat)
  | unified (context : Nat)
  | ed
  | numbered
  | beside (width : Nat) (onlyLeft withoutCommon : Bool)
  | brief
  deriving DecidableEq, Repr

/-- How much agreement is shown around differences. -/
def DiffStyle.context : DiffStyle → Nat
  | .copied n => n
  | .unified n => n
  | _ => 0

/-- A line after a sign, with a note if it has no end. -/
def markedLine (sign : String) (line : List Char) : List Char :=
  sign.toList ++
    if line.getLast? = some '\n' then line else line ++ "\n\\ No newline at end of file\n".toList

/-- Lines after a sign. -/
def markedLines (sign : String) (lines : List (List Char)) : List Char :=
  lines.flatMap (markedLine sign)

/-- The numbers of lines in a stretch: the line before it if it is empty. -/
def lineNumbers (start count : Nat) : String :=
  if count = 0 then toString start
  else if count = 1 then toString (start + 1)
  else toString (start + 1) ++ "," ++ toString (start + count)

/-- The lines of a stretch. -/
def stretch (lines : Array (List Char)) (start count : Nat) : List (List Char) :=
  (lines.extract start (start + count)).toList

/-- A hunk by itself. -/
def plainHunk (a b : Array (List Char)) (h : Hunk) : List Char :=
  let letter := if h.leftCount = 0 then "a" else if h.rightCount = 0 then "d" else "c"
  (lineNumbers h.left h.leftCount ++ letter ++ lineNumbers h.right h.rightCount ++ "\n").toList ++
    markedLines "< " (stretch a h.left h.leftCount) ++
    (if h.leftCount = 0 ∨ h.rightCount = 0 then [] else "---\n".toList) ++
    markedLines "> " (stretch b h.right h.rightCount)

/-- A hunk as an editor is told. -/
def editorHunk (b : Array (List Char)) (h : Hunk) : List Char :=
  let letter := if h.leftCount = 0 then "a" else if h.rightCount = 0 then "d" else "c"
  (lineNumbers h.left h.leftCount ++ letter ++ "\n").toList ++
    if h.rightCount = 0 then []
    else (stretch b h.right h.rightCount).flatten ++ ".\n".toList

/-- A hunk with the numbers of lines that go and come. -/
def numberedHunk (b : Array (List Char)) (h : Hunk) : List Char :=
  (if h.leftCount = 0 then []
    else ("d" ++ toString (h.left + 1) ++ " " ++ toString h.leftCount ++ "\n").toList) ++
  if h.rightCount = 0 then []
  else ("a" ++ toString (h.left + h.leftCount) ++ " " ++ toString h.rightCount ++ "\n").toList ++
    (stretch b h.right h.rightCount).flatten

/-- Hunks that are shown together, as so much agreement is shown around them. -/
def groupHunks (context : Nat) : List Hunk → List (List Hunk)
  | [] => []
  | h :: rest =>
    match rest, groupHunks context rest with
    | next :: _, group :: groups =>
      if next.left - (h.left + h.leftCount) ≤ 2 * context then (h :: group) :: groups
      else [h] :: group :: groups
    | _, groups => [h] :: groups

/-- What is shown of both files for a group of hunks: where it starts and ends in each. -/
def shownRange (context leftSize rightSize : Nat) (group : List Hunk) :
    (Nat × Nat) × (Nat × Nat) :=
  let first := group.headD ⟨0, 0, 0, 0⟩
  let last := group.getLastD first
  let before := min context first.left
  let leftEnd := last.left + last.leftCount
  let rightEnd := last.right + last.rightCount
  ((first.left - before, min leftSize (leftEnd + context)),
    (first.right - before, min rightSize (rightEnd + context)))

/-- The numbers of lines as a unified hunk tells them. -/
def unifiedNumbers (start stop : Nat) : String :=
  let count := stop - start
  if count = 1 then toString (start + 1)
  else toString (if count = 0 then start else start + 1) ++ "," ++ toString count

/-- The lines of a unified group from a place on. -/
def unifiedLines (a b : Array (List Char)) (stop : Nat) : Nat → List Hunk → List Char
  | i, [] => markedLines " " (stretch a i (stop - i))
  | i, h :: hs =>
    markedLines " " (stretch a i (h.left - i)) ++ markedLines "-" (stretch a h.left h.leftCount) ++
      markedLines "+" (stretch b h.right h.rightCount) ++
      unifiedLines a b stop (h.left + h.leftCount) hs

/-- A group of hunks in one. -/
def unifiedGroup (context : Nat) (a b : Array (List Char)) (group : List Hunk) : List Char :=
  let ((i, iEnd), (j, jEnd)) := shownRange context a.size b.size group
  ("@@ -" ++ unifiedNumbers i iEnd ++ " +" ++ unifiedNumbers j jEnd ++ " @@\n").toList ++
    unifiedLines a b iEnd i group

/-- The lines of one file in a group from a place on, where `part` tells what a hunk has of it. -/
def copiedLines (part : Hunk → Nat × Nat) (sign : Hunk → String) (lines : Array (List Char))
    (stop : Nat) : Nat → List Hunk → List Char
  | i, [] => markedLines "  " (stretch lines i (stop - i))
  | i, h :: hs =>
    let (start, count) := part h
    markedLines "  " (stretch lines i (start - i)) ++
      markedLines (sign h) (stretch lines start count) ++
      copiedLines part sign lines stop (start + count) hs

/-- A group of hunks, one file after the other. -/
def copiedGroup (context : Nat) (a b : Array (List Char)) (group : List Hunk) : List Char :=
  let ((i, iEnd), (j, jEnd)) := shownRange context a.size b.size group
  let numbers (start stop : Nat) : String :=
    if stop - start ≤ 1 then toString stop else toString (start + 1) ++ "," ++ toString stop
  let isChange (h : Hunk) : Bool := h.leftCount != 0 && h.rightCount != 0
  let left :=
    if group.all fun h => h.leftCount == 0 then []
    else
      copiedLines (fun h => (h.left, h.leftCount))
        (fun h => if isChange h then "! " else "- ") a iEnd i
        group
  let right :=
    if group.all fun h => h.rightCount == 0 then []
    else
      copiedLines (fun h => (h.right, h.rightCount)) (fun h => if isChange h then "! " else "+ ") b
        jEnd j group
  "***************\n".toList ++ ("*** " ++ numbers i iEnd ++ " ****\n").toList ++ left ++
    ("--- " ++ numbers j jEnd ++ " ----\n").toList ++ right

/-- Tabs and spaces that lead from one column to another. -/
def gap : Nat → Nat → Nat → List Char
  | 0, _, _ => []
  | fuel + 1, column, target =>
    let tab := column + 8 - column % 8
    if target ≤ column then []
    else if tab ≤ target then '\t' :: gap fuel tab target
    else List.replicate (target - column) ' '

/-- As much of a line as has room in a column, and the column after it. -/
def halfLine (bound : Nat) : Nat → List Char → List Char × Nat
  | column, [] => ([], column)
  | column, c :: cs =>
    let next := if c = '\t' then column + 8 - column % 8 else column + 1
    if bound < next then ([], column)
    else
      let (rest, last) := halfLine bound next cs
      (c :: rest, last)

/-- Two lines beside each other with a sign between them. -/
def besideLine (width : Nat) (left : Option (List Char)) (sign : Char)
    (right : Option (List Char)) :
    List Char :=
  let unaligned := width / 2 + 5 + (if width % 2 = 1 then 1 else 0)
  let offset := unaligned - unaligned % 8
  let half := min (offset - 3) (width - offset)
  let column := if half = 0 then width else offset
  let (shown, at1) := halfLine half 0 (withoutEnd (left.getD []))
  let middle := (half + column - 1) / 2
  let (signs, at2) : List Char × Nat :=
    if sign = ' ' then ([], at1) else (gap (width + 1) at1 middle ++ [sign], max at1 middle + 1)
  let bare := withoutEnd (right.getD [])
  let other :=
    if bare.isEmpty then [] else gap (width + 1) at2 column ++ (halfLine half 0 bare).1
  shown ++ signs ++ other ++ ['\n']

/-- Lines beside each other, the shorter list with nothing. -/
def besidePairs (width : Nat) : List (List Char) → List (List Char) → List Char
  | x :: xs, y :: ys => besideLine width (some x) '|' (some y) ++ besidePairs width xs ys
  | x :: xs, [] => besideLine width (some x) '<' none ++ besidePairs width xs []
  | [], y :: ys => besideLine width none '>' (some y) ++ besidePairs width [] ys
  | [], [] => []

/-- Two files beside each other from two places on. -/
def besideLines (width : Nat) (onlyLeft withoutCommon : Bool) (a b : Array (List Char)) :
    Nat → Nat → List Hunk → List Char
  | i, j, [] => common i j (a.size - i)
  | i, j, h :: hs =>
    common i j (h.left - i) ++
      besidePairs width (stretch a h.left h.leftCount) (stretch b h.right h.rightCount) ++
      besideLines width onlyLeft withoutCommon a b
        (h.left + h.leftCount) (h.right + h.rightCount) hs
where
  /-- Lines that agree. -/
  common (i j count : Nat) : List Char :=
    if withoutCommon then []
    else
      ((stretch a i count).zip (stretch b j count)).flatMap fun (x, y) =>
        if onlyLeft then besideLine width (some x) '(' none
        else besideLine width (some x) ' ' (some y)

/-- The hunks in a style, without what comes before all of them. -/
def DiffStyle.text (style : DiffStyle) (a b : Array (List Char)) (hunks : List Hunk) : List Char :=
  match style with
  | .plain => hunks.flatMap (plainHunk a b)
  | .ed => hunks.reverse.flatMap (editorHunk b)
  | .numbered => hunks.flatMap (numberedHunk b)
  | .copied n => (groupHunks n hunks).flatMap (copiedGroup n a b)
  | .unified n => (groupHunks n hunks).flatMap (unifiedGroup n a b)
  | .beside width onlyLeft withoutCommon => besideLines width onlyLeft withoutCommon a b 0 0 hunks
  | .brief => []

/-- How files are compared. -/
structure Comparing where
  view : LineView
  style : DiffStyle
  recursive : Bool
  /-- A missing file counts as an empty one. -/
  anew : Bool
  asText : Bool
  tellsSame : Bool
  ignoresEmpty : Bool
  ignored : List Regex
  excluded : List Pattern
  labels : List String
  /-- The options as they were given. -/
  given : List String

/-- What is compared: the path, and what is there. -/
structure Compared where
  path : String
  content : List Char
  time : Int

/-- The signs before the names of two files in a style. -/
def DiffStyle.headSigns? : DiffStyle → Option (String × String)
  | .copied _ => some ("*** ", "--- ")
  | .unified _ => some ("--- ", "+++ ")
  | _ => none

/-- Compares the contents of two files; the status is 0 if they agree and 1 otherwise. `title` is
written before differences. -/
def compareContents (c : Comparing) (title : String) (x y : Compared) : Act Nat := do
  let binary := !c.asText && (x.content.contains '\x00' || y.content.contains '\x00')
  let a := (linesOf x.content).toArray
  let b := (linesOf y.content).toArray
  let hunks : List Hunk :=
    if binary || x.content == y.content then []
    else
      let key (line : List Char) : String := String.ofList (c.view.key line)
      Difference.hunks c.style.context (a.map key) (b.map key)
  let ignorable (line : List Char) : Bool :=
    (c.ignoresEmpty && (withoutEnd line).isEmpty) ||
      c.ignored.any fun r => (r.find? false (withoutEnd line).toArray 0).isSome
  let counts (h : Hunk) : Bool :=
    !((stretch a h.left h.leftCount ++ stretch b h.right h.rightCount).all ignorable)
  let hunks := hunks.filter counts
  let isBeside := match c.style with | .beside _ _ _ => true | _ => false
  let differs := if binary then x.content != y.content else !hunks.isEmpty
  if differs then
    if c.style == .brief || binary then
      Act.say ((if binary && c.style != .brief then "Binary files " else "Files ") ++ x.path ++
        " and " ++ y.path ++ " differ\n")
    else
      Act.say title
      if let some (first, second) := c.style.headSigns? then
        let name (v : Compared) : String :=
          v.path ++ "\t" ++
            dateText (.ofSeconds v.time) 40 "%Y-%m-%d %H:%M:%S.%N %z".toList
        Act.say (first ++ c.labels.headD (name x) ++ "\n" ++ second ++
          (c.labels.drop 1).headD (name y) ++ "\n")
      put (c.style.text a b hunks)
    return 1
  else
    if isBeside && !binary then put (c.style.text a b [])
    if c.tellsSame then
      Act.say ("Files " ++ x.path ++ " and " ++ y.path ++ " are identical\n")
    return 0

/-- Reads what is to be compared; a missing file counts as empty where that is asked for. -/
def comparedOf (c : Comparing) (path : String) (mayLack : Bool) :
    Act (Except FileError Compared) := do
  let s ← get
  let time : Int :=
    match s.files.locate s.workingDir path with
    | .ok (place, _) => (s.files.changeOf place).1
    | .error _ => if path = "-" then presentOf s else 0
  match ← contentOf path with
  | .ok content => return .ok ⟨path, content, time⟩
  | .error .noSuchFile => return if c.anew && mayLack then .ok ⟨path, [], 0⟩ else .error .noSuchFile
  | .error e => return .error e

/-- Compares two files; the status is 2 where one cannot be read. -/
def compareFiles (c : Comparing) (title left right : String) : Act Nat := do
  let s ← get
  let isThere (path : String) : Bool :=
    path = "-" || (s.files.at? s.workingDir path).isSome
  let x ← comparedOf c left (isThere right)
  let y ← comparedOf c right (isThere left)
  match x, y with
  | .ok x, .ok y => compareContents c title x y
  | x, y =>
    for (path, found) in [(left, x), (right, y)] do
      if let .error e := found then report "diff" (path ++ ": " ++ e.reason)
    return 2

/-- What a path leads to, as messages call it. -/
def kindWord : Option FileEntry → String
  | some .directory => "directory"
  | some (.file []) => "regular empty file"
  | some (.device _) => "character special file"
  | _ => "regular file"

/-- Compares two directories by their files. -/
def compareDirectories (c : Comparing) : Nat → String → String → Act Nat
  | 0, _, _ => return 2
  | fuel + 1, left, right => do
    let s ← get
    let namesIn (path : String) : List String :=
      match s.files.locate s.workingDir path with
      | .ok (place, _) => s.files.childrenOf place
      | .error _ => []
    let names := ((namesIn left ++ namesIn right).eraseDups.filter fun name =>
      !(c.excluded.any fun (p : Pattern) => p.acceptsText name)).mergeSort fun a b => a ≤ b
    let mut status := 0
    for name in names do
      let (x, y) := (Path.join left name, Path.join right name)
      let result ←
        match s.files.at? s.workingDir x, s.files.at? s.workingDir y with
        | none, none => pure 0
        | some .directory, some .directory =>
          if c.recursive then compareDirectories c fuel x y
          else
            Act.say ("Common subdirectories: " ++ x ++ " and " ++ y ++ "\n")
            pure 0
        | found, other =>
          let isDirectory := found == some .directory || other == some .directory
          if (found.isNone || other.isNone) && !(c.anew && (c.recursive || !isDirectory)) then
            Act.say ("Only in " ++ (if found.isSome then left else right) ++ ": " ++ name ++ "\n")
            pure 1
          else if found.isNone || other.isNone then
            if isDirectory then compareDirectories c fuel x y
            else compareFiles c (titleOf x y) x y
          else if isDirectory then
            Act.say ("File " ++ x ++ " is a " ++ kindWord found ++
              " while file " ++ y ++ " is a " ++
              kindWord other ++ "\n")
            pure 1
          else compareFiles c (titleOf x y) x y
      status := max status result
    return status
where
  /-- What is written before the differences of two files. -/
  titleOf (x y : String) : String :=
    String.intercalate " " (["diff"] ++ c.given.map quotedIfNeeded ++ [x, y]) ++ "\n"

/-- How deep directories are nested at most. -/
def directoryDepth : Nat := 1000

/-- Tells what is wrong with how a utility is used, and where one reads about it. -/
def refuseUse (name text : String) : Act Nat := do
  report name text
  report name ("Try '" ++ name ++ " --help' for more information.")
  return 2

/-- The options of `diff`. -/
def diffOptions : OptionTable where
  plain := "0123456789abBcdeEilnNpqrstTuwyZv"
  valued := "CDFILSUWxX"
  long := [("text", 'a'), ("ignore-space-change", 'b'),
    ("ignore-blank-lines", 'B'), ("minimal", 'd'),
    ("ed", 'e'), ("ignore-tab-expansion", 'E'),
    ("ignore-case", 'i'), ("rcs", 'n'), ("new-file", 'N'),
    ("show-c-function", 'p'), ("brief", 'q'), ("recursive", 'r'), ("report-identical-files", 's'),
    ("expand-tabs", 't'), ("initial-tab", 'T'), ("ignore-all-space", 'w'), ("side-by-side", 'y'),
    ("ignore-trailing-space", 'Z'), ("label", 'L'), ("width", 'W'), ("exclude", 'x'),
    ("exclude-from", 'X'), ("ignore-matching-lines", 'I'), ("starting-file", 'S')]
  longPlain := ["normal", "left-column", "suppress-common-lines", "strip-trailing-cr",
    "no-dereference", "speed-large-files"]
  longOptional := ["context", "unified", "color"]

/-- The way of comparing that arguments ask for, or what is wrong with them. -/
def comparingOf (a : Arguments) (given : List String) : Except String Comparing := do
  let number (text : String) : Except String Nat :=
    match text.toNat? with
    | some n => .ok n
    | none => .error ("invalid context length '" ++ text ++ "'")
  let context (text : Option String) : Except String Nat :=
    match text with
    | none | some "" => .ok 3
    | some text => number text
  let key := a.last? ["c", "C", "u", "U", "e", "n", "y", "normal", "context", "unified"]
  let style : DiffStyle ←
    match key with
    | some "c" | some "C" | some "context" =>
      DiffStyle.copied <$> context ((a.value? "C").or (a.value? "context"))
    | some "u" | some "U" | some "unified" =>
      DiffStyle.unified <$> context ((a.value? "U").or (a.value? "unified"))
    | some "e" => pure .ed
    | some "n" => pure .numbered
    | some "y" =>
      let width := ((a.value? "W").bind String.toNat?).getD 130
      pure (.beside width (a.has "left-column") (a.has "suppress-common-lines"))
    | _ => pure .plain
  let ignored ← (a.values "I").mapM fun text =>
    match Regex.ofText {} text.toList with
    | .ok r => .ok r
    | .error e => .error (text ++ ": " ++ e.message)
  return {
    view := {
      foldsCase := a.has "i", ignoresEnd := a.has "Z", ignoresAmount := a.has "b"
      ignoresBlanks := a.has "w", ignoresReturn := a.has "strip-trailing-cr" }
    style := if a.has "q" then .brief else style
    recursive := a.has "r", anew := a.has "N", asText := a.has "a", tellsSame := a.has "s"
    ignoresEmpty := a.has "B", ignored := ignored
    excluded := (a.values "x").map patternOfText
    labels := a.values "L", given := given }

/-- Compares files line by line. -/
def diff (args : List String) : Act Nat :=
  let args := args.flatMap expandDigits
  let read : Except String (Arguments × Comparing) := do
    let a ← parseArguments diffOptions false (args.length + 1) args
    return (a, ← comparingOf a (args.filter fun arg => !a.operands.contains arg && arg != "--"))
  match read with
  | .error problem => refuseUse "diff" problem
  | .ok (a, c) => do
    match a.operands with
    | [] => refuseUse "diff" "missing operand after 'diff'"
    | [_] => refuseUse "diff" ("missing operand after '" ++ args.getLastD "" ++ "'")
    | _ :: _ :: extra :: _ => refuseUse "diff" ("extra operand '" ++ extra ++ "'")
    | [left, right] =>
      let s ← get
      let isDirectory (path : String) : Bool := s.files.isDirectory s.workingDir path
      let inside (directory path : String) : String := Path.join directory (lastName path)
      match isDirectory left, isDirectory right with
      | true, true => compareDirectories c directoryDepth left right
      | false, true =>
        if left = "-" then cannotCompare else compareFiles c "" left (inside right left)
      | true, false =>
        if right = "-" then cannotCompare else compareFiles c "" (inside left right) right
      | false, false => compareFiles c "" left right
where
  /-- Tells that standard input is no member of a directory. -/
  cannotCompare : Act Nat := do
    report "diff" "cannot compare '-' to a directory"
    return 2
  /-- An argument with a number of lines, such as `-u5`, as the options that it stands for. -/
  expandDigits (arg : String) : List String :=
    match arg.toList with
    | '-' :: 'u' :: c :: cs => if c.isDigit then ["-U", String.ofList (c :: cs)] else [arg]
    | '-' :: c :: cs => if c.isDigit then ["-u", "-U", String.ofList (c :: cs)] else [arg]
    | _ => [arg]

/-- The first place where two contents differ, if both go on there. -/
def firstDifference : Nat → List Char → List Char → Option (Nat × Char × Char)
  | n, x :: xs, y :: ys => if x = y then firstDifference (n + 1) xs ys else some (n, x, y)
  | _, _, _ => none

/-- All places where two contents differ, from one on. -/
def differences : Nat → List Char → List Char → List (Nat × Char × Char)
  | n, x :: xs, y :: ys =>
    if x = y then differences (n + 1) xs ys else (n, x, y) :: differences (n + 1) xs ys
  | _, _, _ => []

/-- An octet in octal digits, with blanks before it. -/
def octalText (c : Char) : String :=
  padded 3 (String.ofList (Nat.toDigits 8 c.toNat))

/-- An octet in signs that can be seen. -/
def seen (c : Char) : String :=
  String.ofList (visible (fun _ => false) c)

/-- The options of `cmp`. -/
def cmpOptions : OptionTable where
  plain := "blsv"
  valued := "in"
  long := [("print-bytes", 'b'), ("ignore-initial", 'i'), ("verbose", 'l'), ("bytes", 'n'),
    ("quiet", 's'), ("silent", 's')]

/-- Compares two contents octet by octet. -/
def tellDifferences (a : Arguments) (x y : String) (cs ds : List Char) : Act Nat := do
  let quiet := a.has "s"
  let shows := a.has "b"
  let size := min cs.length ds.length
  let found := if a.has "l" then differences 1 cs ds else (firstDifference 1 cs ds).toList
  if a.has "l" then
    let width := (toString (max cs.length ds.length)).length
    if !quiet then
      for (n, c, d) in found do
        let left := seen c
        let shown :=
          if shows then " " ++ left ++ String.ofList (List.replicate (4 - left.length) ' ')
          else ""
        Act.say (padded width (toString n) ++ " " ++ octalText c ++ shown ++ " " ++ octalText d ++
          (if shows then " " ++ seen d else "") ++ "\n")
  else if let (n, c, d) :: _ := found then
    if !quiet then
      let line := toString ((cs.take (n - 1)).count '\n' + 1)
      Act.say (x ++ " " ++ y ++ " differ: " ++ (if shows then "byte " else "char ") ++ toString n ++
        ", line " ++ line ++
        (if shows then " is " ++ octalText c ++ " " ++ seen c ++ " " ++ octalText d ++ " " ++ seen d
          else "") ++ "\n")
    return 1
  if cs.length = ds.length then return if found.isEmpty then 0 else 1
  let shorter := if cs.length < ds.length then x else y
  if !quiet then
    let front := cs.take size
    let place :=
      if size = 0 then " which is empty"
      else
        " after byte " ++ toString size ++
          if a.has "l" then ""
          else if front.getLast? = some '\n' then ", line " ++ toString (front.count '\n')
          else ", in line " ++ toString (front.count '\n' + 1)
    report "cmp" ("EOF on " ++ shorter ++ place)
  return 1

/-- Compares two files octet by octet. -/
def cmp (args : List String) : Act Nat :=
  match parseArguments cmpOptions false (args.length + 1) args with
  | .error problem => refuseUse "cmp" problem
  | .ok a => do
    match a.operands with
    | [] => refuseUse "cmp" "missing operand after 'cmp'"
    | x :: rest =>
      let y := rest.headD "-"
      if let extra :: _ := rest.drop 3 then
        return ← refuseUse "cmp" ("extra operand '" ++ extra ++ "'")
      let skips := ((a.value? "i").getD "0").splitOn ":"
      let numbers := (skips ++ rest.drop 1).map String.toNat?
      if let some text := ((skips ++ rest.drop 1).find? fun t => t.toNat?.isNone) then
        return ← refuseUse "cmp" ("invalid --ignore-initial value '" ++ text ++ "'")
      let given := numbers.filterMap id
      let (first, second) : Nat × Nat :=
        if rest.length < 2 then (given.headD 0, (given.drop 1).headD (given.headD 0))
        else ((given.drop skips.length).headD 0, (given.drop (skips.length + 1)).headD 0)
      let limit := (a.value? "n").bind String.toNat?
      let part (content : List Char) (skip : Nat) : List Char :=
        let rest := content.drop skip
        limit.elim rest fun n => rest.take n
      match ← contentOf x with
      | .error e => complain a x e
      | .ok cs =>
        match ← contentOf y with
        | .error e => complain a y e
        | .ok ds => tellDifferences a x y (part cs first) (part ds second)
where
  /-- Tells that a file cannot be read. -/
  complain (a : Arguments) (path : String) (e : FileError) : Act Nat := do
    if !(a.has "s") then report "cmp" (path ++ ": " ++ e.reason)
    return 2

end Pipeline.Shell.Utility
