import Pipeline.Shell.Pattern
import Pipeline.Shell.Utility.Order
import Pipeline.Shell.Utility.Status

/-!
# Lists of files

Files and the contents of directories are listed in an order, one in a line, in columns, or with
what is known of each.
-/

namespace Pipeline.Shell.Utility

/-- A file to be listed. -/
structure Listed where
  name : String
  place : Place
  entry : FileEntry

/-- How names are laid out. -/
inductive NameLayout where
  | single
  | columns
  | rows
  | commas
  | long
  deriving DecidableEq, Repr

/-- How files are listed. -/
structure ListStyle where
  layout : NameLayout := .single
  hidden : Bool := false
  withParents : Bool := false
  recursive : Bool := false
  /-- Links count as what they lead to. -/
  follows : Bool := false
  reversed : Bool := false
  /-- The letter of the order, a letter of the options. -/
  order : Char := 'n'
  directoriesFirst : Bool := false
  indicator : Option Char := none
  quoting : Char := 'N'
  blocks : Bool := false
  indices : Bool := false
  human : Bool := false
  owner : Bool := true
  group : Bool := true
  numeric : Bool := false
  width : Nat := 80
  ignored : List String := []

/-- A name as it is shown. -/
def shownName (style : ListStyle) (name : String) : String :=
  match style.quoting with
  | 'Q' =>
    String.ofList (['"'] ++ (name.toList.flatMap fun c =>
      if c = '"' ∨ c = '\\' then ['\\', c] else if isShown c then [c] else escapeOf c) ++ ['"'])
  | 'b' =>
    String.ofList (name.toList.flatMap fun c =>
      if c = ' ' ∨ c = '\\' then ['\\', c] else if isShown c then [c] else escapeOf c)
  | 'q' => String.ofList (name.toList.map fun c => if isShown c then c else '?')
  | 's' => quotedIfNeeded name
  | _ => name

/-- The sign after a name that tells its kind. -/
def indicatorOf (f : Files) (style : ListStyle) (e : Listed) : String :=
  match style.indicator, e.entry with
  | none, _ => ""
  | some _, .directory => "/"
  | some 'p', _ => ""
  | some _, .link _ => if style.layout = .long then "" else "@"
  | some 'F', .file _ => if f.modeOf e.place &&& 0o111 != 0 then "*" else ""
  | _, _ => ""

/-- A name in a list with what stands around it. -/
def labelOf (f : Files) (style : ListStyle) (e : Listed) : String :=
  shownName style e.name ++ indicatorOf f style e

/-- What comes after the last point of a name, the point included. -/
def extensionOf (name : String) : List Char :=
  let cs := name.toList.reverse
  let ending := cs.takeWhile (· ≠ '.')
  if ending.length = cs.length then [] else '.' :: ending.reverse

/-- How two files are ordered. -/
def listedBefore (f : Files) (style : ListStyle) (a b : Listed) : Bool :=
  let byName := compareOctets a.name.toList b.name.toList
  let newer : Ordering :=
    if f.isOlderPlace b.place a.place then .lt else if f.isOlderPlace a.place b.place then .gt
    else .eq
  let order :=
    match style.order with
    | 't' => newer.then byName
    | 'S' => (compare (b.entry.size) (a.entry.size)).then byName
    | 'X' => (compareOctets (extensionOf a.name) (extensionOf b.name)).then byName
    | 'v' => (compareVersions 1000 a.name.toList b.name.toList).then byName
    | _ => byName
  (if style.reversed then order.swap else order) != .gt

/-- The files in their order. -/
def inListOrder (f : Files) (style : ListStyle) (files : List Listed) : List Listed :=
  let sorted := if style.order = 'U' then files else files.mergeSort (listedBefore f style)
  let isDirectory (e : Listed) : Bool :=
    match e.entry with
    | .directory => true
    | .link _ => f.isDirectory e.place.dropLast e.name
    | _ => false
  if style.directoriesFirst then
    sorted.filter isDirectory ++ sorted.filter fun e => !isDirectory e
  else sorted

/-- Blanks from one column to another, tabs where they reach. -/
def indent : Nat → Nat → Nat → String
  | 0, _, _ => ""
  | fuel + 1, start, goal =>
    if goal ≤ start then ""
    else if (start + 1) / 8 < goal / 8 then "\t" ++ indent fuel (start + 8 - start % 8) goal
    else " " ++ indent fuel (start + 1) goal

/-- The widths of columns for labels, `rows` in each; all but the last have room for two blanks. -/
def columnWidths (labels : List Nat) (count : Nat) (column : Nat → Nat) : List Nat :=
  (List.range count).map fun i =>
    ((labels.zipIdx.filter fun (_, j) => column j = i).map fun (n, _) =>
      n + if i + 1 = count then 0 else 2).foldl max 3

/-- Labels in as many columns as there is room for. -/
def inColumns (byRows : Bool) (width : Nat) (labels : List String) : String :=
  let n := labels.length
  let sizes := labels.map String.length
  let perColumn (count : Nat) : Nat := (n + count - 1) / count
  let column (count j : Nat) : Nat := if byRows then j % count else j / perColumn count
  let most := if width = 0 then n else min n ((width + 2) / 3)
  let fits (count : Nat) : Bool :=
    width = 0 || (columnWidths sizes count (column count)).foldl (· + ·) 0 < width
  let count := (((List.range most).map (· + 1)).reverse.find? fits).getD 1
  let widths := columnWidths sizes count (column count)
  let starts := widths.foldl (fun (acc : List Nat × Nat) w => (acc.1 ++ [acc.2], acc.2 + w)) ([], 0)
  let rows := perColumn count
  let cell (row i : Nat) : Option String :=
    if byRows then labels[row * count + i]? else if i * rows + row < n then labels[i * rows + row]?
      else none
  String.join ((List.range (if byRows then (n + count - 1) / count else rows)).map fun row =>
    let cells := ((List.range count).filterMap fun i => (cell row i).map fun text =>
      (starts.1.getD i 0, text))
    let line := cells.foldl (fun (acc : String × Nat) (start, text) =>
      let gap := if width = 0 then String.ofList (List.replicate (start - acc.2) ' ')
        else indent (start + 1) acc.2 start
      (acc.1 ++ gap ++ text, start + text.length)) ("", 0)
    line.1 ++ "\n")

/-- Labels with commas between them, a new line where there is no room. -/
def withCommas (width : Nat) : Nat → List String → String
  | _, [] => "\n"
  | _, [label] => label ++ "\n"
  | pos, label :: next :: rest =>
    let pos := pos + label.length
    if width = 0 ∨ pos + next.length + 2 < width then
      label ++ ", " ++ withCommas width (pos + 2) (next :: rest)
    else label ++ ",\n" ++ withCommas width 0 (next :: rest)

/-- A time as lists show it: with the time of the day if it is not long ago, else with the year. -/
def timeColumn (time : Int) : String :=
  let age := Files.presentTime - time
  let format := if age < 15778476 ∧ -3600 < age then "%b %e %H:%M" else "%b %e  %Y"
  dateText (.ofSeconds time) 20 format.toList

/-- The lines of a list with what is known of each file. -/
def longLines (f : Files) (style : ListStyle) (files : List Listed) : List String :=
  let size (e : Listed) : String :=
    match e.entry with
    | .device .nothing => "1, 3"
    | .device .zeros => "1, 5"
    | .device .chance => "1, 9"
    | entry => if style.human then humanSize entry.size else toString entry.size
  let count (e : Listed) : String := toString (nameCount f e.place)
  let widest (text : Listed → String) : Nat := (files.map fun e => (text e).length).foldl max 0
  let user := if style.numeric then "0" else "root"
  files.map fun e =>
    let target := match e.entry with | .link target => " -> " ++ shownName style target | _ => ""
    e.entry.letter.toString ++ lettersOfMode (f.modeOf e.place) ++ " " ++
      padded (widest count) (count e) ++ " " ++ (if style.owner then user ++ " " else "") ++
      (if style.group then user ++ " " else "") ++ padded (widest size) (size e) ++
      " " ++ timeColumn (f.changeOf e.place).1 ++ " " ++ labelOf f style e ++ target

/-- What comes before the name of a file where its room or its number is asked for. -/
def leadOf (f : Files) (style : ListStyle) (files : List Listed) (e : Listed) : String :=
  let blocks (e : Listed) : String :=
    if style.human then humanSize (e.entry.blocks * 1024)
    else toString e.entry.blocks
  let index (e : Listed) : String := toString (1000 + f.entries.findIdx fun x => x.1 == e.place)
  let widest (text : Listed → String) : Nat := (files.map fun e => (text e).length).foldl max 0
  (if style.indices then padded (widest index) (index e) ++ " " else "") ++
    if style.blocks then padded (widest blocks) (blocks e) ++ " " else ""

/-- Writes a list of files. -/
def writeList (style : ListStyle) (files : List Listed) : Act Unit := do
  let f := (← get).files
  let files := inListOrder f style files
  let label (e : Listed) : String := leadOf f style files e ++ labelOf f style e
  let lines := longLines f style files
  Act.say <|
    match style.layout with
    | .single => String.join (files.map fun e => label e ++ "\n")
    | .columns => inColumns false style.width (files.map label)
    | .rows => inColumns true style.width (files.map label)
    | .commas => withCommas style.width 0 (files.map label)
    | .long =>
      String.join ((files.zip lines).map fun (e, line) => leadOf f style files e ++ line ++ "\n")

/-- The files in a directory that are listed. -/
def listedIn (f : Files) (style : ListStyle) (place : Place) : List Listed :=
  let names := (f.childrenOf place).filter fun name =>
    (style.hidden || name.toList.head? != some '.') &&
      !style.ignored.any fun p => (patternOfText p).acceptsText name
  let own : List Listed := names.filterMap fun name =>
    (f.get? (place ++ [name])).map fun entry =>
      match style.follows, entry with
      | true, .link _ =>
        match f.locate place name with
        | .ok (goal, entry) => ⟨name, goal, entry⟩
        | .error _ => ⟨name, place ++ [name], entry⟩
      | _, _ => ⟨name, place ++ [name], entry⟩
  (if style.withParents then
    [⟨".", place, .directory⟩, ⟨"..", place.dropLast, .directory⟩] else []) ++ own

/-- Writes what is in a directory, and in those below if asked to; a label stands before each list
after the first. -/
def writeDirectory (style : ListStyle) : Nat → Bool → Bool → String → Place → Act Unit
  | 0, _, _, _, _ => return
  | fuel + 1, labelled, first, path, place => do
    let f := (← get).files
    if labelled then Act.say ((if first then "" else "\n") ++ shownName style path ++ ":\n")
    let files := listedIn f style place
    if style.layout = .long || style.blocks then
      let sum := files.foldl (fun n e => n + e.entry.blocks) 0
      Act.say ("total " ++ (if style.human then humanSize (sum * 1024) else toString sum) ++ "\n")
    if !files.isEmpty then writeList style files
    if style.recursive then
      for e in inListOrder f style files do
        if e.entry == .directory && e.name != "." && e.name != ".." then
          writeDirectory style fuel true false (Path.join path e.name) e.place

/-- The options of `ls`. -/
def lsOptions : OptionTable where
  plain := "aAbBcCdfFgGhHiklLmnNopqQrRsStuUvxXZ1"
  valued := "ITw"
  long := [("all", 'a'), ("almost-all", 'A'), ("escape", 'b'), ("ignore-backups", 'B'),
    ("directory", 'd'), ("human-readable", 'h'), ("inode", 'i'), ("ignore", 'I'), ("literal", 'N'),
    ("numeric-uid-gid", 'n'), ("hide-control-chars", 'q'), ("quote-name", 'Q'), ("reverse", 'r'),
    ("recursive", 'R'), ("size", 's'), ("dereference", 'L'), ("no-group", 'G'), ("tabsize", 'T'),
    ("width", 'w')]
  longPlain := ["group-directories-first", "file-type", "full-time", "author", "si",
    "show-control-chars", "dereference-command-line"]
  longValued := ["format", "sort", "time-style", "indicator-style", "quoting-style", "hide",
    "block-size"]
  longOptional := ["color", "classify", "hyperlink", "time"]

/-- The style of lists that options ask for. -/
def listStyleOf (columns : Bool) (a : Arguments) : ListStyle :=
  let layoutOf : String × String → Option NameLayout
    | ("1", _) => some .single
    | ("C", _) => some .columns
    | ("x", _) => some .rows
    | ("m", _) => some .commas
    | ("l", _) | ("n", _) | ("g", _) | ("o", _) | ("full-time", _) => some .long
    | ("format", "commas") => some .commas
    | ("format", "single-column") => some .single
    | ("format", "long") | ("format", "verbose") => some .long
    | ("format", "across") | ("format", "horizontal") => some .rows
    | ("format", _) => some .columns
    | _ => none
  let layouts := a.options.filterMap layoutOf
  let layout :=
    match layouts.getLast? with
    | some .single => if layouts.contains .long then .long else .single
    | some layout => layout
    | none => if columns then .columns else .single
  let order :=
    match a.options.reverse.find? fun o => ["t", "S", "X", "v", "U", "f", "sort"].contains o.1 with
    | some ("sort", word) =>
      if word = "size" then 'S' else if word = "time" then 't' else if word = "none" then 'U'
      else if word = "extension" then 'X' else if word = "version" then 'v' else 'n'
    | some ("f", _) => 'U'
    | some (key, _) => key.toList.headD 'n'
    | none => 'n'
  let indicator :=
    match a.options.reverse.find? fun o =>
      ["F", "p", "file-type", "classify", "indicator-style"].contains o.1 with
    | some ("p", _) => some 'p'
    | some ("file-type", _) => some 't'
    | some ("F", _) => some 'F'
    | some ("classify", word) => if ["", "always", "yes"].contains word then some 'F' else none
    | some (_, word) =>
      if word = "slash" then some 'p' else if word = "file-type" then some 't'
      else if word = "classify" then some 'F' else none
    | none => none
  let quoting :=
    match a.options.reverse.find? fun o => ["Q", "b", "N", "q", "quoting-style"].contains o.1 with
    | some ("quoting-style", word) =>
      if word = "c" then 'Q' else if word = "escape" then 'b'
      else if "shell".toList.isPrefixOf word.toList then 's' else 'N'
    | some (key, _) => key.toList.headD 'N'
    | none => if columns then 'b' else 'N'
  { layout := layout
    hidden := a.has "a" || a.has "A" || a.has "f"
    withParents := (a.last? ["a", "A", "f"]).any (· ≠ "A")
    recursive := a.has "R", follows := a.has "L", reversed := a.has "r", order := order
    directoriesFirst := a.has "group-directories-first" && order != 'U'
    indicator := indicator, quoting := quoting
    blocks := a.has "s", indices := a.has "i", human := a.has "h"
    owner := !a.has "g", group := !a.has "o" && !a.has "G", numeric := a.has "n"
    width := ((a.value? "w").bind String.toNat?).getD 80
    ignored := a.values "I" ++ (if a.has "B" then ["*~"] else []) ++
      if a.has "a" || a.has "A" then [] else a.values "hide" }

/-- Lists files and the contents of directories; `columns` says how if no option does. -/
def listFiles (name : String) (columns : Bool) (args : List String) : Act Nat :=
  withArguments name lsOptions 2 args fun a => do
    let style := listStyleOf columns a
    let follows :=
      style.follows || (!a.has "d" && style.layout != .long && style.indicator != some 'F')
      || a.has "H"
    let mut status := 0
    let mut files : List Listed := []
    let mut directories : List Listed := []
    for operand in if a.operands.isEmpty then ["."] else a.operands do
      let s ← get
      let own := s.files.locate s.workingDir operand false
      let found : Except FileError (Place × FileEntry) :=
        match own with
        | .ok (_, .link _) =>
          if !follows then own
          else
            match s.files.locate s.workingDir operand with
            | .ok (place, entry) =>
              if style.follows || a.has "H" || entry == .directory then .ok (place, entry) else own
            | .error e => if style.follows then .error e else own
        | _ => own
      match found with
      | .error e =>
        report name ("cannot access " ++ quoted operand ++ ": " ++ e.reason)
        status := 2
      | .ok (place, entry) =>
        if entry == .directory && !a.has "d" then
          directories := directories ++ [⟨operand, place, entry⟩]
        else files := files ++ [⟨operand, place, entry⟩]
    if !files.isEmpty then writeList style files
    let labelled := 1 < a.operands.length || style.recursive
    let mut first := files.isEmpty
    for d in inListOrder (← get).files { style with directoriesFirst := false } directories do
      writeDirectory style 1000 labelled first d.name d.place
      first := false
    return status

/-- Lists files and the contents of directories. -/
def ls : List String → Act Nat :=
  listFiles "ls" false

end Pipeline.Shell.Utility
