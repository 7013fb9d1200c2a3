import Pipeline.Shell.Utility.Edit.OfText
import Pipeline.Shell.Utility.Arguments
import Pipeline.Shell.Utility.PathName

/-!
# Editing lines

Lines go one after the other through a script that changes and writes them. The script keeps a text
beside the line, and may take in further lines or leave some out.
-/

namespace Pipeline.Shell.Utility.Edit

/-- A line of the input. -/
structure InputLine where
  text : List Char
  /-- Whether a line end comes after it. -/
  ended : Bool
  file : String
  /-- Whether no other line comes after it. -/
  isLast : Bool
  /-- Whether everything starts anew with it. -/
  isFresh : Bool

/-- Where output goes. -/
inductive Target where
  | output
  | errors
  | file (name : String)
  deriving DecidableEq, Repr

/-- The target that a name stands for. -/
def Target.ofName (name : String) : Target :=
  if name = "/dev/stdout" then .output else if name = "/dev/stderr" then .errors else .file name

/-- What is written when a line is done with. -/
inductive Queued where
  | text (cs : List Char)
  | file (name : String)
  | line (name : String)

/-- How far a range has come. -/
inductive RangeState where
  | waiting
  /-- Up to a line of a number, if it is known. -/
  | active (stop : Option Nat)
  | closed
  deriving DecidableEq, Repr

/-- What does not change while lines are edited. -/
structure Setting where
  script : Script
  system : System
  quiet : Bool
  inPlace : Bool
  delimiter : Char
  width : Nat

/-- What is known while lines are edited. -/
structure Editing where
  lines : List InputLine
  number : Nat := 0
  space : List Char := []
  ended : Bool := true
  file : String := "-"
  isLast : Bool := true
  held : List Char := []
  replaced : Bool := false
  /-- The states of ranges by the numbers of their commands. -/
  ranges : List (Nat × RangeState) := []
  queue : List Queued := []
  lastPattern : Option LinePattern := none
  /-- The lines that are left of files which are read line by line. -/
  sources : List (String × List (List Char)) := []
  /-- Targets whose last line has no end yet. -/
  unfinished : List Target := []
  /-- What was written for the file that is edited in place, the last piece first. -/
  edited : List (List Char) := []

/-- Why editing ends. -/
inductive Halt where
  | quit (status : Nat)
  | failure (e : ScriptError)

/-- An action on lines. -/
abbrev Editor := ExceptT Halt (StateT Editing Act)

/-- An action of the shell as one on lines. -/
def ofShell {α : Type} (action : Act α) : Editor α :=
  ExceptT.lift (StateT.lift action)

/-- Writes octets as they are. -/
def writeRaw (g : Setting) (target : Target) (cs : List Char) : Editor Unit := do
  if !cs.isEmpty then
    match target with
    | .output =>
      if g.inPlace then modify fun s => { s with edited := cs :: s.edited }
      else ofShell (put cs)
    | .errors => ofShell (Act.warn (String.ofList cs))
    | .file name =>
      ofShell do
        let s ← get
        let _ ← Act.changeFiles fun f => f.append s.workingDir name (Text.octetsOf cs)

/-- Writes octets, after the end of the line before if that has none. -/
def writeText (g : Setting) (target : Target) (cs : List Char) : Editor Unit := do
  if (← get).unfinished.contains target then
    modify fun s => { s with unfinished := s.unfinished.filter (· ≠ target) }
    writeRaw g target [g.delimiter]
  writeRaw g target cs

/-- Writes a line. -/
def writeLine (g : Setting) (target : Target) (cs : List Char) : Editor Unit := do
  if (← get).ended then writeText g target (cs ++ [g.delimiter])
  else
    writeText g target cs
    modify fun s => { s with unfinished := target :: s.unfinished }

/-- The content of a file, nothing if it cannot be read. -/
def contentFor (name : String) : Act (List Char) := do
  match ← contentOf name with
  | .ok content => return content
  | .error _ => return []

/-- Writes what waits for the end of a line. -/
def writeQueued (g : Setting) : Editor Unit := do
  let queue := (← get).queue
  modify fun s => { s with queue := [] }
  for item in queue do
    match item with
    | .text cs => writeText g .output cs
    | .file name =>
      let content ← ofShell (contentFor name)
      if !content.isEmpty then writeText g .output content
    | .line name =>
      let lines ←
        match (← get).sources.lookup name with
        | some lines => pure lines
        | none => pure (bareLinesOf (← ofShell (contentFor name)))
      modify fun s =>
        { s with sources := (name, lines.drop 1) :: s.sources.filter fun x => x.1 != name }
      if let line :: _ := lines then writeText g .output (line ++ [g.delimiter])

/-- Ends the editing of a file in place. -/
def finishFile (g : Setting) : Editor Unit := do
  let s ← get
  if g.inPlace && s.file != "-" then
    let content := s.edited.reverse.flatten
    ofShell do
      let t ← get
      let _ ← Act.changeFiles fun f => f.write t.workingDir s.file (Text.octetsOf content)
    modify fun s => { s with
      edited := [], unfinished := s.unfinished.filter (· ≠ .output), file := "-" }

/-- Takes in the next line, after what is there already if `more` says so; tells whether there was
one. -/
def readNext (g : Setting) (more : Bool) : Editor Bool := do
  writeQueued g
  match (← get).lines with
  | [] => return false
  | line :: rest =>
    if line.isFresh then
      finishFile g
      modify fun s => { s with number := 0, held := [], ranges := [] }
    modify fun s => { s with
      lines := rest, number := s.number + 1, replaced := false, ended := line.ended
      space := if more then s.space ++ g.delimiter :: line.text else line.text
      file := line.file, isLast := line.isLast }
    return true

/-- The expression of a pattern, which from now on is the last one used. -/
def expressionOf (p : LinePattern) : Editor (Regex × Bool) := do
  let p ←
    match p.regex, (← get).lastPattern with
    | some _, _ => pure p
    | none, some last => pure last
    | none, none => throw (.failure .noPattern)
  modify fun s => { s with lastPattern := some p }
  match p.regex with
  | some r => return (r, p.fold)
  | none => throw (.failure .noPattern)

/-- Whether an address tells the line that is there. -/
def Address.holds (a : Address) : Editor Bool := do
  let s ← get
  match a with
  | .line n => return s.number == n
  | .step first period => return first ≤ s.number && (s.number - first) % period == 0
  | .last => return s.isLast
  | .pattern p =>
    let (r, fold) ← expressionOf p
    return (r.find? fold s.space.toArray 0).isSome

/-- The state of the range of a command. -/
def rangeState (index : Nat) (first : Address) : Editor RangeState := do
  match (← get).ranges.lookup index with
  | some state => return state
  | none => return if let .line 0 := first then .active none else .waiting

/-- Notes how far a range has come. -/
def setRange (index : Nat) (state : RangeState) : Editor Unit :=
  modify fun s => { s with ranges := (index, state) :: s.ranges.filter fun r => r.1 != index }

/-- Whether a range starts at the line that is there. -/
def startsRange (index : Nat) (first : Address) (stop : RangeEnd) : Editor Bool := do
  let n := (← get).number
  let numbered? : Option Nat := match first with | .line m => some m | _ => none
  let begins ←
    match numbered? with
    | some m => pure (decide (m ≤ n))
    | none => first.holds
  if !begins then return false
  match stop with
  | .address (.line e) =>
    if e ≤ n then return numbered?.all fun m => n ≤ e || m == n
    setRange index (.active (some e))
  | .address _ => setRange index (.active none)
  | .count 0 => setRange index .closed
  | .count k => setRange index (.active (some (n + k)))
  | .multiple k =>
    if k = 0 || n % k = 0 then setRange index .closed
    else setRange index (.active (some (n + (k - n % k))))
  return true

/-- Whether a command is for the line that is there. -/
def selects (index : Nat) (selection : Selection) : Editor Bool := do
  let inside ←
    match selection.first, selection.stop with
    | none, _ => pure true
    | some a, none => a.holds
    | some first, some stop =>
      match ← rangeState index first with
      | .active (some e) =>
        let n := (← get).number
        if e ≤ n then setRange index .closed
        if n ≤ e then pure true else startsRange index first stop
      | .active none =>
        if let .address a := stop then
          if ← a.holds then setRange index .closed
        pure true
      | .waiting => startsRange index first stop
      | .closed =>
        match first with
        | .line _ => pure false
        | _ => startsRange index first stop
  return inside != selection.negated

/-- A change of case that is under way: of all that follows, and of the next character. -/
structure CaseState where
  all : CaseChange := .none
  next : CaseChange := .none

/-- Characters with their case changed, and the change that is under way after them. -/
def CaseState.apply (s : CaseState) : List Char → List Char × CaseState
  | [] => ([], s)
  | c :: cs =>
    let whole (d : Char) : Char :=
      match s.all with
      | .upper => d.toUpper
      | .lower => d.toLower
      | _ => d
    let d :=
      match s.next with
      | .upperNext => c.toUpper
      | .lowerNext => c.toLower
      | _ => whole c
    let (ds, t) := CaseState.apply { s with next := .none } cs
    (d :: ds, t)

/-- What is put in for a match. -/
def replacementOf (text : Array Char) (m : Match) : CaseState → List ReplacePart → List Char
  | _, [] => []
  | s, .case change :: parts =>
    let s : CaseState :=
      match change with
      | .upper | .lower => { s with all := change }
      | .upperNext | .lowerNext => { s with next := change }
      | .none => {}
    replacementOf text m s parts
  | s, .text cs :: parts =>
    let (cs, s) := s.apply cs
    cs ++ replacementOf text m s parts
  | s, .group number :: parts =>
    let (start, stop) :=
      if number = 0 then (m.start, m.stop) else (m.groups.lookup number).getD (0, 0)
    let (cs, s) := s.apply (text.extract start stop).toList
    cs ++ replacementOf text m s parts

/-- The text with some of the matches replaced. -/
def replaceMatches (text : Array Char) (parts : List ReplacePart) :
    Nat → List Match → List Char
  | from', [] => (text.extract from' text.size).toList
  | from', m :: ms =>
    (text.extract from' m.start).toList ++ replacementOf text m {} parts ++
      replaceMatches text parts m.stop ms

/-- The output of a command of a shell. -/
def outputOfCommand (system : System) (command : List Char) : Act (List Char) := do
  return (← system.outputOf "sh" (String.ofList command)).1

/-- Replaces matches in the line. -/
def replaceIn (g : Setting) (c : Substitution) : Editor Unit := do
  let (r, fold) ← expressionOf c.pattern
  let text := (← get).space.toArray
  let found :=
    if c.all || 1 < c.occurrence then (r.all fold text).drop (c.occurrence - 1)
    else (r.find? fold text 0).toList
  let found := if c.all then found else found.take 1
  if !found.isEmpty then
    modify fun s => { s with space := replaceMatches text c.parts 0 found, replaced := true }
    if c.runs then
      let output ← ofShell (outputOfCommand g.system (← get).space)
      modify fun s => { s with space := withoutEnd output }
    for _ in List.range c.prints do writeLine g .output (← get).space
    if let some name := c.file then writeLine g (Target.ofName name) (← get).space

/-- The signs that show a character. -/
def revealed (c : Char) : List Char :=
  if c = '\\' then ['\\', '\\'] else if isShown c then [c] else escapeOf c

/-- Signs in rows of a width at most, with a mark at the end of each row. -/
def inRows (width : Nat) : Nat → List (List Char) → List Char
  | _, [] => ['$']
  | column, signs :: rest =>
    if width ≠ 0 ∧ width - 1 < column + signs.length then
      '\\' :: '\n' :: signs ++ inRows width signs.length rest
    else signs ++ inRows width (column + signs.length) rest

/-- Where a script goes on. -/
inductive Next where
  | command (index : Nat)
  /-- The line is done with, and is written if it has not been. -/
  | done (writes : Bool)
  /-- The script starts again with the line that is there. -/
  | again

/-- The part of the line up to its first line end, and the part after that if there is one. -/
def splitFirst (delimiter : Char) (space : List Char) : List Char × Option (List Char) :=
  let line := space.takeWhile (· ≠ delimiter)
  (line, if line.length = space.length then none else some (space.drop (line.length + 1)))

/-- Puts something off to the end of the line. -/
def enqueue (item : Queued) : Editor Unit :=
  modify fun s => { s with queue := s.queue ++ [item] }

/-- Does what a command says; tells where to go on. -/
def Deed.perform (g : Setting) (index : Nat) (d : Deed) : Editor Next := do
  let s ← get
  let onward : Next := .command (index + 1)
  let goTo (label : String) : Next :=
    if label.isEmpty then .done true
    else .command ((g.script.labels.lookup label).getD g.script.commands.size)
  match d with
  | .block _ | .idle => return onward
  | .tellNumber =>
    writeText g .output (toString s.number ++ "\n").toList
    return onward
  | .tellName =>
    writeText g .output (s.file ++ "\n").toList
    return onward
  | .append text =>
    enqueue (.text text)
    return onward
  | .readFile name =>
    enqueue (.file name)
    return onward
  | .readLine name =>
    enqueue (.line name)
    return onward
  | .insert text =>
    writeText g .output text
    return onward
  | .change text =>
    let isActive := match s.ranges.lookup index with | some (.active _) => true | _ => false
    if !isActive then writeText g .output text
    return .done false
  | .jump label => return goTo label
  | .jumpIfReplaced label =>
    set { s with replaced := false }
    return if s.replaced then goTo label else onward
  | .jumpUnlessReplaced label =>
    set { s with replaced := false }
    return if s.replaced then onward else goTo label
  | .delete => return .done false
  | .deleteFirst =>
    match splitFirst g.delimiter s.space with
    | (_, none) => return .done false
    | (_, some rest) =>
      set { s with space := rest }
      return .again
  | .run command =>
    if command.isEmpty then
      let output ← ofShell (outputOfCommand g.system s.space)
      set { s with space := withoutEnd output }
    else writeText g .output (← ofShell (outputOfCommand g.system command))
    return onward
  | .takeHeld =>
    set { s with space := s.held }
    return onward
  | .addHeld =>
    set { s with space := s.space ++ g.delimiter :: s.held }
    return onward
  | .hold =>
    set { s with held := s.space }
    return onward
  | .addToHeld =>
    set { s with held := s.held ++ g.delimiter :: s.space }
    return onward
  | .exchange =>
    set { s with space := s.held, held := s.space }
    return onward
  | .reveal width =>
    writeText g .output (inRows (width.getD g.width) 0 (s.space.map revealed) ++ [g.delimiter])
    return onward
  | .nextLine =>
    if s.isLast then return .done true
    if !g.quiet then writeLine g .output s.space
    return if ← readNext g false then onward else .done false
  | .addLine =>
    if s.isLast then return .done true
    return if ← readNext g true then onward else .done true
  | .print =>
    writeLine g .output s.space
    return onward
  | .printFirst =>
    writeText g .output ((splitFirst g.delimiter s.space).1 ++ [g.delimiter])
    return onward
  | .quit status silent =>
    if !silent then
      if !g.quiet then writeLine g .output s.space
      writeQueued g
    throw (.quit status)
  | .write name =>
    writeLine g (Target.ofName name) s.space
    return onward
  | .writeFirst name =>
    writeText g (Target.ofName name) ((splitFirst g.delimiter s.space).1 ++ [g.delimiter])
    return onward
  | .replace c =>
    replaceIn g c
    return onward
  | .exchangeCharacters pairs =>
    set { s with space := s.space.map fun c => (pairs.lookup c).getD c }
    return onward
  | .clear =>
    set { s with space := [] }
    return onward

/-- How many commands are carried out at most. -/
def stepLimit : Nat := 100000000

/-- Goes through the lines with the script, from a command on. -/
def run (g : Setting) : Nat → Nat → Editor Unit
  | 0, _ => return
  | fuel + 1, index => do
    let finish (writes : Bool) : Editor Bool := do
      if writes && !g.quiet then writeLine g .output (← get).space
      readNext g false
    match g.script.commands[index]? with
    | none => if ← finish true then run g fuel 0
    | some command =>
      let selected ← selects index command.selection
      let next : Next ←
        if selected then command.deed.perform g index
        else
          pure (match command.deed with
            | .block stop => Next.command stop
            | _ => Next.command (index + 1))
      match next with
      | .command index => run g fuel index
      | .done writes => if ← finish writes then run g fuel 0
      | .again =>
        writeQueued g
        run g fuel 0

/-- The lines of a content. -/
def inputLines (delimiter : Char) (file : String) (content : List Char) : List InputLine :=
  let swap (c : Char) : Char :=
    if c = delimiter then '\n' else if c = '\n' then delimiter else c
  (linesOf (content.map swap)).map fun line =>
    ⟨(withoutEnd line).map swap, line.getLast? == some '\n', file, false, false⟩

/-- Lines of which the last one is marked, and the first if it is a new start. -/
def marked (fresh : Bool) (lines : List InputLine) : List InputLine :=
  let lines :=
    match lines.reverse with
    | last :: before => ({ last with isLast := true } :: before).reverse
    | [] => []
  match lines with
  | first :: rest => { first with isFresh := fresh } :: rest
  | [] => []

/-- The options of `sed`. -/
def options : OptionTable where
  plain := "nrEsuzb"
  valued := "efl"
  optional := "i"
  long := [("quiet", 'n'), ("silent", 'n'), ("expression", 'e'), ("file", 'f'), ("in-place", 'i'),
    ("line-length", 'l'), ("regexp-extended", 'E'), ("separate", 's'), ("unbuffered", 'u'),
    ("null-data", 'z'), ("zero-terminated", 'z'), ("binary", 'b')]
  longPlain := ["posix", "debug", "sandbox", "follow-symlinks"]

/-- How `sed` is used. -/
def usage : String :=
  "Usage: sed [OPTION]... \x7bscript-only-if-no-other-script\x7d [input-file]...\n\n" ++
    "  -n, --quiet, --silent\n                 suppress automatic printing of pattern space\n" ++
    "      --debug\n                 annotate program execution\n" ++
    "  -e script, --expression=script\n" ++
    "                 add the script to the commands to be executed\n" ++
    "  -f script-file, --file=script-file\n                 add the contents of script-file to " ++
    "the commands to be executed\n  --follow-symlinks\n" ++
    "                 follow symlinks when processing in place\n" ++
    "  -i[SUFFIX], --in-place[=SUFFIX]" ++
    "\n                 edit files in place (makes backup if SUFFIX supplied)\n" ++
    "  -l N, --line-length=N\n                 specify the desired line-wrap length for the " ++
    "\x60l' command\n  --posix\n                 disable all GNU extensions.\n" ++
    "  -E, -r, --regexp-extended\n                 use extended regular expressions in the " ++
    "script\n                 (for portability use POSIX -E).\n  -s, --separate\n" ++
    "                 consider files as separate rather than as a single,\n" ++
    "                 continuous long stream.\n      --sandbox\n" ++
    "                 operate in sandbox mode (disable e/r/w commands).\n  -u, --unbuffered\n" ++
    "                 load minimal amounts of data from the input files and flush\n" ++
    "                 the output buffers more often\n  -z, --null-data\n" ++
    "                 separate lines by NUL characters\n" ++
    "      --help     display this help and exit\n" ++
    "      --version  output version information and exit\n\n" ++
    "If no -e, --expression, -f, or --file option is given, then the first\n" ++
    "non-option argument is taken as the sed script to interpret.  All\n" ++
    "remaining arguments are names of input files; if no input files are\n" ++
    "specified, then the standard input is read.\n\n"

/-- A part of a script: where it comes from, and its text. -/
structure ScriptPart where
  /-- The file that it is in, or its number among the parts that are in arguments. -/
  origin : String ⊕ Nat
  text : List Char

/-- What is said of an error in a part. -/
def ScriptPart.complaint (p : ScriptPart) (e : PlacedError) : String :=
  let place :=
    match p.origin with
    | .inl file => "file " ++ file ++ " line " ++ toString e.line
    | .inr number => "-e expression #" ++ toString number ++ ", char " ++ toString e.taken
  place ++ ": " ++ e.error.message

/-- The script of parts, or what is wrong with it. -/
def scriptOf (start : Reading) (parts : List ScriptPart) : Except String Script :=
  go start parts none
where
  /-- The script of the parts that are left; `last` is the one before. -/
  go (s : Reading) : List ScriptPart → Option ScriptPart → Except String Script
    | [], last =>
      match takeLast.run s with
      | .ok (script, _) => .ok script
      | .error e => .error ((last.map fun p => p.complaint e).getD e.error.message)
    | p :: rest, _ =>
      match (takePart p.text).run s with
      | .ok ((), s) => go s rest (some p)
      | .error e => .error (p.complaint e)

/-- The label that a command jumps to and that stands nowhere. -/
def missingLabel? (script : Script) : Option String :=
  script.commands.toList.findSome? fun command =>
    match command.deed with
    | .jump label | .jumpIfReplaced label | .jumpUnlessReplaced label =>
      if label.isEmpty || (script.labels.lookup label).isSome then none else some label
    | _ => none

/-- The parts of the script that options name, the first of those in arguments with a number. -/
def partsOf (number : Nat) : List (String × String) → Act (Except String (List ScriptPart))
  | [] => return .ok []
  | (key, value) :: rest => do
    if key = "e" then
      return (← partsOf (number + 1) rest).map (⟨.inr number, value.toList⟩ :: ·)
    else if key = "f" then
      match ← contentOf value with
      | .error .isDirectory => partsOf number rest
      | .error e => return .error ("couldn't open file " ++ value ++ ": " ++ e.reason)
      | .ok content => return (← partsOf number rest).map (⟨.inl value, content⟩ :: ·)
    else partsOf number rest

/-- What was found of the files to be edited. -/
structure Input where
  lines : List InputLine := []
  failed : Bool := false
  unfit : Bool := false
  /-- A file that cannot be read any further. -/
  blocked : Option String := none
  /-- Files that are edited in place, with their contents. -/
  backups : List (String × List Char) := []

/-- Reads the files to be edited. -/
def readInput (delimiter : Char) (separate inPlace : Bool) (operands : List String) :
    Act Input := do
  let mut input : Input := {}
  for operand in operands do
    if input.blocked.isNone && !input.unfit then
      match ← contentOf operand with
      | .ok content =>
        let lines := inputLines delimiter operand content
        let lines := if separate then marked true lines else lines
        input := { input with
          lines := input.lines ++ lines, backups := input.backups ++ [(operand, content)] }
      | .error .isDirectory =>
        if inPlace then
          report "sed" ("couldn't edit " ++ operand ++ ": not a regular file")
          input := { input with unfit := true }
        else input := { input with blocked := some operand }
      | .error e =>
        report "sed" ("can't read " ++ operand ++ ": " ++ e.reason)
        input := { input with failed := true }
  return if separate then input else { input with lines := marked false input.lines }

/-- The path of a copy of a file. -/
def backupPath (file ending : String) : String :=
  if ending.toList.contains '*' then
    let name := String.intercalate (lastName file) (ending.splitOn "*")
    if name.toList.contains '/' then name else Path.join (directoryName file) name
  else file ++ ending

/-- Edits the lines of files with a script. -/
def edit (system : System) (a : Arguments) (script : Script) (operands : List String)
    (lastPart : Nat) : Act Nat := do
  let inPlace := a.has "i"
  if inPlace && operands.isEmpty then
    report "sed" "no input files"
    return 4
  let delimiter := if a.has "z" then '\x00' else '\n'
  for name in script.outputs do
    if Target.ofName name = .file name then
      let dir := (← get).workingDir
      let opened ← change "sed"
        (fun e => "couldn't open file " ++ name ++ ": " ++ e.reason) fun f =>
        f.write dir name []
      if !opened then return 4
  let fromInput := operands.isEmpty || operands.contains "-"
  let left := (← get).inputFileSize?
  let input ← readInput delimiter (inPlace || a.has "s") inPlace
    (if operands.isEmpty then ["-"] else operands)
  if inPlace then
    for (file, content) in input.backups do
      if let some ending := (a.value? "i").filter (· ≠ "") then
        let dir := (← get).workingDir
        let _ ← Act.changeFiles fun f =>
          f.write dir (backupPath file ending) (Text.octetsOf content)
  let g : Setting := {
    script := script, system := system, quiet := a.has "n" || script.quiet, inPlace := inPlace
    delimiter := delimiter, width := ((a.value? "l").bind String.toNat?).getD 70 }
  let steps : Editor Unit := do
    if ← readNext g false then run g stepLimit 0
  let (outcome, s) ← (steps.run).run { lines := input.lines }
  let _ ← ((finishFile g).run).run s
  match outcome with
  | .ok () =>
    if let some file := input.blocked then
      report "sed" ("read error on " ++ file ++ ": " ++ FileError.isDirectory.reason)
      return 4
    return if input.unfit then 4 else if input.failed then 2 else 0
  | .error (.quit status) =>
    if fromInput && left.isSome then
      let content := s.lines.flatMap fun l => l.text ++ if l.ended then [delimiter] else []
      modify fun t =>
        match t.descriptors.lookup 0 with
        | some stream => { t with streams := t.streams.set stream (.remaining content true) }
        | none => t
    return status
  | .error (.failure e) =>
    report "sed" ("-e expression #" ++ toString lastPart ++ ", char 0: " ++ e.message)
    return 1

end Edit

/-- Edits lines with a script. -/
def sed (system : System) (args : List String) : Act Nat := do
  let args := args.map fun arg => if arg = "-r" then "-E" else arg
  match parseArguments Edit.options false (args.length + 1) args with
  | .error problem =>
    report "sed" problem
    Act.warn Edit.usage
    return 1
  | .ok a =>
    let named := a.has "e" || a.has "f"
    let (options, operands) : List (String × String) × List String :=
      match named, a.operands with
      | false, script :: rest => ([("e", script)], rest)
      | _, operands => (a.options, operands)
    if !named && a.operands.isEmpty then
      Act.warn Edit.usage
      return 1
    match ← Edit.partsOf 1 options with
    | .error problem =>
      report "sed" problem
      return 4
    | .ok parts =>
      let start : Edit.Reading :=
        { rest := [], extended := a.has "E" || a.has "r", restricted := a.has "sandbox" }
      match Edit.scriptOf start parts with
      | .error problem =>
        report "sed" problem
        return 1
      | .ok script =>
        if let some label := Edit.missingLabel? script then
          report "sed" ("can't find label for jump to \x60" ++ label ++ "'")
          return 4
        Edit.edit system a script operands parts.length

end Pipeline.Shell.Utility
