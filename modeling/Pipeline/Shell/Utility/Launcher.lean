import Pipeline.Number.Scan
import Pipeline.Shell.Process
import Pipeline.Shell.Utility.Arguments
import Pipeline.Text.Blank

/-!
# Utilities that run other programs

A program is run with another environment, for a limited time, or again and again with arguments
that are read from standard input.
-/

namespace Pipeline.Shell.Utility

/-- Runs a program in the place of the one that is under way; a program that cannot be run is
reported as `complaint` says. -/
def become (system : System) (name : String) (complaint : FileError → String) (command : String)
    (args : List String) : Act Nat := do
  match ← system.run command args with
  | .ok (.exited status) => return status
  | .ok (.signalled signal) => throw (.killed signal)
  | .error e =>
    report name (complaint e)
    return if e = .noSuchFile || e = .notDirectory then 127 else 126

/-- The exported variables with their values. -/
def environmentOf (s : State) : List (String × String) :=
  let exported := s.bindings.reverse.filterMap fun (name, v) =>
    if v.exported then v.value.map fun value => (name, value) else none
  exported.mergeSort fun a b => tableKey a.1 ≤ tableKey b.1

/-- The assignments at the front of arguments, and the rest. -/
def takeAssignments : List String → List (String × String) × List String
  | [] => ([], [])
  | arg :: rest =>
    let name := arg.toList.takeWhile (· ≠ '=')
    match arg.toList.drop name.length with
    | [] => ([], arg :: rest)
    | _ :: value =>
      let (more, rest) := takeAssignments rest
      ((String.ofList name, String.ofList value) :: more, rest)

/-- Runs a program with another environment, or writes the environment. -/
def env (system : System) (args : List String) : Act Nat := do
  let t : OptionTable :=
    { plain := "i0v", valued := "uCS"
      long := [("ignore-environment", 'i'), ("null", '0'), ("unset", 'u'), ("chdir", 'C'),
        ("split-string", 'S'), ("debug", 'v')] }
  match parseArguments t true (args.length + 1) args with
  | .error problem => reportUse "env" problem 125
  | .ok a =>
    let split := (a.values "S").flatMap fun text => (text.splitOn " ").filter (· ≠ "")
    let operands := split ++ a.operands
    let (bare, operands) :=
      match operands with
      | "-" :: rest => (true, rest)
      | operands => (a.has "i", operands)
    let (assignments, command) := takeAssignments operands
    if bare then
      modify fun s =>
        { s with bindings := s.bindings.map fun (n, v) => (n, { v with exported := false }) }
    for name in a.values "u" do modify fun s => s.withoutVariable name
    let before := environmentOf (← get)
    for (name, value) in assignments do
      modify fun s => s.withVariable name ⟨some value, true, false⟩
    if let some dir := a.value? "C" then
      let s ← get
      match s.files.locate s.workingDir dir with
      | .ok (place, .directory) =>
        set { s with workingDir := place, reached := place.toPath }
      | found =>
        let e : FileError := match found with | .error e => e | .ok _ => .notDirectory
        report "env" ("cannot change directory to " ++ quoted dir ++ ": " ++ e.reason)
        return 125
    match command with
    | [] =>
      let kept := before.map fun (name, value) =>
        (name, ((assignments.reverse.lookup name)).getD value)
      let added := assignments.filter fun (name, _) => (before.lookup name).isNone
      let ending := if a.has "0" then "\x00" else "\n"
      Act.say (String.join ((kept ++ added).map fun (n, v) => n ++ "=" ++ v ++ ending))
      return 0
    | name :: args =>
      become system "env" (fun e => quoted name ++ ": " ++ e.reason) name args

/-- Writes the values of exported variables. -/
def printenv (args : List String) : Act Nat :=
  withArguments "printenv" { plain := "0", long := [("null", '0')] } 2 args fun a => do
    let known := environmentOf (← get)
    let ending := if a.has "0" then "\x00" else "\n"
    if a.operands.isEmpty then
      Act.say (String.join (known.map fun (n, v) => n ++ "=" ++ v ++ ending))
      return 0
    else
      forOperands a.operands fun name => do
        match known.lookup name with
        | some value =>
          Act.say (value ++ ending)
          return true
        | none => return false

/-- The time that a text writes, in microseconds: a number, with a letter for the unit. -/
def timeOf? (text : String) : Option Nat :=
  match text.toList with
  | [] => none
  | cs =>
    match Number.scanSigned? cs with
    | some (false, found, rest) =>
      let unit? : Option Nat :=
        match rest with
        | [] | ['s'] => some 1
        | ['m'] => some 60
        | ['h'] => some 3600
        | ['d'] => some 86400
        | _ => none
      match found, unit? with
      | .ratio n d, some unit => some (n * unit * 1000000 / d)
      | .infinite, some _ => some (Nat.pow 10 18)
      | _, _ => none
    | _ => none

/-- Waits for some time. -/
def sleep (args : List String) : Act Nat :=
  withArguments "sleep" {} 1 args fun a => do
    if a.operands.isEmpty then return ← reportUse "sleep" "missing operand"
    let times := a.operands.map fun text => (text, timeOf? text)
    let bad := times.filter fun t => t.2.isNone
    if bad.isEmpty then
      Act.elapse (times.foldl (fun n t => n + t.2.getD 0) 0)
      return 0
    else
      for (text, _) in bad do report "sleep" ("invalid time interval " ++ quotedArgument text)
      pointToHelp "sleep"
      return 1

/-- Runs a program for a limited time. -/
def timeout (system : System) (args : List String) : Act Nat := do
  let t : OptionTable :=
    { plain := "v", valued := "ks", longPlain := ["foreground", "preserve-status"]
      long := [("kill-after", 'k'), ("signal", 's'), ("verbose", 'v')] }
  match parseArguments t true (args.length + 1) args with
  | .error problem => reportUse "timeout" problem 125
  | .ok a =>
    match a.operands with
    | limit :: command :: args =>
      let signal? := Signal.find? ((a.value? "s").getD "TERM")
      match timeOf? limit, signal? with
      | none, _ => reportUse "timeout" ("invalid time interval " ++ quotedArgument limit) 125
      | _, none =>
        reportUse "timeout" (quotedArgument ((a.value? "s").getD "") ++ ": invalid signal") 125
      | some limit, some signal =>
        let start := (← get).clock
        let status ← become system "timeout"
          (fun e => "failed to run command " ++ quoted command ++ ": " ++ e.reason) command args
        let s ← get
        if limit ≠ 0 && start + limit < s.clock then
          set { s with clock := start + limit }
          if signal.name = "KILL" then throw (.killed signal.number)
          return if a.has "preserve-status" then 128 + signal.number else 124
        else return status
    | _ =>
      pointToHelp "timeout"
      return 125

/-- Runs a program as it is; `known` are the options, and `idle` is done where there is no
program. -/
def runPlainly (system : System) (name : String) (known : OptionTable) (badStatus : Nat)
    (complaint : String → FileError → String) (idle : Act Nat) (args : List String) : Act Nat := do
  match parseArguments known true (args.length + 1) args with
  | .error problem => reportUse name problem badStatus
  | .ok a =>
    match a.operands with
    | [] => idle
    | command :: args => become system name (complaint command) command args

/-- The complaint of a program that fails to run another one. -/
def failedToRun (command : String) (e : FileError) : String :=
  "failed to run command " ++ quoted command ++ ": " ++ e.reason

/-- Runs a program that hangups do not end. -/
def nohup (system : System) (args : List String) : Act Nat := do
  modify fun s => { s with traps := ("HUP", "") :: s.traps.filter fun t => t.1 != "HUP" }
  runPlainly system "nohup" {} 125 failedToRun (reportUse "nohup" "missing operand" 125) args

/-- Runs a program with its output taken in other portions. -/
def stdbuf (system : System) (args : List String) : Act Nat :=
  runPlainly system "stdbuf"
    { valued := "ioe", long := [("input", 'i'), ("output", 'o'), ("error", 'e')] } 125 failedToRun
    (reportUse "stdbuf" "missing operand" 125) args

/-- Runs a program in a session of its own. -/
def setsid (system : System) (args : List String) : Act Nat :=
  runPlainly system "setsid"
      { plain := "cfw", long := [("wait", 'w'), ("fork", 'f'), ("ctty", 'c')] } 1
    (fun command e => "failed to execute " ++ command ++ ": " ++ e.reason)
    (do
      report "setsid" "no command specified"
      pointToHelp "setsid"
      return 1) args

/-- Runs a program that yields to others, or tells that this one does not. -/
def nice (system : System) (args : List String) : Act Nat := do
  let args :=
    match args with
    | arg :: rest =>
      match arg.toList with
      | '-' :: c :: cs => if c.isDigit then "-n" :: String.ofList (c :: cs) :: rest else args
      | _ => args
    | [] => args
  match parseArguments { valued := "n", long := [("adjustment", 'n')] }
        true (args.length + 1) args with
  | .error problem => reportUse "nice" problem 125
  | .ok a =>
    match (a.value? "n").filter fun text => text.toInt?.isNone with
    | some text =>
      report "nice" ("invalid adjustment " ++ quotedArgument text)
      return 125
    | none =>
      match a.operands with
      | [] =>
        if a.has "n" then return ← reportUse "nice" "a command must be given with an adjustment" 125
        Act.say "0\n"
        return 0
      | command :: args =>
        become system "nice" (fun e => quoted command ++ ": " ++ e.reason) command args

/-- The words of a text in which quotes and backslashes protect blanks, each with whether it is the
last of its line; `none` where a quote is open. -/
def quotedWords : Nat → List Char → Except String (List (String × Bool))
  | 0, _ => .ok []
  | fuel + 1, cs =>
    match cs.dropWhile Text.isFieldGap with
    | [] => .ok []
    | cs => do
      let (word, rest) ← word (cs.length + 1) [] cs
      let blanks := rest.takeWhile Text.isGap
      let after := rest.drop blanks.length
      let last := after.isEmpty || (after.head? == some '\n' && blanks.isEmpty)
      return (word, last) :: (← quotedWords fuel rest)
where
  /-- The word at the front, collected in reverse, and the rest. -/
  word : Nat → List Char → List Char → Except String (String × List Char)
    | 0, acc, rest => .ok (String.ofList acc.reverse, rest)
    | _, acc, [] => .ok (String.ofList acc.reverse, [])
    | fuel + 1, acc, c :: cs =>
      if c = ' ' ∨ c = '\t' ∨ c = '\n' then .ok (String.ofList acc.reverse, c :: cs)
      else if c = '\\' then
        match cs with
        | [] => word fuel acc []
        | d :: cs => word fuel (d :: acc) cs
      else if c = '\'' ∨ c = '"' then
        let inner := cs.takeWhile fun d => d != c && d != '\n'
        match cs.drop inner.length with
        | d :: rest =>
          if d = c then word fuel (inner.reverse ++ acc) rest
          else .error (unmatched c)
        | [] => .error (unmatched c)
      else word fuel (c :: acc) cs
  /-- What is said of an open quote. -/
  unmatched (c : Char) : String :=
    "unmatched " ++ (if c = '\'' then "single" else "double") ++
      " quote; by default quotes are special to xargs unless you use the -0 option"

/-- The texts between delimiters; the last one may have no delimiter after it. -/
def delimited (delimiter : Char) (cs : List Char) : List String :=
  let parts := (String.ofList cs).splitToList (· = delimiter)
  if parts.getLast? = some "" then parts.dropLast else parts

/-- A text with another one put in for each place where a mark stands. -/
def withReplaced (mark new text : String) : String :=
  if mark.isEmpty then text else String.intercalate new (text.splitOn mark)

/-- Words in lines: a line goes on after one that ends in a blank. -/
def intoLines (words : List (String × Bool)) : List (List String) :=
  words.foldr (fun (word, last) lines =>
    if last then [word] :: lines
    else
      match lines with
      | line :: rest => (word :: line) :: rest
      | [] => [[word]]) []

/-- The parts of a list of a size at most. -/
def inParts {α : Type} (size : Nat) : Nat → List α → List (List α)
  | 0, _ => []
  | _, [] => []
  | fuel + 1, l => l.take size :: inParts size fuel (l.drop size)

/-- The options of `xargs`. -/
def xargsOptions : OptionTable where
  plain := "0oprtx"
  valued := "adEILnPs"
  optional := "eil"
  long := [("null", '0'), ("arg-file", 'a'), ("delimiter", 'd'), ("eof", 'e'), ("replace", 'i'),
    ("max-lines", 'l'), ("max-args", 'n'), ("open-tty", 'o'),
    ("max-procs", 'P'), ("interactive", 'p'),
    ("no-run-if-empty", 'r'), ("max-chars", 's'), ("verbose", 't'), ("exit", 'x')]
  longPlain := ["show-limits"]
  longValued := ["process-slot-var"]

/-- The delimiter that a text names. -/
def delimiterOf? (text : String) : Option Char :=
  match text.toList with
  | [c] => some c
  | '\\' :: rest =>
    match Escape.take rest with
    | (c, []) => some c
    | _ => none
  | _ => none

/-- The commands that `xargs` runs: the arguments of each. -/
def xargsCommands (a : Arguments) (initial : List String) (words : List (String × Bool)) :
    List (List String) :=
  let number (key : String) : Option Nat := (a.value? key).bind String.toNat?
  let items := words.map Prod.fst
  match a.last? ["I", "i", "L", "l", "n"] with
  | some key =>
    if key = "I" ∨ key = "i" then
      let mark := match a.value? key with | some "" | none => "\x7b\x7d" | some mark => mark
      items.map fun item => initial.map (withReplaced mark item)
    else if key = "n" then
      (inParts (max 1 ((number "n").getD 1)) (items.length + 1) items).map (initial ++ ·)
    else
      let lines := intoLines words
      (inParts (max 1 ((number key).getD 1)) (lines.length + 1) lines).map fun part =>
        initial ++ part.flatten
  | none =>
    match number "s" with
    | none => [initial ++ items]
    | some limit =>
      let start := initial.foldl (fun n arg => n + arg.length + 1) 0
      let parts := items.foldl (fun (acc : List (List String) × Nat) item =>
        let size := acc.2 + item.length + 1
        match acc.1 with
        | part :: rest =>
          if size ≤ limit || part.isEmpty then ((part ++ [item]) :: rest, size)
          else ([item] :: part :: rest, start + item.length + 1)
        | [] => ([[item]], size)) ([[]], start)
      parts.1.reverse.map (initial ++ ·)

/-- Runs commands one after the other until one says that no other one is to be run; the status
tells whether all went well. -/
def runCommands (system : System) (shows : Bool) : List (List String) → Nat → Act Nat
  | [], status => return status
  | command :: rest, status => do
    let name := command.headD ""
    if shows then Act.warn (String.intercalate " " (command.map quotedIfNeeded) ++ "\n")
    let ending ← Act.withDescriptors do
      let empty ← Act.newStream (.remaining [] false)
      modify fun s => s.withDescriptor 0 empty
      system.run name (command.drop 1)
    match ending with
    | .error e =>
      report "xargs" (name ++ ": " ++ e.reason)
      return if e = .noSuchFile || e = .notDirectory then 127 else 126
    | .ok (.signalled signal) =>
      report "xargs" (name ++ ": terminated by signal " ++ toString signal)
      return 125
    | .ok (.exited 255) =>
      report "xargs" (name ++ ": exited with status 255; aborting")
      return 124
    | .ok (.exited 0) => runCommands system shows rest status
    | .ok (.exited n) =>
      if n = 126 ∨ n = 127 then return n else runCommands system shows rest 123

/-- Runs a program with arguments that are read from standard input. -/
def xargs (system : System) (args : List String) : Act Nat := do
  match parseArguments xargsOptions true (args.length + 1) args with
  | .error problem => reportUse "xargs" problem
  | .ok a =>
    for key in ["L", "n", "P", "s"] do
      if let some text := a.value? key then
        let least := if key = "P" then 0 else 1
        match text.toInt? with
        | none =>
          let problem := "invalid number \"" ++ text ++ "\" for -" ++ key ++ " option"
          return ← reportUse "xargs" problem
        | some n =>
          if n < least then
            return ← reportUse "xargs" ("value " ++ text ++ " for -" ++ key ++
              " option should be >= " ++ toString least)
    let replaces := a.has "I" || a.has "i"
    if replaces && a.has "n" && a.last? ["I", "i", "n"] != some "n" then
      report "xargs" ("warning: options --max-args and --replace/-I/-i are mutually exclusive, " ++
        "ignoring previous --max-args value")
    match (a.value? "d").map fun text => (text, delimiterOf? text) with
    | some (text, none) =>
      report "xargs" ("Invalid input delimiter specification " ++ text ++
        ": the delimiter must be either a single character or an escape sequence starting with \\.")
      return 1
    | delimiter =>
      let delimiter? : Option Char :=
        if a.last? ["0", "d"] == some "0" then some '\x00' else delimiter.bind Prod.snd
      match ← contentOf ((a.value? "a").getD "-") with
      | .error e =>
        report "xargs" (
            "Cannot open input file " ++ quoted ((a.value? "a").getD "") ++ ": " ++ e.reason)
        return 1
      | .ok content =>
        let byLine := replaces && a.last? ["I", "i", "L", "l", "n"] != some "n"
        let words : Except String (List (String × Bool)) :=
          match delimiter? with
          | some c => .ok ((delimited c content).map fun item => (item, true))
          | none =>
            if byLine then
              (bareLinesOf content).foldr (fun line acc => do
                let rest ← acc
                let bare := line.dropWhile Text.isGap
                let parts ← quotedWords (bare.length + 1) (protect none bare)
                return parts.map (fun p => (p.1, true)) ++ rest) (.ok [])
            else quotedWords (content.length + 1) content
        match words with
        | .error problem =>
          report "xargs" problem
          return 1
        | .ok words =>
          let words :=
            match a.value? "E" with
            | some mark => words.takeWhile fun w => w.1 != mark
            | none => words
          let initial := if a.operands.isEmpty then ["echo"] else a.operands
          if words.isEmpty then
            if a.has "r" || byLine then return 0
            else runCommands system (a.has "t") [initial] 0
          else runCommands system (a.has "t") (xargsCommands a initial words) 0
where
  /-- A line in which blanks outside of quotes are protected; a quote may be open. -/
  protect : Option Char → List Char → List Char
    | _, [] => []
    | some quote, c :: cs => c :: protect (if c = quote then none else some quote) cs
    | none, '\\' :: c :: cs => '\\' :: c :: protect none cs
    | none, c :: cs =>
      if c = ' ' ∨ c = '\t' then '\\' :: c :: protect none cs
      else c :: protect (if c = '\'' ∨ c = '"' then some c else none) cs

end Pipeline.Shell.Utility
