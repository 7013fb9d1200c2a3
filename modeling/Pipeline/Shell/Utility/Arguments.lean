import Pipeline.Shell.State
import Pipeline.Shell.Utility.Quoting

/-!
# Arguments of utilities

How a utility reads its options and operands, goes through the files that they name, and reports
what fails. Options have letters, long names or both, and may stand among the operands.
-/

namespace Pipeline.Shell.Utility

/-- The options that a utility knows: letters without a value, with one, and with one that may be
missing, the long names of letters, and long names without a letter. -/
structure OptionTable where
  plain : String := ""
  valued : String := ""
  optional : String := ""
  long : List (String × Char) := []
  longPlain : List String := []
  longValued : List String := []
  longOptional : List String := []

/-- Whether an option takes a value. -/
inductive ValueUse where
  | without
  | optional
  | required
  deriving DecidableEq, Repr

/-- Whether a letter takes a value, if it is known. -/
def OptionTable.letterUse? (t : OptionTable) (c : Char) : Option ValueUse :=
  if t.plain.toList.contains c then some .without
  else if t.valued.toList.contains c then some .required
  else if t.optional.toList.contains c then some .optional
  else none

/-- The long names with the options that they stand for. -/
def OptionTable.names (t : OptionTable) : List (String × String × ValueUse) :=
  (t.long.filterMap fun (name, c) => (t.letterUse? c).map fun use => (name, c.toString, use)) ++
    (t.longPlain.map fun name => (name, name, .without)) ++
    (t.longValued.map fun name => (name, name, .required)) ++
    t.longOptional.map fun name => (name, name, .optional)

/-- The options among arguments, by letter or else by long name, and the operands. -/
structure Arguments where
  options : List (String × String) := []
  operands : List String := []

/-- Whether an option is given. -/
def Arguments.has (a : Arguments) (key : String) : Bool :=
  a.options.any fun o => o.1 == key

/-- The last value of an option. -/
def Arguments.value? (a : Arguments) (key : String) : Option String :=
  (a.options.reverse.find? fun o => o.1 == key).map Prod.snd

/-- All values of an option in order. -/
def Arguments.values (a : Arguments) (key : String) : List String :=
  (a.options.filter fun o => o.1 == key).map Prod.snd

/-- The one of several options that is given last. -/
def Arguments.last? (a : Arguments) (keys : List String) : Option String :=
  (a.options.reverse.find? fun o => keys.contains o.1).map Prod.fst

/-- The options of one argument with letters, and the arguments after it. -/
def takeLetters (t : OptionTable) :
    List Char → List String → Except String (List (String × String) × List String)
  | [], rest => .ok ([], rest)
  | c :: cs, rest =>
    match t.letterUse? c with
    | none => .error ("invalid option -- '" ++ c.toString ++ "'")
    | some .without => do
      let (more, rest) ← takeLetters t cs rest
      return ((c.toString, "") :: more, rest)
    | some .optional => .ok ([(c.toString, String.ofList cs)], rest)
    | some .required =>
      match cs, rest with
      | [], [] => .error ("option requires an argument -- '" ++ c.toString ++ "'")
      | [], value :: rest => .ok ([(c.toString, value)], rest)
      | cs, rest => .ok ([(c.toString, String.ofList cs)], rest)

/-- The option of a long name, which may be cut where no other one begins like it. -/
def longOption? (t : OptionTable) (name : String) : Except String (String × String × ValueUse) :=
  match t.names.find? fun n => n.1 == name with
  | some found => .ok found
  | none =>
    let candidates := t.names.filter fun n => name.toList.isPrefixOf n.1.toList
    match candidates with
    | [] => .error ("unrecognized option '--" ++ name ++ "'")
    | first :: more =>
      if more.all fun n => n.2.1 == first.2.1 then .ok first
      else
        .error ("option '--" ++ name ++ "' is ambiguous; possibilities:" ++
          String.join (candidates.map fun n => " '--" ++ n.1 ++ "'"))

/-- The option of one argument with a long name, and the arguments after it. -/
def takeLong (t : OptionTable) (text : List Char) (rest : List String) :
    Except String ((String × String) × List String) := do
  let name := text.takeWhile (· ≠ '=')
  let (long, key, use) ← longOption? t (String.ofList name)
  match text.drop name.length, use, rest with
  | [], .required, [] => .error ("option '--" ++ long ++ "' requires an argument")
  | [], .required, value :: rest => .ok ((key, value), rest)
  | [], _, rest => .ok ((key, ""), rest)
  | _ :: _, .without, _ => .error ("option '--" ++ long ++ "' doesn't allow an argument")
  | _ :: value, _, rest => .ok ((key, String.ofList value), rest)

/-- The options and operands of arguments; where `ordered`, options end at the first operand. -/
def parseArguments (t : OptionTable) (ordered : Bool) :
    Nat → List String → Except String Arguments
  | 0, _ => .ok {}
  | _, [] => .ok {}
  | fuel + 1, arg :: rest => do
    let more (options : List (String × String)) (rest : List String) : Except String Arguments := do
      let a ← parseArguments t ordered fuel rest
      return { a with options := options ++ a.options }
    match arg.toList with
    | ['-', '-'] => .ok { operands := rest }
    | '-' :: '-' :: text =>
      let (option, rest) ← takeLong t text rest
      more [option] rest
    | '-' :: c :: cs =>
      let (options, rest) ← takeLetters t (c :: cs) rest
      more options rest
    | _ =>
      if ordered then .ok { operands := arg :: rest }
      else
        let a ← parseArguments t ordered fuel rest
        return { a with operands := arg :: a.operands }

/-- Writes an error of a utility. -/
def report (name text : String) : Act Unit :=
  Act.warn (name ++ ": " ++ text ++ "\n")

/-- Writes where one reads how a utility is used. -/
def pointToHelp (name : String) : Act Unit :=
  Act.warn ("Try '" ++ name ++ " --help' for more information.\n")

/-- Writes an error of a utility about how it is used. -/
def reportUse (name text : String) (status : Nat := 1) : Act Nat := do
  report name text
  pointToHelp name
  return status

/-- Goes on with the arguments, if all options are known. -/
def withArguments (name : String) (t : OptionTable) (badStatus : Nat) (args : List String)
    (action : Arguments → Act Nat) : Act Nat :=
  match parseArguments t false (args.length + 1) args with
  | .ok a => action a
  | .error problem => reportUse name problem badStatus

/-- The lines of a content, each with its end if it has one. -/
def linesOf (content : List Char) : List (List Char) :=
  go [] content
where
  /-- The lines, the one under way collected in reverse. -/
  go (acc : List Char) : List Char → List (List Char)
    | [] => if acc.isEmpty then [] else [acc.reverse]
    | c :: cs => if c = '\n' then (c :: acc).reverse :: go [] cs else go (c :: acc) cs

/-- A line without its end. -/
def withoutEnd (line : List Char) : List Char :=
  if line.getLast? = some '\n' then line.dropLast else line

/-- The lines of a content without their ends. -/
def bareLinesOf (content : List Char) : List (List Char) :=
  (linesOf content).map withoutEnd

/-- A content in which lines end with NUL characters, and line feeds are characters of lines, made
one in which it is the other way round, if `asked`; doing it twice changes nothing. -/
def swapEnds (asked : Bool) (content : List Char) : List Char :=
  if asked then content.map fun c => if c = '\x00' then '\n' else if c = '\n' then '\x00' else c
  else content

/-- A number with blanks in front. -/
def padded (width : Nat) (text : String) : String :=
  String.ofList (List.replicate (width - text.length) ' ') ++ text

/-- Writes octets to standard output. -/
def put (content : List Char) : Act Unit :=
  Act.say (String.ofList content)

/-- The content that lines make, each with an end. -/
def endedLines (lines : List (List Char)) : List Char :=
  lines.flatMap fun line => line ++ ['\n']

/-- Writes lines to standard output. -/
def putLines (lines : List (List Char)) : Act Unit :=
  put (endedLines lines)

/-- The content of an operand: a file, or standard input for a hyphen. -/
def contentOf (operand : String) : Act (Except FileError (List Char)) := do
  let s ← get
  if ["-", "/dev/stdin", "/dev/fd/0"].contains operand then
    if s.inputIsDirectory then return .error .isDirectory else return .ok (← Act.readAll)
  else return (s.files.read s.workingDir operand).map Text.ofOctets

/-- Does something with each content in turn, standard input if there is no operand; the status
tells whether all could be read. -/
def forContents (name : String) (operands : List String) (complaint : String → FileError → String)
    (badStatus : Nat) (action : String → List Char → Act Unit) : Act Nat := do
  let mut status := 0
  for operand in if operands.isEmpty then ["-"] else operands do
    match ← contentOf operand with
    | .ok content => action operand content
    | .error e =>
      report name (complaint operand e)
      status := badStatus
  return status

/-- The usual complaint about a file. -/
def plainComplaint (operand : String) (e : FileError) : String :=
  quotedIfNeeded operand ++ ": " ++ e.reason

/-- Does something with each operand in turn that may fail; the status tells whether none did. -/
def forOperands (operands : List String) (action : String → Act Bool) : Act Nat := do
  let mut status := 0
  for operand in operands do
    if !(← action operand) then status := 1
  return status

/-- Does something with each operand, of which there has to be one. -/
def forSomeOperands (name wanted : String) (operands : List String) (action : String → Act Bool) :
    Act Nat :=
  if operands.isEmpty then reportUse name ("missing " ++ wanted) else forOperands operands action

/-- Changes the files; a failure is reported. -/
def change (name : String) (complaint : FileError → String)
    (f : Files → Except FileError Files) : Act Bool := do
  match ← Act.changeFiles f with
  | none => return true
  | some e =>
    report name (complaint e)
    return false

/-- The other programs, as a utility sees them. -/
structure System where
  /-- Runs a program by its name: how it ends, or why it cannot be run. -/
  run (name : String) (args : List String) : Act (Except FileError Ending)
  /-- The paths at which programs of a name are found. -/
  paths (s : State) (name : String) : List String

/-- What a command of a shell writes, and how it ends; the shell is known by a name. -/
def System.outputOf (system : System) (shell command : String) :
    Act (List Char × Option Ending) := do
  let stream ← Act.newStream (.gathered [] none)
  let ending ← Act.withDescriptors do
    modify fun s => s.withDescriptor 1 stream
    system.run shell ["-c", command]
  return (((← get).outputOf stream).toList, ending.toOption)

/-- How a command of a shell ends that is given something to read. -/
def System.feed (system : System) (shell command : String) (input : List Char) :
    Act (Option Ending) := do
  let stream ← Act.newStream (.remaining input false)
  let ending ← Act.withDescriptors do
    modify fun s => s.withDescriptor 0 stream
    system.run shell ["-c", command]
  return ending.toOption

end Pipeline.Shell.Utility
