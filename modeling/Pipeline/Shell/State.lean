import Pipeline.Files
import Pipeline.Shell.Syntax
import Pipeline.Text.Octets

/-!
# States of a shell

What a shell knows while it runs, and the actions on it. All texts are octet texts. What belongs to
one process is kept apart from the world that all processes share: files, streams, the time, and the
processes in the background. Descriptors lead to streams: output that is gathered, input that is
left, a file that is written, or a sink.
-/

namespace Pipeline.Shell

/-- Where a descriptor leads. -/
inductive Stream where
  /-- Output so far, the last piece first, and how much more is taken if that is limited. -/
  | gathered (pieces : List String) (room : Option Nat)
  /-- Input that is left to read, from a file or from elsewhere. -/
  | remaining (content : List Char) (fromFile : Bool)
  /-- A directory opened for reading, which has no content to read. -/
  | directory
  | file (place : Place)
  | sink

/-- A variable. -/
structure Variable where
  value : Option String
  exported : Bool := false
  fixed : Bool := false

/-- Where a name stands when all names of a table are shown: a remainder of its letters tells. -/
def tableKey (name : String) : Nat :=
  let sum := (name.toList.map Char.toNat).foldl (· + ·) 0
  ((name.toList.head?.map Char.toNat).getD 0 * 16 + sum) % 39

/-- What belongs to one process of a shell. -/
structure Local where
  descriptors : List (Nat × Nat)
  workingDir : Place
  /-- The path by which the working directory was reached. -/
  reached : String
  bindings : List (String × Variable) := []
  functions : List (String × Command) := []
  aliases : List (String × String) := []
  name : String := "sh"
  /-- The number that its commands know the shell by. -/
  shell : Nat := 4096
  /-- The number of the process, another one in a subshell. -/
  process : Nat := 4096
  positions : List String := []
  status : Nat := 0
  /-- The actions for conditions such as `EXIT`. -/
  traps : List (String × String) := []
  /-- The status before the action for a condition that is under way. -/
  interrupted : Option Nat := none
  /-- The letters of the options that are set. -/
  options : List Char := []
  line : Nat := 1
  /-- How many loops are under way. -/
  loops : Nat := 0
  /-- For each function under way, the variables that it hides. -/
  hidden : List (List (String × Option Variable)) := []
  /-- The builtin on whose behalf commands are read, which messages name. -/
  user : Option String := none
  /-- The status of the last command whose output was put into a word. -/
  substituted : Option Nat := none
  /-- The process that was last put into the background. -/
  background : Option Nat := none
  /-- The jobs in the background and their processes, the last first. -/
  jobs : List (Nat × Nat) := []
  /-- The permissions that new files do not get. -/
  mask : Nat := 0o022
  /-- The programs that were found by name, with their paths. -/
  tracked : List (String × String) := []
  /-- The number of the argument that options are read from next. -/
  optionIndex : Nat := 1
  /-- How much of a bundle of options was read. -/
  lettersTaken : Nat := 0

/-- How a process ended. -/
inductive Ending where
  | exited (status : Nat)
  | signalled (signal : Nat)
  deriving DecidableEq, Repr

/-- A process in the background. -/
structure Process where
  number : Nat
  /-- The time that it has come to, in microseconds. -/
  clock : Nat
  /-- The commands that it has still to run. -/
  pending : List Command
  state : Local
  ended : Option Ending := none
  /-- Whether its end was waited for. -/
  waited : Bool := false

/-- What all processes share. -/
structure World where
  files : Files
  streams : List Stream
  /-- The time that has passed, in microseconds. -/
  clock : Nat := 0
  processes : List Process := []
  /-- The greatest number of a process so far. -/
  lastProcess : Nat := 4096
  /-- Signals that were sent and not yet noticed, by process and number. -/
  signals : List (Nat × Nat) := []

/-- What a shell knows. -/
structure State extends Local, World

/-- Why a shell does not go on with the next command. -/
inductive Stop where
  | exit
  /-- An error that ends the shell, unless it happens in a builtin that may fail. -/
  | failure
  /-- A signal ended the process. -/
  | killed (signal : Nat)
  | loop (again : Bool) (levels : Nat)
  | function
  deriving DecidableEq, Repr

/-- An action of a shell; a stop keeps the state. -/
abbrev Act := ExceptT Stop (StateM State)

namespace State

/-- The value of a variable. -/
def value? (s : State) (name : String) : Option String :=
  (s.bindings.lookup name).bind Variable.value

/-- The state with another variable. -/
def withVariable (s : State) (name : String) (v : Variable) : State :=
  { s with bindings := (name, v) :: s.bindings.filter fun e => e.1 != name }

/-- The state with a descriptor that leads to a stream. -/
def withDescriptor (s : State) (descriptor stream : Nat) : State :=
  { s with
    descriptors := (descriptor, stream) :: s.descriptors.filter fun e => e.1 != descriptor }

/-- The state without a variable. -/
def withoutVariable (s : State) (name : String) : State :=
  { s with bindings := s.bindings.filter fun e => e.1 != name }

/-- The state with a variable as it was, or without it if it was not there. -/
def withVariable? (s : State) (name : String) (v : Option Variable) : State :=
  v.elim (s.withoutVariable name) (s.withVariable name)

/-- The state with a variable as another state has it. -/
def withVariableOf (s other : State) (name : String) : State :=
  s.withVariable? name (other.bindings.lookup name)

/-- The state with a variable exported. -/
def withExported (s : State) (name : String) : State :=
  { s with
    bindings := s.bindings.map fun v =>
      if v.1 = name then (v.1, { v.2 with exported := true }) else v }

/-- The characters that separate fields where nothing else is said. -/
def usualSeparators : String := " \t\n"

/-- Where programs are found where nothing else is said. -/
def usualPath : String :=
  "/usr/local/sbin:/usr/local/bin:/usr/sbin:/usr/bin:/sbin:/bin"

/-- The variables that every shell starts with, besides those that it is given. -/
def ownVariables : List (String × Variable) :=
  [("PATH", ⟨some usualPath, false, false⟩),
   ("IFS", ⟨some usualSeparators, false, false⟩), ("OPTIND", ⟨some "1", false, false⟩),
    ("PS1", ⟨some "# ", false, false⟩), ("PS2", ⟨some "> ", false, false⟩),
    ("PS4", ⟨some "+ ", false, false⟩)]

/-- The process of a shell that is started by this one: only what is exported comes along. -/
def asStarted (s : State) : Local where
  descriptors := s.descriptors
  workingDir := s.workingDir
  reached := s.reached
  shell := s.process
  process := s.process
  traps := s.traps.filter fun t => t.2.isEmpty
  mask := s.mask
  bindings :=
    let given := s.bindings.filter fun v => v.2.exported && v.1 != "IFS"
    let parent : Variable := ⟨some (toString s.shell), false, false⟩
    ("PPID", parent) :: (given.map fun v => (v.1, { v.2 with fixed := false })).filter
      (fun v => v.1 != "PPID") ++ ownVariables.filter fun v => (given.lookup v.1).isNone

/-- The state in which a shell starts that no other shell starts. -/
def initial (files : Files) (workingDir : Place) : State where
  files := files
  streams := [.remaining [] false, .gathered [] none, .gathered [] none]
  descriptors := [(0, 0), (1, 1), (2, 2)]
  workingDir := workingDir
  reached := workingDir.toPath
  bindings :=
    [("PWD", ⟨some workingDir.toPath, true, false⟩),
      ("PATH", ⟨some usualPath, true, false⟩),
      ("HOME", ⟨some "/root", true, false⟩)]

/-- The stream of a descriptor. -/
def streamOf? (s : State) (descriptor : Nat) : Option Stream :=
  (s.descriptors.lookup descriptor).bind (s.streams[·]?)

/-- Whether standard input is a directory, which cannot be read. -/
def inputIsDirectory (s : State) : Bool :=
  match s.streamOf? 0 with
  | some .directory => true
  | _ => false

/-- How much of standard input is left, if it comes from a file. -/
def inputFileSize? (s : State) : Option Nat :=
  match s.streamOf? 0 with
  | some (.remaining content true) => some content.length
  | _ => none

/-- The output gathered in a stream. -/
def outputOf (s : State) (stream : Nat) : String :=
  match s.streams[stream]? with
  | some (.gathered pieces _) => String.join pieces.reverse
  | _ => ""

/-- The separators of fields. -/
def separators (s : State) : List Char :=
  ((s.value? "IFS").getD usualSeparators).toList

/-- What puts positions together in one text. -/
def joint (s : State) : String :=
  String.ofList (s.separators.take 1)

/-- Whether an option is set. -/
def hasOption (s : State) (c : Char) : Bool :=
  s.options.contains c

end State

namespace Act

/-- The status of the last command. -/
def setStatus (status : Nat) : Act Unit :=
  modify fun s => { s with status := status }

/-- A new stream. -/
def newStream (stream : Stream) : Act Nat := do
  let s ← get
  set { s with streams := s.streams ++ [stream] }
  return s.streams.length

/-- The signal for output that nobody reads. -/
def brokenPipe : Nat := 13

/-- How much room each piece of output takes besides what it holds. -/
def pieceRoom : Nat := 14

/-- Writes to a descriptor; tells whether that is possible. -/
def write (descriptor : Nat) (content : String) : Act Bool := do
  let s ← get
  match s.descriptors.lookup descriptor with
  | none => return content.isEmpty
  | some stream =>
    match s.streams[stream]? with
    | some (.gathered pieces room) =>
      let taken := content.length + pieceRoom
      if room.any fun n => n < taken then throw (.killed brokenPipe)
      let left := room.map fun n => n - taken
      set { s with streams := s.streams.set stream (.gathered (content :: pieces) left) }
      return true
    | some (.file place) =>
      let before := match s.files.get? place with | some (.file b) => b | _ => []
      let content := Text.octetsOf content.toList
      set { s with files := s.files.put place (.file (before ++ content)) }
      return true
    | some .sink => return true
    | _ => return content.isEmpty

/-- Writes a text to standard output. -/
def say (text : String) : Act Unit := do
  let _ ← write 1 text

/-- Writes a text to standard error. -/
def warn (text : String) : Act Unit := do
  let _ ← write 2 text

/-- Writes an error of the shell on behalf of a builtin, if there is one. -/
def complainFor (user : Option String) (text : String) : Act Unit := do
  let s ← get
  warn (s.name ++ ": " ++ toString s.line ++ ": " ++ user.elim "" (· ++ ": ") ++ text ++ "\n")

/-- Writes an error of the shell. -/
def complain (text : String) : Act Unit := do
  complainFor (← get).user text

/-- Ends the shell with a status. -/
def exitWith {α : Type} (status : Nat) : Act α := do
  setStatus status
  throw .exit

/-- Ends what is under way with an error. -/
def abort {α : Type} (text : String) : Act α := do
  complain text
  setStatus 2
  throw .failure

/-- What is left of standard input. -/
def readAll : Act (List Char) := do
  let s ← get
  match s.descriptors.lookup 0 with
  | none => return []
  | some stream =>
    match s.streams[stream]? with
    | some (.remaining content fromFile) =>
      set { s with streams := s.streams.set stream (.remaining [] fromFile) }
      return content
    | _ => return []

/-- More than the number of octets that are left of standard input. -/
def inputSize : Act Nat := do
  match (← get).streamOf? 0 with
  | some (.remaining content _) => return content.length + 1
  | _ => return 1

/-- The next line of standard input without its end, and whether it has one. -/
def readLine : Act (List Char × Bool) := do
  let s ← get
  match s.descriptors.lookup 0 with
  | none => return ([], false)
  | some stream =>
    match s.streams[stream]? with
    | some (.remaining content fromFile) =>
      let line := content.takeWhile (· ≠ '\n')
      let rest := content.dropWhile (· ≠ '\n')
      set { s with streams := s.streams.set stream (.remaining (rest.drop 1) fromFile) }
      return (line, !rest.isEmpty)
    | _ => return ([], false)

/-- Assigns to a variable. -/
def assign (name value : String) : Act Unit := do
  let s ← get
  let old := (s.bindings.lookup name).getD ⟨none, false, false⟩
  if old.fixed then abort (name ++ ": is read only")
  else
    set (s.withVariable name
      { old with value := some value, exported := old.exported || s.hasOption 'a' })
    if name = "PATH" then modify fun s => { s with tracked := [] }
    if name = "OPTIND" then
      match value.toNat? with
      | some n => modify fun s => { s with optionIndex := max n 1, lettersTaken := 0 }
      | none => abort ("Illegal number: " ++ value)

/-- Changes the files, or tells what is wrong; what is new gets the permissions that the mask leaves
to it. -/
def changeFiles (change : Files → Except FileError Files) : Act (Option FileError) := do
  let s ← get
  match change s.files with
  | .ok files =>
    let files :=
      if s.mask = 0o022 then files
      else
        (files.entries.filter fun e => (s.files.get? e.1).isNone).foldl (fun f e =>
          let full := match e.2 with | .directory => 0o777 | .link _ => 0o777 | _ => 0o666
          match e.2 with
          | .link _ => f
          | _ => f.setMode e.1 (full - (full &&& s.mask))) files
    set { s with files := files }
    return none
  | .error e => return some e

/-- Carries an action out whose stop ends nothing but itself. -/
def catchStop (action : Act Unit) : Act (Option Stop) := do
  try
    action
    return none
  catch stop => return some stop

/-- Carries an action out with descriptors that are restored afterwards. -/
def withDescriptors {α : Type} (action : Act α) : Act α := do
  let saved := (← get).descriptors
  let restore : Act Unit := modify fun s => { s with descriptors := saved }
  let result ←
    try action
    catch stop => do
      restore
      throw stop
  restore
  return result

/-- The number of a new process. -/
def newProcess : Act Nat := do
  let s ← get
  set { s with lastProcess := s.lastProcess + 1 }
  return s.lastProcess + 1

end Act

end Pipeline.Shell
