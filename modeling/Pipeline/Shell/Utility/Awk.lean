import Pipeline.Shell.Utility.Awk.OfTokens
import Pipeline.Shell.Utility.Awk.Run
import Pipeline.Shell.Utility.Launcher

/-!
# Carrying out programs on records

The command line of `awk`: a program, values for its variables, and the files that its records come
from.
-/

namespace Pipeline.Shell.Utility.Awk

/-- How the utility is used. -/
def usage : List String :=
  ["Usage: mawk [Options] [Program] [file ...]",
    "",
    "Program:",
    "    The -f option value is the name of a file containing program text.",
    "    If no -f option is given, a \"--\" ends option processing; the following",
    "    parameters are the program text.",
    "",
    "Options:",
    "    -f program-file  Program  text is read from file instead of from the",
    "                     command-line.  Multiple -f options are accepted.",
    "    -F value         sets the field separator, FS, to value.",
    "    -v var=value     assigns value to program variable var.",
    "    --               unambiguous end of options.",
    "",
    "    Implementation-specific options are prefixed with \"-W\".  They can be",
    "    abbreviated:",
    "",
    "    -W version       show version information and exit.",
    "    -W compat        pre-POSIX 2001.",
    "    -W dump          show assembler-like listing of program and exit.",
    "    -W help          show this message and exit.",
    "    -W interactive   set unbuffered output, line-buffered input.",
    "    -W exec file     use file as program as well as last option.",
    "    -W posix         stricter POSIX checking.",
    "    -W random=number set initial random seed.",
    "    -W sprintf=number adjust size of sprintf buffer.",
    "    -W usage         show this message and exit."]

/-- What the command line says. -/
structure Invocation where
  separator : Option String := none
  /-- Names and values of variables. -/
  values : List (String × String) := []
  files : List String := []
  operands : List String := []
  /-- Words for options that have no meaning. -/
  vacuous : List String := []

/-- Why the command line is not carried out. -/
inductive Refusal where
  | message (text : String)
  | usage
  | version

/-- A text with its escapes put in. -/
def unescapedText (text : String) : String :=
  String.ofList (unescaped (text.length + 1) text.toList)

/-- The command line with an option that has a value. -/
def Invocation.withOption (i : Invocation) (letter : Char) (value : String) :
    Except Refusal Invocation :=
  match letter with
  | 'F' => .ok { i with separator := some value }
  | 'f' => .ok { i with files := i.files ++ [value] }
  | 'v' =>
    match assignmentOf? value with
    | some v => .ok { i with values := i.values ++ [v] }
    | none => .error (.message ("improper assignment: -v " ++ value))
  | _ =>
    if value = "version" then .error .version
    else if value = "help" || value = "usage" then .error .usage
    else .ok { i with vacuous := i.vacuous ++ [value] }

/-- Reads a command line; `fuel` exceeds the number of arguments. -/
def invocationOf : Nat → Invocation → List String → Except Refusal Invocation
  | 0, i, _ => .ok i
  | _, i, [] => .ok i
  | fuel + 1, i, arg :: rest =>
    match arg.toList with
    | ['-', '-'] => .ok { i with operands := rest }
    | '-' :: c :: cs =>
      if arg = "--version" then .error .version
      else if arg = "--help" || arg = "--usage" then .error .usage
      else if !(['F', 'f', 'v', 'W'].contains c) then .error (.message ("not an option: " ++ arg))
      else
        let value? : Option String := if cs.isEmpty then rest.head? else some (String.ofList cs)
        match value? with
        | none => .error (.message ("option -" ++ c.toString ++ " lacks argument"))
        | some value => do
          invocationOf fuel (← i.withOption c value) (if cs.isEmpty then rest.drop 1 else rest)
    | _ => .ok { i with operands := arg :: rest }

/-- The text of a program that is kept in files, or why one cannot be read. -/
def textOfFiles : List String → Act (Except String (List Char))
  | [] => return .ok []
  | file :: rest => do
    match ← contentOf file with
    | .error e => return .error ("cannot open \"" ++ file ++ "\" (" ++ e.reason ++ ")")
    | .ok content =>
      let content := if content.getLast?.any (· ≠ '\n') then content ++ ['\n'] else content
      return (← textOfFiles rest).map (content ++ ·)

/-- The values that every run starts with. -/
def initialValues : List (String × Value) :=
  [("NR", .number 0), ("FNR", .number 0), ("FS", .text " "),
    ("OFS", .text " "), ("ORS", .text "\n"),
    ("RS", .text "\n"), ("SUBSEP", .text "\x1c"), ("CONVFMT", .text "%.6g"), ("OFMT", .text "%.6g"),
    ("RSTART", .number 0), ("RLENGTH", .number (-1)), ("FILENAME", .unset)]

/-- The table of texts by numbers from zero on. -/
def operandTable (operands : List String) : Table :=
  { named := operands.mapIdx fun i s => (toString i, .ofInput s), isNamed := true }

/-- The table of the variables of the environment. -/
def environmentTable (s : State) : Table :=
  { named := (environmentOf s).map fun (name, value) => (name, .ofInput value), isNamed := true }

/-- Sets what the command line says, and runs the program. -/
def runInvocation (g : Setting) (i : Invocation) (operands : List String) (rules : List Rule) :
    Runner Unit := do
  setTable "ARGV" (operandTable (g.name :: operands))
  setGlobal "ARGC" (.number (Float.ofNat (operands.length + 1)))
  setTable "ENVIRON" (environmentTable (← ofShell get))
  if let some separator := i.separator then setGlobal "FS" (.text (unescapedText separator))
  for (name, value) in i.values do setVariable name (.ofInput value)
  runProgram g rules

/-- What is said of an error in a run. -/
def complaintOf (message : String) (placed : Bool) : Runner String := do
  if !placed then return message
  let number (name : String) : Runner String := do textOf (← global name)
  return "run time error: " ++ message ++ "\n\tFILENAME=\"" ++ (← number "FILENAME") ++ "\" FNR=" ++
    (← number "FNR") ++ " NR=" ++ (← number "NR")

/-- Runs a program; the status tells how it ended. -/
def start (g : Setting) (i : Invocation) (operands : List String)
    (rules : List Rule) : Act Nat := do
  let whole : Runner Unit := do
    try runInvocation g i operands rules
    catch halt =>
      if let .failure message placed := halt then
        let text ← complaintOf message placed
        ofShell (report g.name text)
        modify fun s => { s with status := 2 }
    finishRun g
  let (_, s) ← (whole.run).run { globals := initialValues }
  return s.status

end Awk

/-- Carries a program out on records; `name` is what it is started by. -/
def awk (name : String) (system : System) (args : List String) : Act Nat := do
  let refuse (problem : String) : Act Nat := do
    report name problem
    return 2
  match Awk.invocationOf (args.length + 1) {} args with
  | .error (.message problem) => refuse problem
  | .error .version =>
    Act.say "mawk 1.3.4 20240123\n"
    return 0
  | .error .usage =>
    Act.say (String.join (Awk.usage.map (· ++ "\n")))
    return 0
  | .ok i =>
    for word in i.vacuous do report name ("vacuous option: -W \"" ++ word ++ "\"")
    let (text?, operands) : Option String × List String :=
      if i.files.isEmpty then (i.operands.head?, i.operands.drop 1) else (none, i.operands)
    if i.files.isEmpty && text?.isNone then
      Act.warn (String.join (Awk.usage.map (· ++ "\n")))
      return 0
    let text ←
      match text? with
      | some text => pure (.ok text.toList)
      | none => Awk.textOfFiles i.files
    match text with
    | .error problem => refuse problem
    | .ok text =>
      match Awk.Program.ofText text with
      | .error (problem, line) =>
        for line in problem.lines line do report name line
        return 2
      | .ok program => Awk.start ⟨name, program.functions, system⟩ i operands program.rules

end Pipeline.Shell.Utility
