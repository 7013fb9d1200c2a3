import Pipeline.Shell.Builtin.Directory
import Pipeline.Shell.Builtin.Input
import Pipeline.Shell.Builtin.Job
import Pipeline.Shell.Builtin.Output
import Pipeline.Shell.Builtin.Settings

/-!
# Builtins

The commands that are part of a shell and run no other commands. Each takes its arguments and gives
its status.
-/

namespace Pipeline.Shell.Builtin

/-- The status that an argument gives, or the last one without an argument. -/
def statusOf (command : String) (args : List String) : Act Nat := do
  match args with
  | [] => return (← get).status
  | arg :: _ => number command arg

/-- Ends the shell; in the action for a condition the status before it counts. -/
def exit (args : List String) : Act Nat := do
  let status ← statusOf "exit" args
  let before := (← get).interrupted
  Act.exitWith (if args.isEmpty then before.getD status else status)

/-- Ends the function or the file under way. -/
def leaveFunction (args : List String) : Act Nat := do
  Act.setStatus (← statusOf "return" args)
  throw .function

/-- Leaves loops, or goes on with the next round of one. -/
def leaveLoop (command : String) (again : Bool) (args : List String) : Act Nat := do
  let levels ← (args.head?.map (number command)).getD (pure 1)
  if levels = 0 then abort command ("Illegal number: " ++ args.headD "")
  let levels := min levels (← get).loops
  if levels = 0 then return 0
  else
    Act.setStatus 0
    throw (.loop again levels)

/-- Writes the time that was used, of which there is none. -/
def times (_ : List String) : Act Nat := do
  Act.say "0m0.000000s 0m0.000000s\n0m0.000000s 0m0.000000s\n"
  return 0

/-- Writes a limit, of which there is none; one that is to be set holds nobody back. -/
def ulimit (args : List String) : Act Nat := do
  let (options, operands) ← takeOptions "ulimit" "HSatfdscmlpnvwr" (args.length + 1) args
  match operands with
  | [] => Act.say (if options.any fun o => o.1 == 'c' then "0\n" else "unlimited\n")
  | [limit] =>
    if !(limit == "unlimited" || limit.toList.all Char.isDigit) then abort "ulimit" "bad number"
  | _ => abort "ulimit" "too many arguments"
  return 0

/-- The builtins by their names. -/
def table : List (String × (List String → Act Nat)) :=
  [(":", fun _ => return 0), ("[", test "["), ("alias", setAliases), ("bg", resume "bg"),
    ("break", leaveLoop "break" false), ("cd", cd), ("chdir", cd),
    ("continue", leaveLoop "continue" true), ("echo", echo), ("exit", exit),
    ("export", exportNames), ("false", fun _ => return 1), ("fg", resume "fg"),
    ("getopts", getopts), ("jobs", jobs), ("kill", kill), ("local", localNames),
    ("printf", printf), ("pwd", pwd), ("read", read), ("readonly", readonlyNames),
    ("return", leaveFunction), ("set", set), ("shift", shift), ("test", test "test"),
    ("times", times), ("trap", trap), ("true", fun _ => return 0), ("ulimit", ulimit),
    ("umask", umask), ("unalias", forgetAliases), ("unset", unset)]

/-- The builtin of a name. -/
def find? (name : String) : Option (List String → Act Nat) :=
  table.lookup name

/-- The builtins that run or look for other commands. -/
def runners : List String :=
  [".", "command", "eval", "exec", "hash", "type", "wait"]

/-- Whether a name is that of a builtin. -/
def isBuiltin (name : String) : Bool :=
  (find? name).isSome || runners.contains name

end Pipeline.Shell.Builtin
