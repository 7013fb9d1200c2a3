import Pipeline.Shell.Builtin.Arguments
import Pipeline.Shell.Format
import Pipeline.Shell.Test

/-!
# Builtins that write and test

Texts are written as they are or in a format, and conditions give a status.
-/

namespace Pipeline.Shell.Builtin

/-- Writes its arguments, escapes put in. -/
def echo (args : List String) : Act Nat := do
  if ← Act.write 1 (echoText args) then return 0
  else
    report "echo" "echo: I/O error"
    return 1

/-- Writes arguments in a format. -/
def printf (args : List String) : Act Nat := do
  let (_, args) ← takeOptions "printf" "" 1 args
  match args with
  | [] =>
    report "printf" "usage: printf format [arg ...]"
    return 2
  | format :: rest =>
    let printed := formatAll format.toList (rest.length + 1) rest
    for complaint in printed.complaints do report "printf" complaint.message
    let written ← Act.write 1 printed.text
    return if printed.malformed then 2 else if written && printed.complaints.isEmpty then 0 else 1

/-- Gives status zero if a condition holds and one if it does not. -/
def test (name : String) (args : List String) : Act Nat := do
  let s ← get
  let verdict (words : List String) : Act Nat := do
    match Test.evaluate s words with
    | .ok value => return if value then 0 else 1
    | .error e =>
      report name e
      return 2
  if name = "[" then
    if args.getLast? = some "]" then verdict args.dropLast
    else
      report name "missing ]"
      return 2
  else verdict args

end Pipeline.Shell.Builtin
