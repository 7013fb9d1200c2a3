import Pipeline.Shell.Format
import Pipeline.Shell.Test
import Pipeline.Shell.Utility.Permission

/-!
# Utilities for the surroundings

What a program can learn of the user and the system that it runs on, and the small programs that
only write or test something.
-/

namespace Pipeline.Shell.Utility

/-- A program that takes no operands and writes a line. -/
def sayLine (name line : String) (args : List String) : Act Nat :=
  withArguments name {} 1 args fun a => do
    match a.operands with
    | [] =>
      Act.say (line ++ "\n")
      return 0
    | extra :: _ => reportUse name ("extra operand " ++ quotedArgument extra)

/-- Tells who the user is. -/
def id (args : List String) : Act Nat :=
  let t : OptionTable :=
    { plain := "agGnruzZ"
      long := [("group", 'g'), ("groups", 'G'), ("name", 'n'), ("real", 'r'), ("user", 'u'),
        ("zero", 'z')] }
  withArguments "id" t 1 args fun a => do
    let whole := !(a.has "u" || a.has "g" || a.has "G")
    let line := if whole then "uid=0(root) gid=0(root) groups=0(root)"
      else if a.has "n" then "root" else "0"
    if whole && a.has "n" then
      report "id" "printing only names or real IDs requires -u, -g, or -G"
      return 1
    forOperands (if a.operands.isEmpty then ["root"] else a.operands) fun user => do
      if user = "root" ∨ user = "0" then
        Act.say (line ++ if a.has "z" then "\x00" else "\n")
        return true
      else
        report "id" (quotedArgument user ++ ": no such user")
        return false

/-- Tells the groups of the user. -/
def groups (args : List String) : Act Nat := do
  match args with
  | [] =>
    Act.say "root\n"
    return 0
  | users =>
    forOperands users fun user => do
      if user = "root" then
        Act.say "root : root\n"
        return true
      else
        report "groups" (quotedArgument user ++ ": no such user")
        return false

/-- Nobody has logged in. -/
def logname (args : List String) : Act Nat :=
  withArguments "logname" {} 1 args fun _ => do
    report "logname" "no login name"
    return 1

/-- Standard input is no terminal. -/
def tty (args : List String) : Act Nat :=
  withArguments "tty" { plain := "s", long := [("silent", 's'), ("quiet", 's')] } 2 args fun a => do
    if !a.has "s" then Act.say "not a tty\n"
    return 1

/-- Tells about the system. -/
def uname (args : List String) : Act Nat :=
  let t : OptionTable :=
    { plain := "asnrvmpio"
      long := [("all", 'a'), ("kernel-name", 's'), ("nodename", 'n'), ("kernel-release", 'r'),
        ("kernel-version", 'v'), ("machine", 'm'), ("processor", 'p'), ("hardware-platform", 'i'),
        ("operating-system", 'o')] }
  withArguments "uname" t 1 args fun a => do
    match a.operands with
    | extra :: _ => reportUse "uname" ("extra operand " ++ quotedArgument extra)
    | [] =>
      let facts := [("s", "Linux"), ("n", "localhost"), ("r", "6.8.0"), ("v", "#1 SMP"),
        ("m", "x86_64"), ("p", "x86_64"), ("i", "x86_64"), ("o", "GNU/Linux")]
      let wanted := facts.filter fun (key, _) => a.has "a" || a.has key
      let wanted := if wanted.isEmpty then facts.take 1 else wanted
      Act.say (String.intercalate " " (wanted.map Prod.snd) ++ "\n")
      return 0

/-- Writes the working directory, by default without links on the way. -/
def pwd (args : List String) : Act Nat :=
  withArguments "pwd"
      { plain := "LP", long := [("logical", 'L'), ("physical", 'P')] } 1 args fun a =>
    do
      if !a.operands.isEmpty then report "pwd" "ignoring non-option arguments"
      let s ← get
      let logical := a.last? ["L", "P"] == some "L"
      Act.say ((if logical then s.reached else s.workingDir.toPath) ++ "\n")
      return 0

/-- Tells where programs are. -/
def which (system : System) (args : List String) : Act Nat := do
  let (options, names) := args.span fun arg => arg.toList.head? == some '-' && arg != "-"
  let all := options.contains "-a"
  if names.isEmpty then return 1
  else
    let s ← get
    forOperands names fun name => do
      let paths := system.paths s name
      for path in if all then paths else paths.take 1 do
        Act.say (path ++ "\n")
      return !paths.isEmpty

/-- How many octets are written at once without an end. -/
def endlessPiece : Nat := 8192

/-- Writes a text again and again, as long as anybody takes it. -/
def writeEndlessly (text : String) : Nat → Act Unit
  | 0 => return
  | fuel + 1 => do
    Act.say text
    writeEndlessly text fuel

/-- Writes its arguments line by line without an end. -/
def yes (args : List String) : Act Nat :=
  withArguments "yes" {} 1 args fun a => do
    let line := (if a.operands.isEmpty then "y" else String.intercalate " " a.operands) ++ "\n"
    let piece := String.join (List.replicate (endlessPiece / line.length + 1) line)
    writeEndlessly piece 4096
    return 0

/-- The text of an argument in which escapes stand for octets, hexadecimal ones too. -/
def unescaped : Nat → List Char → Unescaped
  | 0, _ => ⟨[], false⟩
  | _, [] => ⟨[], false⟩
  | fuel + 1, c :: cs =>
    let before (octet : Char) (rest : List Char) : Unescaped :=
      let after := unescaped fuel rest
      ⟨octet :: after.text, after.ends⟩
    if c ≠ '\\' then before c cs
    else
      match cs with
      | 'c' :: _ => ⟨[], true⟩
      | 'x' :: rest =>
        let digits := (rest.takeWhile fun d => (Text.hexValue? d).isSome).take 2
        if digits.isEmpty then before '\\' cs
        else before (Char.ofNat (Number.digitsValue 16 digits)) (rest.drop digits.length)
      | cs =>
        let (octet, rest) := Escape.takeInArgument cs
        before octet rest

/-- Writes its arguments; escapes are put in only if asked for. -/
def echo (args : List String) : Act Nat := do
  let isOption (arg : String) : Bool :=
    match arg.toList with
    | '-' :: c :: cs => (c :: cs).all fun d => d == 'n' || d == 'e' || d == 'E'
    | _ => false
  let (options, words) := args.span isOption
  let letters := options.flatMap String.toList
  let escapes := (letters.filter fun c => c == 'e' || c == 'E').getLast? == some 'e'
  let newline := if letters.contains 'n' then "" else "\n"
  let text := String.intercalate " " words
  if escapes then
    let shown := unescaped (text.length + 1) text.toList
    put shown.text
    if !shown.ends then Act.say newline
  else Act.say (text ++ newline)
  return 0

/-- What is said of a problem with a format. -/
def formatComplaint : FormatProblem → String
  | .argument text .notNumeric => quotedArgument text ++ ": expected a numeric value"
  | .argument text .notAllUsed => quotedArgument text ++ ": value not completely converted"
  | .argument text .outOfRange => quotedArgument text ++ ": Numerical result out of range"
  | .directive text => text ++ ": invalid conversion specification"
  | .noLetter => "%: invalid conversion specification"

/-- Writes arguments in a format. -/
def printf (args : List String) : Act Nat := do
  match if args.head? = some "--" then args.drop 1 else args with
  | [] => reportUse "printf" "missing operand"
  | format :: rest =>
    let printed := formatAll format.toList (rest.length + 1) rest
    Act.say printed.text
    for complaint in printed.complaints do report "printf" (formatComplaint complaint)
    if !printed.ends && printed.left.length = rest.length then
      if let some extra := rest.head? then
        report "printf" ("warning: ignoring excess arguments, starting with " ++
          quotedArgument extra)
    return if printed.complaints.isEmpty then 0 else 1

/-- Gives status zero if a condition holds and one if it does not. -/
def test (name : String) (args : List String) : Act Nat := do
  let s ← get
  let closed := name ≠ "[" || args.getLast? == some "]"
  if !closed then
    report name "missing ']'"
    return 2
  else
    match Test.evaluate s (if name = "[" then args.dropLast else args) with
    | .ok value => return if value then 0 else 1
    | .error problem =>
      let number := "Illegal number: ".toList
      report name
        (if number.isPrefixOf problem.toList then
          "invalid integer " ++ quotedArgument (String.ofList (problem.toList.drop number.length))
        else problem)
      return 2

end Pipeline.Shell.Utility
