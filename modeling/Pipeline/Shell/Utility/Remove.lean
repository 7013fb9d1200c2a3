import Pipeline.Shell.Utility.PathName

/-!
# Utilities that remove

Files, directories with nothing in them and whole trees are removed, with a question before each
step if that is wanted.
-/

namespace Pipeline.Shell.Utility

/-- Asks a question and reads the answer from standard input. -/
def ask (name question : String) : Act Bool := do
  Act.warn (name ++ ": " ++ question ++ "? ")
  let (answer, _) ← Act.readLine
  return answer.head? == some 'y' || answer.head? == some 'Y'

/-- What a kind of file is called. -/
def kindOf : FileEntry → String
  | .file [] => "regular empty file"
  | .file _ => "regular file"
  | .directory => "directory"
  | .link _ => "symbolic link"
  | .device _ => "character special file"

/-- How trees are removed. -/
structure RemoveStyle where
  asks : Bool
  tells : Bool

/-- Removes what is at a place with all that lies below; tells whether all went well. -/
def removeAt (style : RemoveStyle) : Nat → Place → String → Act Bool
  | 0, _, _ => return false
  | fuel + 1, place, shown => do
    let agreed (question : String) : Act Bool :=
      if style.asks then ask "rm" (question ++ " " ++ quoted shown) else return true
    let drop (told : String) : Act Bool := do
      modify fun s => { s with files := s.files.drop place }
      if style.tells then Act.say (told ++ quoted shown ++ "\n")
      return true
    let files := (← get).files
    match files.get? place with
    | none => return true
    | some .directory =>
      let names := files.childrenOf place
      if !names.isEmpty && !(← agreed "descend into directory") then return true
      let mut ok := true
      for name in names do
        if !(← removeAt style fuel (place ++ [name]) (Path.join shown name)) then ok := false
      if !((← get).files.childrenOf place).isEmpty then return ok
      if ← agreed "remove directory" then return (← drop "removed directory ") && ok
      else return ok
    | some entry =>
      if ← agreed ("remove " ++ kindOf entry) then drop "removed " else return true

/-- The options of `rm`. -/
def rmOptions : OptionTable where
  plain := "dfiIrRv"
  optional := "W"
  long := [("dir", 'd'), ("force", 'f'), ("recursive", 'r'), ("verbose", 'v'), ("interactive", 'W')]
  longPlain := ["one-file-system", "no-preserve-root", "preserve-root"]

/-- Removes one operand of `rm`. -/
def rmOperand (a : Arguments) (style : RemoveStyle) (forced : Bool) (operand : String) :
    Act Bool := do
  let recursive := a.has "r" || a.has "R"
  let fail (reason : String) : Act Bool := do
    report "rm" ("cannot remove " ++ quoted operand ++ ": " ++ reason)
    return false
  let s ← get
  let last := (namesIn operand).getLast?
  if (recursive || a.has "d") && (last == some "." || last == some "..") then
    report "rm" ("refusing to remove '.' or '..' directory: skipping " ++ quoted operand)
    return false
  else
    match s.files.locate s.workingDir operand false with
    | .error e =>
      if forced && (e == .noSuchFile || e == .notDirectory) then return true else fail e.reason
    | .ok (place, .directory) =>
      if place.isEmpty && recursive && !a.has "no-preserve-root" then
        report "rm" "it is dangerous to operate recursively on '/'"
        report "rm" "use --no-preserve-root to override this failsafe"
        return false
      else if recursive then removeAt style 1000 place operand
      else if a.has "d" then
        if (s.files.childrenOf place).isEmpty then removeAt style 2 place operand
        else fail FileError.notEmpty.reason
      else fail FileError.isDirectory.reason
    | .ok (place, _) => removeAt style 2 place operand

/-- Removes files, and trees if asked to. -/
def rm (args : List String) : Act Nat :=
  match parseArguments rmOptions false (args.length + 1) args with
  | .error problem => do
    report "rm" problem
    let s ← get
    let misread := args.find? fun arg =>
      arg.toList.head? == some '-' && (s.files.ownAt? s.workingDir arg).isSome
    if let some arg := misread then
      Act.warn ("Try 'rm ./" ++ arg ++ "' to remove the file " ++ quotedArgument arg ++ ".\n")
    pointToHelp "rm"
    return 1
  | .ok a => do
    let manner := a.options.filterMap fun (key, value) =>
      if key = "f" ∨ key = "i" ∨ key = "I" then some key
      else if key ≠ "W" then none
      else if ["never", "no", "none"].contains value then some "n"
      else if value = "once" then some "I"
      else if ["", "always", "yes"].contains value then some "i"
      else some "?"
    if manner.contains "?" then
      report "rm" ("invalid argument " ++ quotedArgument ((a.value? "W").getD "") ++
        " for '--interactive'")
      Act.warn ("Valid arguments are:\n  - 'never', 'no', 'none'\n  - 'once'\n" ++
        "  - 'always', 'yes'\n")
      pointToHelp "rm"
      return 1
    let forced := (manner.filter (· ≠ "n")).getLast? == some "f"
    let style : RemoveStyle := ⟨manner.getLast? == some "i", a.has "v"⟩
    let count := a.operands.length
    let recursive := a.has "r" || a.has "R"
    if count = 0 then
      if forced then return 0 else reportUse "rm" "missing operand"
    else if manner.getLast? == some "I" && (recursive || 3 < count) then
      let question := "remove " ++ toString count ++ " argument" ++
        (if count = 1 then "" else "s") ++
        if recursive then " recursively" else ""
      if ← ask "rm" question then forOperands a.operands (rmOperand a style forced) else return 0
    else forOperands a.operands (rmOperand a style forced)

/-- The directories that a path goes through, from the longest on, the path itself left out. -/
def parentPaths (path : String) : List String :=
  go path.length (String.ofList (path.toList.reverse.dropWhile (· = '/')).reverse)
where
  /-- The shorter paths. -/
  go : Nat → String → List String
    | 0, _ => []
    | fuel + 1, path =>
      let above := (path.toList.reverse.dropWhile (· ≠ '/')).dropWhile (· = '/')
      if above.isEmpty then []
      else
        let above := String.ofList above.reverse
        above :: go fuel above

/-- Removes directories with nothing in them. -/
def rmdir (args : List String) : Act Nat :=
  let t : OptionTable :=
    { plain := "pv", longPlain := ["ignore-fail-on-non-empty"]
      long := [("parents", 'p'), ("verbose", 'v')] }
  withArguments "rmdir" t 1 args fun a =>
    forSomeOperands "rmdir" "operand" a.operands fun operand => do
      let remove (label path : String) : Act Bool := do
        if a.has "v" then Act.say ("rmdir: removing directory, " ++ quoted path ++ "\n")
        let s ← get
        match ← Act.changeFiles fun f => f.removeDirectory s.workingDir path with
        | none => return true
        | some e =>
          if a.has "ignore-fail-on-non-empty" && e == .notEmpty then return true
          report "rmdir" ("failed to remove " ++ label ++ quoted path ++ ": " ++ e.reason)
          return false
      if !(← remove "" operand) then return false
      let mut ok := true
      if a.has "p" then
        for path in parentPaths operand do
          if ok then ok ← remove "directory " path
      return ok

/-- Removes one file. -/
def unlink (args : List String) : Act Nat :=
  withArguments "unlink" {} 1 args fun a => do
    match a.operands with
    | [] => reportUse "unlink" "missing operand"
    | [operand] =>
      let s ← get
      let ok ← change "unlink" (fun e => "cannot unlink " ++ quoted operand ++ ": " ++ e.reason)
        fun f => f.removeFile s.workingDir operand
      return if ok then 0 else 1
    | _ :: extra :: _ => reportUse "unlink" ("extra operand " ++ quotedArgument extra)

end Pipeline.Shell.Utility
