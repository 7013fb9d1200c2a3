import Pipeline.Shell.Builtin
import Pipeline.Shell.Token
import Pipeline.Shell.Utility

/-!
# What the name of a command stands for

A name is a keyword, an alias, a function, a builtin or a program. Programs are looked for in the
directories of `PATH`: the system's own are utilities, and a file that may be executed is a script.
-/

namespace Pipeline.Shell

/-- Something that can be run in a process of its own. -/
inductive Program where
  /-- Another shell. -/
  | shell
  | utility (run : Utility.System → List String → Act Nat)
  /-- A file with the commands of a script. -/
  | script (content : List Char)

/-- The directories in which the system keeps its programs. -/
def systemDirs : List String :=
  ["/usr/bin", "/bin"]

/-- The program that the system has under a name. -/
def systemProgram? (name : String) : Option Program :=
  if name = "sh" ∨ name = "dash" ∨ name = "bash" then some .shell
  else (Utility.find? name).map .utility

/-- The directory of a path as it is written, and its last name. -/
def splitPath (path : String) : String × String :=
  let name := (path.toList.reverse.takeWhile (· ≠ '/')).reverse
  (String.ofList (path.toList.take (path.length - name.length - 1)), String.ofList name)

/-- The program that a path leads to, or why there is none. -/
def State.programAt (s : State) (path : String) : Except FileError Program :=
  let (dir, name) := splitPath path
  match if systemDirs.contains dir then systemProgram? name else none with
  | some program => .ok program
  | none =>
    match s.files.locate s.workingDir path with
    | .ok (place, .file content) =>
      if s.files.modeOf place &&& 0o111 = 0 then .error .notPermitted
      else .ok (.script (Text.ofOctets content))
    | .ok _ => .error .notPermitted
    | .error e => .error e

/-- The paths that a name may stand for. -/
def State.searchPaths (s : State) (name : String) : List String :=
  if name.toList.contains '/' then [name]
  else
    match s.value? "PATH" with
    | none => []
    | some dirs =>
      (dirs.splitOn ":").map fun dir => if dir.isEmpty then name else dir ++ "/" ++ name

/-- The paths at which programs of a name are found. -/
def State.programPaths (s : State) (name : String) : List String :=
  (s.searchPaths name).filter fun path => (s.programAt path).toOption.isSome

/-- The program of a name with its path, or why there is none. -/
def State.findProgram (s : State) (name : String) : Except FileError (String × Program) :=
  let tried := (s.searchPaths name).map fun path => (path, s.programAt path)
  match tried.findSome? fun (path, found) => found.toOption.map fun program => (path, program) with
  | some found => .ok found
  | none =>
    match tried with
    | [(_, .error e)] => .error e
    | _ =>
      .error
        (if tried.any fun t => match t.2 with | .error e => e == .notPermitted | .ok _ => false
          then .notPermitted else .noSuchFile)

namespace Act

/-- How a name is understood as a command. -/
inductive NameUse where
  | keyword
  | alias (text : String)
  | function
  | builtin (special : Bool)
  | program (path : String) (tracked : Bool)
  deriving DecidableEq, Repr

/-- How a name is understood, if it is. -/
def nameUse? (name : String) : Act (Option NameUse) := do
  let s ← get
  if keywords.contains name then return some .keyword
  else if let some text := s.aliases.lookup name then return some (.alias text)
  else if specialBuiltins.contains name then return some (.builtin true)
  else if (s.functions.lookup name).isSome then return some .function
  else if Builtin.isBuiltin name then return some (.builtin false)
  else if let some path := s.tracked.lookup name then return some (.program path true)
  else if name.toList.contains '/' then
    let there := (s.files.at? s.workingDir name).isSome || (s.programAt name).toOption.isSome
    return if there then some (.program name false) else none
  else
    match s.findProgram name with
    | .ok (path, _) => return some (.program path false)
    | .error _ => return none

/-- What is said of how a name is understood. -/
def NameUse.describe : NameUse → String
  | keyword => "is a shell keyword"
  | .alias text => "is an alias for " ++ text
  | function => "is a shell function"
  | builtin special => if special then "is a special shell builtin" else "is a shell builtin"
  | program path tracked => "is " ++ (if tracked then "a tracked alias for " else "") ++ path

/-- Tells how a name is understood as a command, and whether it is. -/
def sayUse (name : String) : Act Nat := do
  match ← nameUse? name with
  | none =>
    say (name ++ ": not found\n")
    return 127
  | some use =>
    say (name ++ " " ++ use.describe ++ "\n")
    return 0

/-- Writes what runs the command of a name, if anything does. -/
def sayCommand (name : String) : Act Nat := do
  match ← nameUse? name with
  | none => return 127
  | some use =>
    say <|
      match use with
      | .alias text => "alias " ++ name ++ "=" ++ Builtin.quotedValue text ++ "\n"
      | .program path _ => path ++ "\n"
      | _ => name ++ "\n"
    return 0

/-- Remembers where a program was found. -/
def track (name path : String) : Act Unit :=
  modify fun s =>
    if name.toList.contains '/' || (s.tracked.lookup name).isSome then s
    else { s with tracked := s.tracked ++ [(name, path)] }

end Act

namespace Builtin

/-- Tells how names are understood. -/
def type (args : List String) : Act Nat := do
  let mut status := 0
  for name in args do
    let found ← Act.sayUse name
    if found ≠ 0 then status := found
  return status

/-- Where a program stands in a list of all those that were found. -/
def trackedKey (name : String) : Nat :=
  let sum := (name.toList.map Char.toNat).foldl (· + ·) 0
  ((name.toList.head?.map Char.toNat).getD 0 * 16 + sum) % 31

/-- Lists the programs that were found, forgets them, or looks for some. -/
def hash (args : List String) : Act Nat := do
  let (options, args) ← takeOptions "hash" "r" (args.length + 1) args
  let s ← get
  if !options.isEmpty then
    modify fun s => { s with tracked := [] }
    return 0
  else if args.isEmpty then
    for (_, path) in s.tracked.mergeSort fun a b => trackedKey a.1 ≤ trackedKey b.1 do
      Act.say (path ++ "\n")
    return 0
  else
    let mut status := 0
    for name in args do
      if !isBuiltin name then
        match s.findProgram name with
        | .ok (path, _) => Act.track name path
        | .error e =>
          report "hash" (name ++ ": " ++ if e = FileError.noSuchFile then "not found" else e.reason)
          status := 1
    return status

end Builtin

end Pipeline.Shell
