import Pipeline.Shell.Utility.Arguments

/-!
# Utilities for names of files

Paths are cut into names, followed to where they lead, or shown from another directory.
-/

namespace Pipeline.Shell.Utility

/-- The components of a path that are not empty. -/
def namesIn (path : String) : List String :=
  (Path.components path).filter (· ≠ "")

/-- The last name of a path; that of the top is a slash. -/
def lastName (path : String) : String :=
  (namesIn path).getLastD (if path.isEmpty then "" else "/")

/-- A path without slashes at its end, unless it is the top. -/
def withoutSlashes (path : String) : String :=
  let bare := (path.toList.reverse.dropWhile (· = '/')).reverse
  if bare.isEmpty && !path.isEmpty then "/" else String.ofList bare

/-- The path of the directory that a path lies in, as far as it is written. -/
def directoryName (path : String) : String :=
  let bare := (path.toList.reverse.dropWhile (· = '/')).reverse
  let above := (bare.reverse.dropWhile (· ≠ '/')).reverse
  if above.isEmpty then (if bare.isEmpty && !path.isEmpty then "/" else ".")
  else withoutSlashes (String.ofList above)

/-- A name without an ending; it is never only the ending. -/
def withoutEnding (name ending : String) : String :=
  let cs := name.toList
  if name ≠ ending ∧ ending.toList.isSuffixOf cs ∧ name ≠ "/" then
    String.ofList (cs.take (cs.length - ending.length))
  else name

/-- Writes the last names of paths. -/
def basename (args : List String) : Act Nat :=
  let t : OptionTable :=
    { plain := "az", valued := "s", long := [("multiple", 'a'), ("suffix", 's'), ("zero", 'z')] }
  match parseArguments t true (args.length + 1) args with
  | .error problem => reportUse "basename" problem
  | .ok a => do
    let ending := if a.has "z" then "\x00" else "\n"
    let several := a.has "a" || a.has "s"
    match several, a.operands with
    | _, [] => reportUse "basename" "missing operand"
    | false, _ :: _ :: extra :: _ =>
      reportUse "basename" ("extra operand " ++ quotedArgument extra)
    | false, [path, suffix] =>
      Act.say (withoutEnding (lastName path) suffix ++ ending)
      return 0
    | _, paths =>
      let suffix := (a.value? "s").getD ""
      Act.say (String.join (paths.map fun p => withoutEnding (lastName p) suffix ++ ending))
      return 0

/-- Writes paths without their last names. -/
def dirname (args : List String) : Act Nat :=
  withArguments "dirname" { plain := "z", long := [("zero", 'z')] } 1 args fun a => do
    if a.operands.isEmpty then reportUse "dirname" "missing operand"
    else
      let ending := if a.has "z" then "\x00" else "\n"
      Act.say (String.join (a.operands.map fun p => directoryName p ++ ending))
      return 0

/-- How much of a path has to be there. -/
inductive Presence where
  | whole
  | directory
  | nothing
  deriving DecidableEq, Repr

/-- Where components lead, as far as anything is there. -/
def followLeniently (f : Files) (place : Place) (components : List String) : Place :=
  components.foldl (fun place component =>
    match f.walk true (Files.linkLimit + 1) place [component] with
    | .ok next => next
    | .error _ =>
      if component = "" ∨ component = "." then place
      else if component = ".." then place.dropLast
      else place ++ [component]) place

/-- The place that a path leads to. -/
def placeOf (f : Files) (base : Place) (presence : Presence) (path : String) :
    Except FileError Place := do
  if path.isEmpty then throw .noSuchFile
  match presence with
  | .nothing =>
    return followLeniently f (if Path.isAbsolute path then [] else base) (Path.components path)
  | .whole => return (← f.locate base path).1
  | .directory =>
    let place ← f.resolve base (withoutSlashes path)
    match f.get? place, f.get? place.dropLast with
    | some entry, _ =>
      if path.toList.getLast? = some '/' ∧ entry ≠ .directory then throw .notDirectory
      else return place
    | none, some .directory => return place
    | none, some _ => throw .notDirectory
    | none, none => throw .noSuchFile

/-- The path that leads from one place to another. -/
def relativePath (source target : Place) : String :=
  let common := ((source.zip target).takeWhile fun (a, b) => a == b).length
  let names := List.replicate (source.length - common) ".." ++ target.drop common
  if names.isEmpty then "." else String.intercalate "/" names

/-- Writes where paths lead. -/
def realpath (args : List String) : Act Nat :=
  withArguments "realpath"
    { plain := "emLPqsz", longValued := ["relative-to", "relative-base"]
      long := [("canonicalize-existing", 'e'), ("canonicalize-missing", 'm'), ("logical", 'L'),
        ("physical", 'P'), ("quiet", 'q'), ("strip", 's'), ("no-symlinks", 's'), ("zero", 'z')] }
    1 args fun a => do
      let presence : Presence :=
        match a.last? ["e", "m"] with
        | some "e" => .whole
        | some _ => .nothing
        | none => .directory
      let ending := if a.has "z" then "\x00" else "\n"
      let s ← get
      let start? (key : String) : Option Place :=
        (a.value? key).bind fun path => (placeOf s.files s.workingDir presence path).toOption
      let base? := start? "relative-base"
      forSomeOperands "realpath" "operand" a.operands fun operand => do
        match placeOf s.files s.workingDir presence operand with
        | .ok place =>
          let source := start? "relative-to" <|> base?
          let below := base?.all fun base => base.isPrefixOf place
          Act.say ((match source, below with
            | some source, true => relativePath source place
            | _, _ => place.toPath) ++ ending)
          return true
        | .error e =>
          if !a.has "q" then report "realpath" (plainComplaint operand e)
          return false

/-- Writes the paths that links name, or where they lead in the end. -/
def readlink (args : List String) : Act Nat :=
  withArguments "readlink"
    { plain := "femnqsvz"
      long := [("canonicalize", 'f'), ("canonicalize-existing", 'e'), ("canonicalize-missing", 'm'),
        ("no-newline", 'n'), ("quiet", 'q'), ("silent", 's'), ("verbose", 'v'), ("zero", 'z')] }
    1 args fun a => do
      let several := 1 < a.operands.length
      if several && a.has "n" then
        report "readlink" "ignoring --no-newline with multiple arguments"
      let ending :=
        if a.has "n" && !several then "" else if a.has "z" then "\x00" else "\n"
      let s ← get
      forSomeOperands "readlink" "operand" a.operands fun operand => do
        let found : Except String String :=
          let presence : Option Presence :=
            (a.last? ["f", "e", "m"]).map fun key =>
              if key = "f" then .directory else if key = "e" then .whole else .nothing
          match presence with
          | some presence =>
            match placeOf s.files s.workingDir presence operand with
            | .ok place => .ok place.toPath
            | .error e => .error e.reason
          | none =>
            match s.files.locate s.workingDir operand false with
            | .ok (_, .link target) => .ok target
            | .ok _ => .error "Invalid argument"
            | .error e => .error e.reason
        match found with
        | .ok text =>
          Act.say (text ++ ending)
          return true
        | .error reason =>
          if a.last? ["v", "q", "s"] = some "v" then
            report "readlink" (quotedIfNeeded operand ++ ": " ++ reason)
          return false

end Pipeline.Shell.Utility
