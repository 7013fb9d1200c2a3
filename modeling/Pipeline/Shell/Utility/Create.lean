import Pipeline.Shell.Mode
import Pipeline.Shell.Utility.Date
import Pipeline.Shell.Utility.PathName
import Pipeline.Shell.Utility.Size

/-!
# Utilities that make files and directories

New directories and files are made, also with names that nobody has to think of, and files are cut
or filled to a size.
-/

namespace Pipeline.Shell.Utility

/-- The paths of the directories along a path as it is written, the whole path last. -/
def pathsAlong (path : String) : List String :=
  go [] path.toList ++ [path]
where
  /-- The parts up to a slash after which more comes, what was taken so far in reverse. -/
  go (taken : List Char) : List Char → List String
    | [] => []
    | c :: cs =>
      let ends := c ≠ '/' ∧ cs.head? == some '/' ∧ cs.any (· ≠ '/')
      (if ends then [String.ofList (c :: taken).reverse] else []) ++ go (c :: taken) cs

/-- Sets the permissions of what a path leads to. -/
def setModeOf (path : String) (mode : Nat) : Act Unit :=
  modify fun s =>
    match s.files.resolve s.workingDir path with
    | .ok place => { s with files := s.files.setMode place mode }
    | .error _ => s

/-- Makes a directory with those that it lies in; says which if asked to. -/
def makeAlong (name : String) (tell : Bool) (path : String) : Act Bool := do
  let paths := pathsAlong path
  for part in paths do
    let s ← get
    match s.files.at? s.workingDir part with
    | some .directory => pure ()
    | some _ =>
      let e : FileError := if part = path then .exists else .notDirectory
      report name ("cannot create directory " ++ quoted part ++ ": " ++ e.reason)
      return false
    | none =>
      let made ← change name
        (fun e => "cannot create directory " ++ quoted part ++ ": " ++ e.reason)
        fun f => f.makeDirectory s.workingDir (withoutSlashes part)
      if !made then return false
      if tell then Act.say (name ++ ": created directory " ++ quoted part ++ "\n")
  return true

/-- Makes directories. -/
def mkdir (args : List String) : Act Nat :=
  let t : OptionTable :=
    { plain := "pvZ", valued := "m"
      long := [("parents", 'p'), ("verbose", 'v'), ("mode", 'm')] }
  withArguments "mkdir" t 1 args fun a => do
    if a.operands.isEmpty then return ← reportUse "mkdir" "missing operand"
    let mask := (← get).mask
    match (a.value? "m").map fun text => (text, changedMode? mask true text 0o777) with
    | some (text, none) =>
      report "mkdir" ("invalid mode " ++ quotedArgument text)
      return 1
    | wanted =>
      forOperands a.operands fun operand => do
        let s ← get
        let there := (s.files.at? s.workingDir operand).isSome
        let made ←
          if a.has "p" then makeAlong "mkdir" (a.has "v") operand
          else do
            let made ← change "mkdir"
              (fun e => "cannot create directory " ++ quoted operand ++ ": " ++ e.reason)
              fun f => f.makeDirectory s.workingDir (withoutSlashes operand)
            if made && a.has "v" then
              Act.say ("mkdir: created directory " ++ quoted operand ++ "\n")
            pure made
        if made && !there then
          if let some (_, some mode) := wanted then setModeOf operand mode
        return made

/-- The tree with what is at a place changed now, or at a time. -/
def retime (f : Files) (place : Place) (time : Option Int) : Files :=
  match f.get? place with
  | none => f
  | some entry => time.elim (f.put place entry) (f.setTime place)

/-- The time that options ask for, `none` for now, or what is wrong with it. -/
def wantedTime (s : State) (a : Arguments) : Except String (Option Int) :=
  match a.value? "r", a.value? "t", a.value? "d" with
  | some path, _, _ =>
    match s.files.locate s.workingDir path with
    | .error e => .error ("failed to get attributes of " ++ quoted path ++ ": " ++ e.reason)
    | .ok (place, _) => .ok (s.files.changeOf place).1
  | _, some text, _ =>
    match timeOfStamp? (presentOf s) text with
    | some time => .ok (some time)
    | none => .error ("invalid date format " ++ quotedArgument text)
  | _, _, some text =>
    match timeOfDate? (presentOf s) text with
    | some time => .ok (if time = presentOf s then none else some time)
    | none => .error ("invalid date format " ++ quotedArgument text)
  | _, _, _ => .ok none

/-- Makes files that are not there, and counts those that are as changed. -/
def touch (args : List String) : Act Nat :=
  let t : OptionTable :=
    { plain := "acfhm", valued := "drt", longValued := ["time"]
      long := [("no-create", 'c'), ("date", 'd'), ("no-dereference", 'h'), ("reference", 'r')] }
  withArguments "touch" t 1 args fun a => do
    let s ← get
    match wantedTime s a with
    | .error problem =>
      report "touch" problem
      return 1
    | .ok wanted =>
    let time (operand : String) : Act Unit :=
      modify fun s =>
        match s.files.resolve s.workingDir operand (!a.has "h") with
        | .ok place => { s with files := retime s.files place wanted }
        | .error _ => s
    forSomeOperands "touch" "file operand" a.operands fun operand => do
      let s ← get
      match s.files.at? s.workingDir operand with
      | some _ =>
        time operand
        return true
      | none =>
        let bare := withoutSlashes operand
        let here := (s.files.resolve s.workingDir bare).toOption.any fun place =>
          s.files.get? place.dropLast == some .directory
        if a.has "c" then return true
        else if a.has "h" || (bare ≠ operand && here) then
          report "touch" ("setting times of " ++ quoted operand ++ ": " ++
            FileError.noSuchFile.reason)
          return false
        else
          let made ← change "touch" (fun e => "cannot touch " ++ quoted operand ++ ": " ++ e.reason)
            fun f => f.write s.workingDir operand []
          if made && wanted.isSome then time operand
          return made

/-- How a new size is reckoned from the old one. -/
def newSize (sign : Option Char) (old n : Nat) : Nat :=
  match sign with
  | some '+' => old + n
  | some '-' => old - n
  | some '<' => min old n
  | some '>' => max old n
  | some '/' => old / max n 1 * n
  | some '%' => (old + n - 1) / max n 1 * n
  | _ => n

/-- Cuts files to a size, or fills them up with zeros. -/
def truncate (args : List String) : Act Nat :=
  let t : OptionTable :=
    { plain := "co", valued := "rs"
      long := [("no-create", 'c'), ("io-blocks", 'o'), ("reference", 'r'), ("size", 's')] }
  withArguments "truncate" t 1 args fun a => do
    let s ← get
    let text := (a.value? "s").getD ""
    let sign := text.toList.head?.filter ("+-<>/%".toList.contains ·)
    let size := sizeOf (String.ofList (text.toList.drop (if sign.isSome then 1 else 0)))
    let referred := (a.value? "r").map fun path =>
      (path, s.files.read s.workingDir path)
    match a.has "s", size, referred with
    | false, _, none => reportUse "truncate" "you must specify either '--size' or '--reference'"
    | true, .error e, _ =>
      report "truncate" ("Invalid number: " ++ quotedArgument text ++ e.ending)
      return 1
    | _, _, some (path, .error e) =>
      report "truncate" ("cannot stat " ++ quoted path ++ ": " ++ e.reason)
      return 1
    | given, size, referred =>
      let base := referred.bind fun r => r.2.toOption.map List.length
      forSomeOperands "truncate" "file operand" a.operands fun operand => do
        let s ← get
        let old := s.files.read s.workingDir operand
        if a.has "c" && old.toOption.isNone then return true
        let content := old.toOption.getD []
        let start := base.getD content.length
        let n := if given then newSize sign start (size.toOption.getD 0) else start
        let zeros := List.replicate (n - content.length) (0 : UInt8)
        change "truncate"
          (fun e => "cannot open " ++ quoted operand ++ " for writing: " ++ e.reason)
          fun f => f.write s.workingDir operand (content.take n ++ zeros)

/-- The letters of names that nobody has to think of. -/
def nameLetters : List Char :=
  "abcdefghijklmnopqrstuvwxyzABCDEFGHIJKLMNOPQRSTUVWXYZ0123456789".toList

/-- The name of a template, its last stretch of `X` filled with letters for a number; `none` if
there are not three of them. -/
def filledTemplate? (template : String) (n : Nat) : Option String :=
  let cs := template.toList.reverse
  let after := cs.takeWhile (· ≠ 'X')
  let marks := (cs.drop after.length).takeWhile (· = 'X')
  let before := cs.drop (after.length + marks.length)
  if marks.length < 3 then none
  else
    let count := nameLetters.length
    let letters := (List.range marks.length).map fun i =>
      nameLetters.getD ((n + 7 * i + n * i) % count) 'a'
    some (String.ofList (before.reverse ++ letters ++ after.reverse))

/-- Makes a new file or directory and writes its name. -/
def mktemp (args : List String) : Act Nat :=
  let t : OptionTable :=
    { plain := "dquVt", optional := "P", valued := "p", longValued := ["suffix"]
      long := [("directory", 'd'), ("quiet", 'q'), ("dry-run", 'u'), ("tmpdir", 'P')] }
  withArguments "mktemp" t 1 args fun a => do
    match a.operands with
    | _ :: _ :: _ => reportUse "mktemp" "too many templates"
    | operands =>
      let s ← get
      let place := match a.last? ["p", "P"] with
        | some key => some ((a.value? key).getD "")
        | none => none
      let usual := (s.value? "TMPDIR").getD "/tmp"
      let template := operands.headD "tmp.XXXXXXXXXX" ++ (a.value? "suffix").getD ""
      let dir :=
        if operands.isEmpty || a.has "t" || place.isSome then
          some (match place with | some p => if p.isEmpty then usual else p | none => usual)
        else none
      let template := dir.elim template fun d => Path.join d template
      let free (path : String) : Bool := (s.files.ownAt? s.workingDir path).isNone
      match filledTemplate? template 0 with
      | none =>
        report "mktemp" ("too few X's in template " ++ quotedArgument (operands.headD ""))
        return 1
      | some _ =>
        let names := (List.range 1000).filterMap fun i => filledTemplate? template (s.process + i)
        let path := (names.find? free).getD template
        let complaint (e : FileError) : String :=
          "failed to create " ++ (if a.has "d" then "directory" else "file") ++ " via template " ++
            quotedArgument template ++ ": " ++ e.reason
        let made ←
          if a.has "u" then pure true
          else change "mktemp" complaint fun f =>
            if a.has "d" then f.makeDirectory s.workingDir path else f.write s.workingDir path []
        if made then
          if !a.has "u" then setModeOf path (if a.has "d" then 0o700 else 0o600)
          Act.say (path ++ "\n")
          return 0
        else return 1

end Pipeline.Shell.Utility
