import Pipeline.Shell.Mode
import Pipeline.Shell.Utility.Arguments

/-!
# Utilities for permissions

The permissions of files and trees are set by numbers or changed by clauses.
-/

namespace Pipeline.Shell.Utility

/-- The arguments of `chmod` without those that take permissions away after a hyphen, and these. -/
def splitModes : List String → List String × List String
  | [] => ([], [])
  | arg :: rest =>
    match arg.toList with
    | ['-', '-'] => ([], arg :: rest)
    | '-' :: c :: _ =>
      let (modes, others) := splitModes rest
      if "rwxXstugoa,+=01234567".toList.contains c then (arg :: modes, others)
      else (modes, arg :: others)
    | _ =>
      let (modes, others) := splitModes rest
      (modes, arg :: others)

/-- Permissions as digits and as letters. -/
def modeText (mode : Nat) : String :=
  octalMode mode ++ " (" ++ lettersOfMode mode ++ ")"

/-- How permissions are changed. -/
structure ModeChange where
  /-- The new permissions for a mask. -/
  apply (mask : Nat) (isDirectory : Bool) (mode : Nat) : Nat
  /-- What is taken away after a hyphen does not count as asked for by name. -/
  loose : Bool
  tellsAll : Bool
  tellsChanges : Bool
  quiet : Bool
  recursive : Bool

/-- Changes the permissions of what is at a place, and of what lies below if asked to. -/
def changeModeAt (change : ModeChange) : Nat → Place → String → Act Bool
  | 0, _, _ => return false
  | fuel + 1, place, shown => do
    let s ← get
    let entry := s.files.get? place
    let isDirectory := entry == some .directory
    let isLink := match entry with | some (.link _) => true | _ => false
    if isLink && change.recursive then return true
    let old := s.files.modeOf place
    let new := change.apply s.mask isDirectory old
    set { s with files := s.files.setMode place new }
    if change.tellsAll || (change.tellsChanges && old != new) then
      Act.say ("mode of " ++ quoted shown ++
        (if old = new then " retained as " else " changed from " ++ modeText old ++ " to ") ++
        modeText new ++ "\n")
    let mut ok := true
    let wanted := change.apply 0 isDirectory old
    if change.loose && new - (new &&& wanted) != 0 then
      report "chmod" (quotedIfNeeded shown ++ ": new permissions are " ++ lettersOfMode new ++
        ", not " ++ lettersOfMode wanted)
      ok := false
    if change.recursive && isDirectory then
      for name in s.files.childrenOf place do
        if !(← changeModeAt change fuel (place ++ [name]) (Path.join shown name)) then ok := false
    return ok

/-- The change that the arguments of `chmod` ask for, and the files that it is for. -/
def modeChangeOf (s : State) (a : Arguments) (modes : List String) :
    Except String ((Nat → Bool → Nat → Option Nat) × List String) :=
  match a.value? "reference", modes, a.operands with
  | some path, _, paths =>
    match s.files.locate s.workingDir path with
    | .ok (place, _) => .ok (fun _ _ _ => some (s.files.modeOf place), paths)
    | .error e => .error ("failed to get attributes of " ++ quoted path ++ ": " ++ e.reason)
  | none, [], text :: paths => .ok (fun mask dir mode => changedMode? mask dir text mode, paths)
  | none, modes, paths =>
    let text := String.intercalate "," modes
    .ok (fun mask dir mode => changedMode? mask dir text mode, paths)

/-- Changes permissions. -/
def chmod (args : List String) : Act Nat :=
  let t : OptionTable :=
    { plain := "cfvR", longValued := ["reference"]
      long := [("changes", 'c'), ("silent", 'f'), ("quiet", 'f'), ("verbose", 'v'),
        ("recursive", 'R')]
      longPlain := ["preserve-root", "no-preserve-root"] }
  let (modes, others) := splitModes args
  withArguments "chmod" t 1 others fun a => do
    let s ← get
    let given := !modes.isEmpty || a.has "reference"
    match given, a.operands with
    | false, [] | true, [] =>
      match modes.getLast? with
      | some mode => reportUse "chmod" ("missing operand after " ++ quotedArgument mode)
      | none => reportUse "chmod" "missing operand"
    | false, [mode] => reportUse "chmod" ("missing operand after " ++ quotedArgument mode)
    | _, _ =>
      match modeChangeOf s a modes with
      | .error problem =>
        report "chmod" problem
        return 1
      | .ok (apply, paths) =>
        if (apply 0 false 0).isNone then
          let text := if modes.isEmpty then a.operands.headD "" else String.intercalate "," modes
          return ← reportUse "chmod" ("invalid mode: " ++ quotedArgument text)
        let change : ModeChange :=
          { apply := fun mask dir mode => (apply mask dir mode).getD mode
            loose := !modes.isEmpty, tellsAll := a.last? ["v", "c"] == some "v"
            tellsChanges := a.has "c", quiet := a.has "f", recursive := a.has "R" }
        forOperands paths fun path => do
          match (← get).files.locate s.workingDir path with
          | .ok (place, _) => changeModeAt change 1000 place path
          | .error e =>
            if !change.quiet then
              let dangling := (s.files.ownAt? s.workingDir path).isSome
              report "chmod" ((if dangling then "cannot operate on dangling symlink " ++ quoted path
                else "cannot access " ++ quoted path ++ ": " ++ e.reason))
            if change.tellsAll then
              Act.say ("failed to change mode of " ++ quoted path ++
                " from 0000 (---------) to 0000 (---------)\n")
            return false

/-- The users and groups that the system knows by name. -/
def knownUsers : List String :=
  ["root", "daemon", "bin", "sys", "sync", "games", "man", "lp", "mail", "news", "uucp", "proxy",
    "www-data", "backup", "list", "irc",
    "nobody", "adm", "tty", "disk", "users", "nogroup", "staff"]

/-- Gives files to a user, which changes nothing that can be seen. -/
def giveTo (name kind : String) (args : List String) : Act Nat :=
  let t : OptionTable :=
    { plain := "cfvRhHLP", longValued := ["reference", "from"]
      long := [("changes", 'c'), ("silent", 'f'), ("quiet", 'f'), ("verbose", 'v'),
        ("recursive", 'R'), ("no-dereference", 'h')] }
  withArguments name t 1 args fun a => do
    match a.operands with
    | [] => reportUse name "missing operand"
    | [owner] => reportUse name ("missing operand after " ++ quotedArgument owner)
    | owner :: paths =>
      let users := (owner.splitOn ":").filter (· ≠ "")
      let isKnown (user : String) : Bool := user.toNat?.isSome || knownUsers.contains user
      match users.find? (!isKnown ·) with
      | some user =>
        let kind := if owner.toList.head? == some ':' then "group" else kind
        report name ("invalid " ++ kind ++ ": " ++ quotedArgument (if kind = "group" then user
          else owner))
        return 1
      | none =>
        forOperands paths fun path => do
          let s ← get
          match s.files.locate s.workingDir path with
          | .ok _ => return true
          | .error e =>
            if !a.has "f" then report name ("cannot access " ++ quoted path ++ ": " ++ e.reason)
            return false

end Pipeline.Shell.Utility
