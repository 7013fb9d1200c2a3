import Pipeline.Shell.Utility.Create
import Pipeline.Shell.Utility.Remove

/-!
# Utilities that copy and move

Files and trees are copied, moved and linked to one path or into a directory. What is there already
is replaced, kept as a backup or left alone, as the options say.
-/

namespace Pipeline.Shell.Utility

/-- The sources of a transfer with the paths that they go to. -/
abbrev Transfers := List (String × String)

/-- Whether a path leads to a directory. -/
def leadsToDirectory (s : State) (path : String) (follow : Bool := true) : Bool :=
  match s.files.locate s.workingDir path follow with
  | .ok (_, .directory) => true
  | _ => false

/-- The path below a directory for the last name of another path. -/
def pathInto (dir path : String) : String :=
  Path.join dir (lastName path)

/-- The transfers that operands ask for; the status if they ask for none. -/
def transfersOf (name : String) (a : Arguments) (single : Option String) (follow : Bool) :
    Act (Except Nat Transfers) := do
  let s ← get
  let refuse (problem : String) : Act (Except Nat Transfers) := do
    return .error (← reportUse name problem)
  let reasonOf (path : String) : String :=
    match s.files.locate s.workingDir path with
    | .ok _ => FileError.notDirectory.reason
    | .error e => e.reason
  let into (dir : String) (paths : List String) : Transfers :=
    paths.map fun path => (path, pathInto dir path)
  match a.operands, a.value? "t" with
  | [], _ => refuse "missing file operand"
  | paths, some dir =>
    if leadsToDirectory s dir then return .ok (into dir paths)
    else
      report name ("target directory " ++ quoted dir ++ ": " ++ reasonOf dir)
      return .error 1
  | [path], none =>
    match single, a.has "T" with
    | some dir, false => return .ok (into dir [path])
    | _, _ => refuse ("missing destination file operand after " ++ quotedArgument path)
  | paths, none =>
    let goal := paths.getLastD ""
    if a.has "T" then
      match paths with
      | [path, goal] => return .ok [(path, goal)]
      | _ => refuse ("extra operand " ++ quotedArgument (paths.getD 2 ""))
    else if leadsToDirectory s goal follow then return .ok (into goal paths.dropLast)
    else
      match paths with
      | [path, goal] => return .ok [(path, goal)]
      | _ =>
        report name ("target " ++ quoted goal ++ ": " ++ reasonOf goal)
        return .error 1

/-- How what is there already is kept when something else comes in its place. -/
inductive Backup where
  | simple
  | numbered
  /-- Numbered if there are numbered ones. -/
  | «existing»
  deriving DecidableEq, Repr

/-- How files are copied or moved. -/
structure TransferStyle where
  name : String
  recursive : Bool := false
  /-- Links are copied as such. -/
  keepsLinks : Bool := false
  /-- What is there already stays. -/
  spares : Bool := false
  asks : Bool := false
  onlyNewer : Bool := false
  tells : Bool := false
  keepsModes : Bool := false
  removesFirst : Bool := false
  /-- A link is made in place of a copy. -/
  links : Bool := false
  backup : Option Backup := none
  suffix : String := "~"

/-- The backup that options ask for. -/
def backupOf (a : Arguments) : Option Backup :=
  if a.has "backup" then
    match (a.value? "backup").getD "" with
    | "none" | "off" => none
    | "numbered" | "t" => some .numbered
    | "simple" | "never" => some .simple
    | _ => some .existing
  else if a.has "b" || a.has "S" then some .existing
  else none

/-- The path under which a backup is kept. -/
def backupPath (s : State) (style : TransferStyle) (kind : Backup) (path : String) : String :=
  let numbered (i : Nat) : String := path ++ ".~" ++ toString i ++ "~"
  let taken (i : Nat) : Bool := (s.files.ownAt? s.workingDir (numbered i)).isSome
  let free := ((List.range 1000).map (· + 1)).find? fun i => !taken i
  match kind with
  | .simple => path ++ style.suffix
  | .numbered => numbered (free.getD 1000)
  | .existing => if taken 1 then numbered (free.getD 1000) else path ++ style.suffix

/-- The tree with what is at one place and below it moved to another. -/
def moveTree (f : Files) (source goal : Place) : Files :=
  let moved (place : Place) : Place :=
    if source.isPrefixOf place then goal ++ place.drop source.length else place
  let cleared := f.dropTree goal
  ⟨cleared.entries.map fun e => (moved e.1, e.2), cleared.modes.map fun m => (moved m.1, m.2),
    cleared.times.map fun t => (moved t.1, t.2)⟩

/-- Keeps what is at a path under the name of a backup. -/
def keepBackup (style : TransferStyle) (path : String) : Act Unit := do
  if let some kind := style.backup then
    let s ← get
    match s.files.locate s.workingDir path false,
      s.files.resolve s.workingDir (backupPath s style kind path) with
    | .ok (place, _), .ok goal => set { s with files := moveTree s.files place goal }
    | _, _ => pure ()

/-- Whether what is at a path may be replaced. -/
def mayReplace (style : TransferStyle) (source goal : String) : Act Bool := do
  let s ← get
  if style.spares then return false
  else if style.onlyNewer && !s.files.isNewer s.workingDir source goal then return false
  else if style.asks then ask style.name ("overwrite " ++ quoted goal)
  else return true

/-- What is said when a directory and another file would take each other's place. -/
def clash? (isDirectory goalIsDirectory : Bool) (source goal : String) : Option String :=
  match isDirectory, goalIsDirectory with
  | true, false =>
    some ("cannot overwrite non-directory " ++ quoted goal ++ " with directory " ++ quoted source)
  | false, true => some ("cannot overwrite directory " ++ quoted goal ++ " with non-directory")
  | _, _ => none

/-- The names in a directory, the last changed last. -/
def namesByAge (f : Files) (place : Place) : List String :=
  f.entries.filterMap fun e => if e.1.dropLast = place then e.1.getLast? else none

/-- Puts the content or the link of a file at a path where nothing stands in the way. -/
def copyEntry (style : TransferStyle) (place : Place) (entry : FileEntry) (source goal : String) :
    Act Bool := do
  let s ← get
  let isNew := (s.files.at? s.workingDir goal).isNone
  let cannot (what : String) (e : FileError) : String :=
    "cannot create " ++ what ++ " " ++ quoted goal ++ ": " ++ e.reason
  let made ←
    match entry with
    | .link target =>
      change style.name (cannot "symbolic link") fun f => do
        let f := match f.removeFile s.workingDir goal with | .ok f => f | .error _ => f
        f.makeLink s.workingDir target goal
    | .file content =>
      if style.links then
        change style.name (cannot "symbolic link") fun f => f.makeLink s.workingDir source goal
      else
        let slashed := goal.toList.getLast? == some '/'
        change style.name (fun e => cannot "regular file" (if slashed then .notDirectory else e))
          fun f => f.write s.workingDir goal content
    | _ => change style.name (cannot "regular file") fun f => f.write s.workingDir goal []
  let mode := s.files.modeOf place
  let mode := if style.keepsModes then mode else mode - (mode &&& s.mask)
  if made && (isNew || style.keepsModes) && !style.links then
    match entry with
    | .file content =>
      if mode ≠ Files.usualMode (.file content) ∨ !isNew ∨ s.mask ≠ 0o022 then setModeOf goal mode
    | _ => pure ()
  return made

/-- Copies what a path leads to; `made` is the place of the copy of the whole tree, which is not
copied itself. -/
def copyAt (style : TransferStyle) (top : String × String) :
    Nat → Option Place → String → String → Act Bool
  | 0, _, _, _ => return false
  | fuel + 1, made, source, goal => do
    let fail (problem : String) : Act Bool := do
      report style.name problem
      return false
    let told : Act Unit :=
      if style.tells then Act.say (quoted source ++ " -> " ++ quoted goal ++ "\n") else pure ()
    let s ← get
    match s.files.locate s.workingDir source (!style.keepsLinks) with
    | .error e => fail ("cannot stat " ++ quoted source ++ ": " ++ e.reason)
    | .ok (place, entry) =>
      let isDirectory := entry == .directory
      let isLink := match entry with | .link _ => true | _ => false
      if isDirectory && !style.recursive then
        return ← fail ("-r not specified; omitting directory " ++ quoted source)
      if made == some place then
        return ← fail ("cannot copy a directory, " ++ quoted top.1 ++ ", into itself, " ++
          quoted top.2)
      match s.files.locate s.workingDir goal (!isLink) with
      | .ok (goalPlace, goalEntry) =>
        if goalPlace == place then
          return ← fail (quoted source ++ " and " ++ quoted goal ++ " are the same file")
        if let some problem := clash? isDirectory (goalEntry == .directory) source goal then
          return ← fail problem
        if !isDirectory then
          if !(← mayReplace style source goal) then return style.spares || style.onlyNewer
          keepBackup style goal
          if style.removesFirst then
            modify fun s => { s with files := s.files.drop goalPlace }
            if style.tells then Act.say ("removed " ++ quoted goal ++ "\n")
      | .error .notDirectory =>
        return ← fail ("cannot stat " ++ quoted goal ++ ": " ++ FileError.notDirectory.reason)
      | .error _ =>
        if (s.files.ownAt? s.workingDir goal).isSome && !isLink then
          return ← fail ("not writing through dangling symlink " ++ quoted goal)
      if !isDirectory then
        told
        copyEntry style place entry source goal
      else
        let isNew := (s.files.at? s.workingDir goal).isNone
        let ok ←
          if isNew then
            change style.name
              (fun e => "cannot create directory " ++ quoted goal ++ ": " ++ e.reason)
              fun f => f.makeDirectory s.workingDir goal
          else pure true
        if !ok then return false
        if isNew then
          told
          let mode := s.files.modeOf place
          if mode ≠ 0o755 then setModeOf goal mode
        let here := (← get).files.resolve s.workingDir goal
        let made := made <|> here.toOption
        let mut allCopied := true
        for name in namesByAge (← get).files place do
          let copied ← copyAt style top fuel made (Path.join source name) (Path.join goal name)
          if !copied then allCopied := false
        return allCopied

/-- The options of `cp` and `mv`. -/
def transferOptions : OptionTable where
  plain := "aAbdfHilLnPpRrsTuvxZ"
  valued := "St"
  long := [("archive", 'a'), ("force", 'f'), ("interactive", 'i'), ("link", 'l'),
    ("dereference", 'L'), ("no-clobber", 'n'), ("no-dereference", 'P'), ("recursive", 'R'),
    ("symbolic-link", 's'), ("suffix", 'S'),
    ("target-directory", 't'), ("no-target-directory", 'T'),
    ("verbose", 'v'), ("one-file-system", 'x')]
  longPlain := ["parents", "remove-destination", "strip-trailing-slashes", "attributes-only"]
  longOptional := ["backup", "preserve", "no-preserve", "update", "reflink", "sparse"]

/-- How options say that files are copied or moved. -/
def transferStyleOf (name : String) (a : Arguments) : TransferStyle :=
  let update := a.value? "update"
  let recursive := a.has "r" || a.has "R" || a.has "a"
  { name := name
    recursive := recursive
    keepsLinks := (recursive || a.has "P" || a.has "d") && !a.has "L" && !a.has "H"
    spares := a.last? ["n", "i", "f"] == some "n" || update == some "none"
    asks := (a.last? (if name = "cp" then ["n", "i"] else ["n", "i", "f"])) == some "i"
    onlyNewer := a.has "u" || update == some "older" || update == some ""
    tells := a.has "v"
    keepsModes := a.has "p" || a.has "a" || a.has "preserve"
    removesFirst := a.has "remove-destination"
    links := a.has "s"
    backup := backupOf a
    suffix := (a.value? "S").getD "~" }

/-- Copies files, and trees if asked to. -/
def cp (args : List String) : Act Nat :=
  withArguments "cp" transferOptions 1 args fun a => do
    if a.has "n" then
      report "cp" ("warning: behavior of -n is non-portable and may change in future; " ++
        "use --update=none instead")
    let style := transferStyleOf "cp" a
    let copyOne (source goal : String) : Act Bool :=
      copyAt style (source, goal) 1000 none source goal
    if a.has "parents" then
      let goal := a.operands.getLastD ""
      let s ← get
      if a.operands.length < 2 || !leadsToDirectory s goal then
        return ← reportUse "cp" "with --parents, the destination must be a directory"
      forOperands a.operands.dropLast fun source => do
        let path := Path.join goal source
        if ← makeAlong "cp" false (directoryName path) then copyOne source path else return false
    else
      match ← transfersOf "cp" a none true with
      | .error status => return status
      | .ok transfers =>
        let s ← get
        let placeOf (path : String) : Option Place :=
          (s.files.resolve s.workingDir path).toOption
        let mut status := 0
        let mut seen : List (Option Place) := []
        for (source, goal) in transfers do
          let place := placeOf source
          if 1 < transfers.length && place.isSome && seen.contains place then
            report "cp" ("warning: source " ++
              (if leadsToDirectory s source then "directory " else "file ") ++ quoted source ++
              " specified more than once")
          else if !(← copyOne source goal) then status := 1
          seen := place :: seen
        return status

/-- Moves what is at a path. -/
def moveOne (style : TransferStyle) (source goal : String) : Act Bool := do
  let fail (problem : String) : Act Bool := do
    report "mv" problem
    return false
  let s ← get
  match s.files.locate s.workingDir source false with
  | .error e => fail ("cannot stat " ++ quoted source ++ ": " ++ e.reason)
  | .ok (place, entry) =>
    let isDirectory := entry == .directory
    if let .ok (goalPlace, goalEntry) := s.files.locate s.workingDir goal false then
      if goalPlace == place then
        return ← fail (quoted source ++ " and " ++ quoted goal ++ " are the same file")
      if let some problem := clash? isDirectory (goalEntry == .directory) source goal then
        return ← fail problem
      if style.spares then return ← fail ("not replacing " ++ quoted goal)
      if !(← mayReplace style source goal) then return style.onlyNewer
      if goalEntry == .directory && !place.isPrefixOf goalPlace &&
          !(s.files.childrenOf goalPlace).isEmpty && style.backup.isNone then
        return ← fail ("cannot overwrite " ++ quoted goal ++ ": " ++ FileError.notEmpty.reason)
      keepBackup style goal
    let s ← get
    let bare := if isDirectory then withoutSlashes goal else goal
    let slashed := !isDirectory && goal.toList.getLast? == some '/'
    match s.files.resolve s.workingDir bare false with
    | .error e =>
      let e : FileError := if slashed then .notDirectory else e
      fail ("cannot move " ++ quoted source ++ " to " ++ quoted goal ++ ": " ++ e.reason)
    | .ok goalPlace =>
      let above := s.files.get? goalPlace.dropLast
      if isDirectory && place.isPrefixOf goalPlace then
        fail ("cannot move " ++ quoted source ++ " to a subdirectory of itself, " ++ quoted goal)
      else if above != some .directory || slashed then
        let e : FileError := if above.isNone && !slashed then .noSuchFile else .notDirectory
        fail ("cannot move " ++ quoted source ++ " to " ++ quoted goal ++ ": " ++ e.reason)
      else
        set { s with files := moveTree s.files place goalPlace }
        if style.tells then
          Act.say ("renamed " ++ quoted source ++ " -> " ++ quoted goal ++ "\n")
        return true

/-- Moves files and trees. -/
def mv (args : List String) : Act Nat :=
  withArguments "mv" transferOptions 1 args fun a => do
    match ← transfersOf "mv" a none true with
    | .error status => return status
    | .ok transfers =>
      let mut status := 0
      for (source, goal) in transfers do
        if !(← moveOne (transferStyleOf "mv" a) source goal) then status := 1
      return status

/-- The options of `ln`. -/
def lnOptions : OptionTable where
  plain := "bdfFiLnPrsTv"
  valued := "St"
  long := [("directory", 'd'), ("force", 'f'), ("interactive", 'i'), ("logical", 'L'),
    ("no-dereference", 'n'), ("physical", 'P'), ("relative", 'r'),
    ("symbolic", 's'), ("suffix", 'S'),
    ("target-directory", 't'), ("no-target-directory", 'T'), ("verbose", 'v')]
  longOptional := ["backup"]

/-- The path of a link's target from the directory that the link lies in. -/
def relativeTarget (s : State) (target link : String) : String :=
  let place (presence : Presence) (path : String) : Option Place :=
    (placeOf s.files s.workingDir presence path).toOption
  match place .nothing target, place .nothing (directoryName link) with
  | some goal, some dir => relativePath dir goal
  | _, _ => target

/-- Makes one link. -/
def linkOne (a : Arguments) (source link : String) : Act Bool := do
  let fail (problem : String) : Act Bool := do
    report "ln" problem
    return false
  let symbolic := a.has "s"
  let s ← get
  let style : TransferStyle :=
    { name := "ln", backup := backupOf a, suffix := (a.value? "S").getD "~" }
  let linked := s.files.locate s.workingDir source (a.has "L")
  match symbolic, linked with
  | false, .error e => fail ("failed to access " ++ quoted source ++ ": " ++ e.reason)
  | false, .ok (_, .directory) =>
    fail (quotedIfNeeded source ++ ": hard link not allowed for directory")
  | _, _ =>
    let there := s.files.locate s.workingDir link false
    if let .ok (linkPlace, linkEntry) := there then
      if a.has "f" || a.has "i" || style.backup.isSome then
        let same := s.files.resolve s.workingDir source false
        if let .ok place := same then
          if place == linkPlace && style.backup.isNone then
            return ← fail (quoted source ++ " and " ++ quoted link ++ " are the same file")
        if a.last? ["f", "i"] == some "i" then
          if !(← ask "ln" ("replace " ++ quoted link)) then return false
        if linkEntry == .directory then
          return ← fail (quotedIfNeeded link ++ ": cannot overwrite directory")
        if style.backup.isSome then keepBackup style link
        else modify fun s => { s with files := s.files.drop linkPlace }
    let dir := (← get).workingDir
    let made ←
      if symbolic then
        let target := if a.has "r" then relativeTarget s source link else source
        change "ln"
          (fun e => "failed to create symbolic link " ++ quoted link ++ ": " ++ e.reason)
          fun f => f.makeLink dir target link
      else
        change "ln" (fun e => "failed to create hard link " ++ quoted link ++
            (if e == .exists then "" else " => " ++ quoted source) ++ ": " ++ e.reason)
          fun f => do
            if (f.ownAt? dir link).isSome then throw .exists
            match linked with
            | .ok (_, .link target) => f.makeLink dir target link
            | .ok (_, .file content) => f.write dir link content
            | _ => throw .notPermitted
    if made then
      if !symbolic then
        if let .ok (place, .file content) := linked then
          if s.files.modeOf place ≠ Files.usualMode (.file content) then
            setModeOf link (s.files.modeOf place)
      if a.has "v" then
        let target := if symbolic && a.has "r" then relativeTarget s source link else source
        Act.say (quoted link ++ (if symbolic then " -> " else " => ") ++ quoted target ++ "\n")
    return made

/-- Makes links. -/
def ln (args : List String) : Act Nat :=
  withArguments "ln" lnOptions 1 args fun a => do
    match ← transfersOf "ln" a (some ".") (!a.has "n") with
    | .error status => return status
    | .ok transfers =>
      let mut status := 0
      for (source, link) in transfers do
        if !(← linkOne a source link) then status := 1
      return status

/-- Makes one link to a file. -/
def link (args : List String) : Act Nat :=
  withArguments "link" {} 1 args fun a => do
    match a.operands with
    | [] => reportUse "link" "missing operand"
    | [one] => reportUse "link" ("missing operand after " ++ quotedArgument one)
    | [source, goal] =>
      let s ← get
      let ok ← change "link"
        (fun e =>
          "cannot create link " ++ quoted goal ++ " to " ++ quoted source ++ ": " ++ e.reason)
        fun f => do
          let content ← f.read s.workingDir source
          if (f.ownAt? s.workingDir goal).isSome then throw .exists
          f.write s.workingDir goal content
      return if ok then 0 else 1
    | _ :: _ :: extra :: _ => reportUse "link" ("extra operand " ++ quotedArgument extra)

/-- The options of `install`. -/
def installOptions : OptionTable where
  plain := "bcCdDpsTv"
  valued := "gmoSt"
  long := [("directory", 'd'), ("mode", 'm'), ("owner", 'o'), ("group", 'g'), ("suffix", 'S'),
    ("target-directory", 't'), ("no-target-directory", 'T'), ("verbose", 'v'),
    ("preserve-timestamps", 'p'), ("strip", 's'), ("compare", 'C')]
  longOptional := ["backup"]

/-- Copies files and sets their permissions, or makes directories. -/
def install (args : List String) : Act Nat :=
  withArguments "install" installOptions 1 args fun a => do
    match changedMode? 0 (a.has "d") ((a.value? "m").getD "755") 0 with
    | none =>
      report "install" ("invalid mode " ++ quotedArgument ((a.value? "m").getD ""))
      return 1
    | some mode =>
      if a.has "d" then
        if a.operands.isEmpty then return ← reportUse "install" "missing file operand"
        forOperands a.operands fun path => do
          let s ← get
          let isNew := (s.files.at? s.workingDir path).isNone
          let missing := (pathsAlong path).filter fun p => (s.files.at? s.workingDir p).isNone
          let made ← makeAlong "install" false path
          if made && a.has "v" then
            for p in missing do Act.say ("install: creating directory " ++ quoted p ++ "\n")
          if made && (isNew || a.has "m") && mode ≠ 0o755 then setModeOf path mode
          return made
      else
        if a.has "D" then
          match a.operands.getLast?, a.value? "t" with
          | _, some dir => let _ ← makeAlong "install" false dir
          | some goal, none =>
            if 1 < a.operands.length then let _ ← makeAlong "install" false (directoryName goal)
          | none, none => pure ()
        match ← transfersOf "install" a none true with
        | .error status => return status
        | .ok transfers =>
          let style : TransferStyle :=
            { name := "install", tells := a.has "v", removesFirst := true, backup := backupOf a }
          let mut status := 0
          for (source, goal) in transfers do
            let s ← get
            if leadsToDirectory s source then
              report "install" ("omitting directory " ++ quoted source)
              status := 1
            else if ← copyAt style (source, goal) 2 none source goal then setModeOf goal mode
            else status := 1
          return status

end Pipeline.Shell.Utility
