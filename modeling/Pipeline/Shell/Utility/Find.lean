import Pipeline.Shell.Utility.Find.Plan
import Pipeline.Shell.Utility.Listing
import Pipeline.Shell.Utility.PathName
import Pipeline.Shell.Utility.Status

/-!
# Finding files

Trees are gone through, each directory in the order of its names, and for each file a term says what
is asked of it and what is done with it.
-/

namespace Pipeline.Shell.Utility.Find

/-- A file that was come to. -/
structure Visited where
  path : String
  /-- The operand below which it lies. -/
  operand : String
  depth : Nat
  /-- Where it is itself. -/
  own : Place
  /-- Where it counts to be, as far as links are followed. -/
  place : Place

/-- What is known on the way. -/
structure Progress where
  pruned : Bool := false
  quits : Bool := false
  failed : Bool := false
  /-- Files for which a command is still to be run: its number, the directory if it is run there,
  the command, and the files, the last first. -/
  waiting : List (Nat × Option String × List String × List String) := []

/-- An action on the way. -/
abbrev Finding := StateT Progress Act

/-- Where a place leads, if a link is there that leads somewhere. -/
def beyond (f : Files) (place : Place) : Place :=
  match f.get? place, place.getLast? with
  | some (.link _), some name =>
    match f.walk true (Files.linkLimit + 1) place.dropLast [name] with
    | .ok next => if (f.get? next).isSome then next else place
    | .error _ => place
  | _, _ => place

/-- The letter of a kind of file in a term. -/
def kindLetter : FileEntry → Char
  | .file _ => 'f'
  | .directory => 'd'
  | .link _ => 'l'
  | .device _ => 'c'

/-- The last name of a path with the slashes after it. -/
def writtenName (path : String) : String :=
  let cs := path.toList.reverse
  let slashes := cs.takeWhile (· = '/')
  let name := (cs.drop slashes.length).takeWhile (· ≠ '/')
  String.ofList (name.reverse ++ if name.isEmpty then ['/'] else slashes)

/-- Whether a condition holds of a file. -/
def Condition.holds (c : Condition) (s : State) (v : Visited) : Bool :=
  let f := s.files
  let entry := (f.get? v.place).getD .directory
  let fits (pattern : Pattern) (fold : Bool) (text : String) : Bool :=
    pattern.accepts (if fold then text.toList.map Char.toLower else text.toList)
  match c with
  | .constant holds => holds
  | .name pattern fold => fits pattern fold (lastName v.path)
  | .path pattern fold => fits pattern fold v.path
  | .regex r fold =>
    let text := v.path.toList.toArray
    (Regex.ends text fold r ⟨0, []⟩).any fun spot => spot.pos == text.size
  | .target pattern fold =>
    match entry with
    | .link goal => fits pattern fold goal
    | _ => false
  | .kind letters other =>
    let place := if !other then v.place else if v.own = v.place then beyond f v.own else v.own
    (f.get? place).any fun e => letters.contains (kindLetter e)
  | .size amount unit => amount.holds ((entry.size + unit - 1) / unit)
  | .empty =>
    match entry with
    | .file content => content.isEmpty
    | .directory => (f.childrenOf v.place).isEmpty
    | _ => false
  | .newerThan place => f.isOlderPlace place v.place
  | .newerThanTime time => time < (f.changeOf v.place).1
  | .age amount unit days =>
    let age := Files.presentTime - (f.changeOf v.place).1
    let units := (age.ediv unit).toNat + if days then 0 else 1
    match amount with
    | .more n => (n : Int) * unit < age - if days then unit - 1 else 0
    | .less n => age < (n : Int) * unit
    | .exactly n => units == n
  | .permissions use bits =>
    let mode := f.modeOf v.place
    match use with
    | .exactly => mode == bits
    | .every => mode &&& bits == bits
    | .some => mode &&& bits != 0
  | .links amount => amount.holds (nameCount f v.place)
  | .owner amount => amount.holds 0
  | .serial amount => amount.holds (1000 + f.entries.findIdx fun e => e.1 == v.place)
  | .same place => v.place == place
  | .executable =>
    match entry with
    | .directory => true
    | _ => f.modeOf v.place &&& 0o111 != 0

/-- The text of a field of a format. -/
def fieldText (f : Files) (v : Visited) (letter detail : Char) : String :=
  let entry := (f.get? v.place).getD .directory
  let time := DateTime.ofSeconds (f.changeOf v.place).1
  let mode := f.modeOf v.place
  match letter with
  | 'p' => v.path
  | 'f' => writtenName v.path
  | 'h' => directoryName v.path
  | 'P' => String.ofList ((v.path.toList.drop v.operand.length).dropWhile (· = '/'))
  | 'H' => v.operand
  | 'd' => toString v.depth
  | 's' => toString entry.size
  | 'm' => String.ofList (Nat.toDigits 8 mode)
  | 'M' => entry.letter.toString ++ lettersOfMode mode
  | 'y' => (kindLetter entry).toString
  | 'Y' =>
    let place := beyond f v.own
    match f.get? place with
    | some (.link _) => "N"
    | some e => (kindLetter e).toString
    | none => "N"
  | 'l' => match entry with | .link target => target | _ => ""
  | 'n' => toString (nameCount f v.place)
  | 'u' | 'g' => "root"
  | 'U' | 'G' | 'D' => "0"
  | 'i' => toString (1000 + f.entries.findIdx fun e => e.1 == v.place)
  | 'k' => toString entry.blocks
  | 'b' => toString (entry.blocks * 2)
  | 'F' => "ext4"
  | 'S' => if entry.size = 0 then "1" else toString (entry.blocks * 1024 / entry.size)
  | 'a' | 'c' | 't' => dateText time 60 "%a %b %e %H:%M:%S.0000000000 %Y".toList
  | _ =>
    match detail with
    | '@' => toString time.seconds ++ ".0000000000"
    | '+' => dateText time 60 "%Y-%m-%d+%H:%M:%S.0000000000".toList
    | 'S' | 'T' | 'X' => dateText time 60 ['%', detail] ++ ".0000000000"
    | d => dateText time 60 ['%', d]

/-- The text of a format for a file. -/
def formatText (f : Files) (v : Visited) : List Piece → String
  | [] => ""
  | .stop :: _ => ""
  | .text cs :: pieces => String.ofList cs ++ formatText f v pieces
  | .field c letter detail :: pieces =>
    let text := fieldText f v letter detail
    let shown :=
      if letter = 'd' then c.signed v.depth
      else if letter = 'm' then c.unsigned 'o' (f.modeOf v.place)
      else c.pad (c.precision.elim text fun n => String.ofList (text.toList.take n))
    shown ++ formatText f v pieces

/-- All that is known of a file in a line. -/
def longText (f : Files) (v : Visited) : String :=
  let entry := (f.get? v.place).getD .directory
  let target := match entry with | .link target => " -> " ++ target | _ => ""
  let number := toString (1000 + f.entries.findIdx fun e => e.1 == v.place)
  padded 9 number ++ " " ++ padded 6 (toString entry.blocks) ++ " " ++ entry.letter.toString ++
    lettersOfMode (f.modeOf v.place) ++ " " ++ padded 3 (toString (nameCount f v.place)) ++
    " root     root     " ++ padded 8 (toString entry.size) ++ " " ++
    timeColumn (f.changeOf v.place).1 ++ " " ++ v.path ++ target ++ "\n"

/-- Tells what is wrong, which counts in the end. -/
def complain (text : String) : Finding Unit := do
  report "find" text
  modify fun p => { p with failed := true }

/-- Runs a command, in a directory if one is given; tells whether all went well. -/
def runCommand (system : System) (dir : Option String) (command : List String) (empty : Bool) :
    Act Bool := do
  let s ← get
  let there? : Option Place := dir.bind fun path =>
    (s.files.locate s.workingDir path).toOption.map Prod.fst
  let name := command.headD ""
  let ending ← Act.withDescriptors do
    if empty then
      let stream ← Act.newStream (.remaining [] false)
      modify fun t => t.withDescriptor 0 stream
    if let some place := there? then
      modify fun t => { t with workingDir := place, reached := place.toPath }
    system.run name (command.drop 1)
  modify fun t => { t with workingDir := s.workingDir, reached := s.reached }
  match ending with
  | .ok (.exited status) => return status = 0
  | .ok (.signalled signal) =>
    report "find" (quotedArgument name ++ " terminated by signal " ++ toString signal)
    return false
  | .error e =>
    report "find" (quotedArgument name ++ ": " ++ e.reason)
    return false

/-- The mark in commands that stands for files. -/
def fileMark : String := "\x7b\x7d"

/-- Runs the commands for many files that wait for a directory, or all of them. -/
def runWaiting (system : System) (dir : Option String) : Finding Unit := do
  let p ← get
  let (now, later) := p.waiting.partition fun w => dir.isNone || w.2.1 == dir
  set { p with waiting := later }
  for (_, there, command, files) in now do
    let whole := command.flatMap fun arg => if arg = fileMark then files.reverse else [arg]
    if !(← runCommand system there whole true) then modify fun p => { p with failed := true }

/-- The directory in which a command for a file is run, and what the file is called there. -/
def inDirectory (v : Visited) : String × String :=
  (directoryName v.path, "./" ++ writtenName v.path)

/-- Does something with a file; tells whether that went well. -/
def Action.perform (system : System) (a : Action) (v : Visited) : Finding Bool := do
  let s ← getThe State
  match a with
  | .write what file =>
    let text :=
      match what with
      | .path ending => v.path ++ ending
      | .format pieces => formatText s.files v pieces
      | .long => longText s.files v
    match file with
    | none => Act.say text
    | some name =>
      let _ ← change "find" (fun e => quotedArgument name ++ ": " ++ e.reason) fun f =>
        f.append s.workingDir name (Text.octetsOf text.toList)
    return true
  | .prune =>
    modify fun p => { p with pruned := true }
    return true
  | .quit =>
    modify fun p => { p with quits := true }
    return false
  | .delete =>
    if v.path = "." then return true
    match s.files.get? v.own with
    | some .directory =>
      if !(s.files.childrenOf v.own).isEmpty then
        complain ("cannot delete " ++ quotedArgument v.path ++ ": " ++ FileError.notEmpty.reason)
        return false
    | none =>
      complain ("cannot delete " ++ quotedArgument v.path ++ ": " ++ FileError.noSuchFile.reason)
      return false
    | _ => pure ()
    modifyThe State fun t => { t with files := t.files.drop v.own }
    return true
  | .run command inPlace asks =>
    let (dir, name) := inDirectory v
    let shown := if inPlace then name else v.path
    if asks then
      let first := command.headD ""
      Act.warn ("< " ++ first ++ " ... " ++ v.path ++ " > ? ")
      let (answer, _) ← Act.readLine
      if !(answer.head?.any fun c => c == 'y' || c == 'Y') then return false
    let whole := command.map fun arg => String.intercalate shown (arg.splitOn fileMark)
    runCommand system (if inPlace then some dir else none) whole asks
  | .gather number command inPlace =>
    let (dir, name) := inDirectory v
    let there := if inPlace then some dir else none
    let file := if inPlace then name else v.path
    modify fun p =>
      if p.waiting.any fun w => w.1 == number && w.2.1 == there then
        { p with waiting := p.waiting.map fun w =>
            if w.1 = number ∧ w.2.1 = there then (w.1, w.2.1, w.2.2.1, file :: w.2.2.2) else w }
      else { p with waiting := p.waiting ++ [(number, there, command, [file])] }
    return true

/-- Does what a term says with a file; tells whether the term holds. -/
def Term.apply (system : System) (v : Visited) : Term → Finding Bool
  | .condition c => return c.holds (← getThe State) v
  | .action a => do
    if (← get).quits then return false else a.perform system v
  | .both first second => do
    if ← first.apply system v then second.apply system v else return false
  | .either first second => do
    if ← first.apply system v then return true else second.apply system v
  | .next first second => do
    let _ ← first.apply system v
    second.apply system v
  | .negation t => return !(← t.apply system v)

/-- Goes through what is at a place and below it; `above` are the directories that it lies in. -/
def visit (system : System) (p : Plan) (t : Term) :
    Nat → List (Place × String) → Visited → Finding Unit
  | 0, _, _ => return
  | fuel + 1, above, v => do
    if (← get).quits then return
    let files := (← getThe State).files
    let missing := complain (quotedArgument v.path ++ ": " ++ FileError.noSuchFile.reason)
    let apply : Finding Unit := do
      if p.least ≤ v.depth then
        let _ ← t.apply system v
    match files.get? v.place with
    | none => missing
    | some .directory =>
      if let some (_, path) := above.find? fun a => a.1 == v.place then
        complain ("File system loop detected; " ++ quotedArgument v.path ++
          " is part of the same file system loop as " ++ quotedArgument path ++ ".")
      else
        modify fun g => { g with pruned := false }
        if !p.inward then apply
        let deeper := p.most.all (v.depth < ·) && (p.inward || !(← get).pruned)
        if deeper && !(← get).quits then
          let files := (← getThe State).files
          if (files.get? v.place).isNone then missing
          else
            for name in files.childrenOf v.place do
              let files := (← getThe State).files
              let own := v.place ++ [name]
              let place := if p.follow = .all then beyond files own else own
              visit system p t fuel ((v.place, v.path) :: above)
                { v with
                  path := Path.join v.path name, depth := v.depth + 1, own := own, place := place }
            runWaiting system (some v.path)
        if p.inward && !(← get).quits then apply
    | some _ => apply

/-- Goes through what is at an operand and below it. -/
def visitOperand (system : System) (p : Plan) (t : Term) (operand : String) : Finding Unit := do
  let s ← getThe State
  match s.files.locate s.workingDir operand false with
  | .error e => complain (quotedArgument operand ++ ": " ++ e.reason)
  | .ok (own, _) =>
    let place := if p.follow = .none then own else beyond s.files own
    visit system p t 1000 [] ⟨operand, operand, 0, own, place⟩

end Find

/-- Goes through trees and does what a term says with the files in them. -/
def find (system : System) (args : List String) : Act Nat := do
  match Find.readArguments (← get) args with
  | .error lines =>
    for line in lines do report "find" line
    return 1
  | .ok (operands, p, t) =>
    for warning in p.warnings do report "find" ("warning: " ++ warning)
    for name in p.outputs do
      let dir := (← get).workingDir
      let opened ← change "find" (fun e => quotedArgument name ++ ": " ++ e.reason) fun f =>
        f.write dir name []
      if !opened then return 1
    let go : Find.Finding Unit := do
      for operand in operands do Find.visitOperand system p t operand
      Find.runWaiting system none
    let ((), progress) ← go.run {}
    return if progress.failed then 1 else 0

end Pipeline.Shell.Utility
