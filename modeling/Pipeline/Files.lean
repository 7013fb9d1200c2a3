import Pipeline.Path
import Pipeline.Text.Utf8

/-!
# File trees

The files that a pipeline sees: a flat table of what is where, the places given by their components
from the top. A path is followed component by component from the directory that it starts in, so
every component but the last has to be a directory, and the last one too if a slash comes after it.
A link stands for the path that it names.
-/

namespace Pipeline

/-- Why something cannot be done with a file. -/
inductive FileError where
  | noSuchFile
  | notDirectory
  | isDirectory
  | exists
  | notEmpty
  | nameTooLong
  | tooManyLinks
  | notPermitted
  | invalidName
  | invalidText
  deriving DecidableEq, Repr

namespace FileError

/-- What went wrong in words. -/
def reason : FileError → String
  | noSuchFile => "No such file or directory"
  | notDirectory => "Not a directory"
  | isDirectory => "Is a directory"
  | «exists» => "File exists"
  | notEmpty => "Directory not empty"
  | nameTooLong => "File name too long"
  | tooManyLinks => "Too many levels of symbolic links"
  | notPermitted => "Permission denied"
  | invalidName => "file name contained an unexpected NUL byte"
  | invalidText => "stream did not contain valid UTF-8"

/-- The number of an error that the operating system reports. -/
def number? : FileError → Option Nat
  | noSuchFile => some 2
  | «exists» => some 17
  | notDirectory => some 20
  | isDirectory => some 21
  | nameTooLong => some 36
  | notEmpty => some 39
  | tooManyLinks => some 40
  | notPermitted => some 13
  | invalidName | invalidText => none

/-- The text of an error, with its number if it has one. -/
def message (e : FileError) : String :=
  e.reason ++ e.number?.elim "" fun n => " (os error " ++ toString n ++ ")"

end FileError

/-- A place in a file tree, by its components from the top. -/
abbrev Place := List String

/-- A file that takes whatever is written to it and gives octets of its own. -/
inductive Device where
  | nothing
  | zeros
  | chance
  deriving DecidableEq, Repr

/-- How many octets are read at once from a device that has no end. -/
def Device.readSize : Nat := 2097152

/-- Octets without a pattern that could be seen, from a number on. -/
def Device.scattered : Nat → Nat → List UInt8
  | 0, _ => []
  | count + 1, n =>
    UInt8.ofNat (n / 65536) :: scattered count ((n * 1103515245 + 12345) % 2147483648)

/-- The octets that are read from a device. -/
def Device.content : Device → List UInt8
  | nothing => []
  | zeros => List.replicate readSize 0
  | chance => scattered (readSize / 16) 1

/-- What is at a place. -/
inductive FileEntry where
  | file (content : List UInt8)
  | directory
  /-- Another name: a path from the directory that it lies in. -/
  | link (target : String)
  | device (d : Device)
  deriving DecidableEq, Repr

/-- A file tree. Its top is a directory that no entry stands for. -/
structure Files where
  /-- What is where, the last change last. -/
  entries : List (Place × FileEntry)
  /-- The permissions of places that do not have the usual ones. -/
  modes : List (Place × Nat) := []
  /-- The times of places for which one was set, in seconds since 1970 began. -/
  times : List (Place × Int) := []
  deriving Repr

namespace Files

/-- The tree with nothing but devices and a place for temporary files. -/
def bare : Files :=
  ⟨[(["dev"], .directory), (["dev", "null"], .device .nothing), (["dev", "zero"], .device .zeros),
    (["dev", "random"], .device .chance), (["dev", "urandom"], .device .chance),
    (["tmp"], .directory)], [], []⟩

/-- What is at a place. -/
def get? (f : Files) (place : Place) : Option FileEntry :=
  if place.isEmpty then some .directory else f.entries.lookup place

/-- The tree without what is at a place. -/
def drop (f : Files) (place : Place) : Files :=
  ⟨f.entries.filter fun e => e.1 != place, f.modes.filter fun m => m.1 != place,
    f.times.filter fun t => t.1 != place⟩

/-- The tree with something at a place, which keeps its permissions. -/
def put (f : Files) (place : Place) (entry : FileEntry) : Files :=
  { f.drop place with entries := (f.drop place).entries ++ [(place, entry)], modes := f.modes }

/-- The tree with all its names changed. -/
def mapNames (f : Files) (change : String → String) : Files where
  entries := f.entries.map fun e =>
    (e.1.map change, match e.2 with | .link target => .link (change target) | entry => entry)
  modes := f.modes.map fun m => (m.1.map change, m.2)
  times := f.times.map fun t => (t.1.map change, t.2)

/-- The usual permissions. -/
def usualMode : FileEntry → Nat
  | .file _ => 0o644
  | .directory => 0o755
  | .link _ => 0o777
  | .device _ => 0o666

/-- The permissions of a place. -/
def modeOf (f : Files) (place : Place) : Nat :=
  (f.modes.lookup place).getD ((f.get? place).elim 0 usualMode)

/-- The tree with other permissions of a place. -/
def setMode (f : Files) (place : Place) (mode : Nat) : Files :=
  { f with modes := (place, mode) :: f.modes.filter fun m => m.1 != place }

/-- The time that counts as that of changes for which none was set, in seconds since 1970 began. -/
def presentTime : Int := 1768478400

/-- When a place was changed: its time, and its rank among those of the same time. -/
def changeOf (f : Files) (place : Place) : Int × Nat :=
  ((f.times.lookup place).getD presentTime, f.entries.findIdx fun e => e.1 == place)

/-- Whether one place was changed before another. -/
def isOlderPlace (f : Files) (p q : Place) : Bool :=
  let (a, b) := (f.changeOf p, f.changeOf q)
  a.1 < b.1 || (a.1 == b.1 && a.2 < b.2)

/-- The tree with a time set for a place. -/
def setTime (f : Files) (place : Place) (time : Int) : Files :=
  { f with times := (place, time) :: f.times.filter fun t => t.1 != place }

/-- The names directly below a place, in order. -/
def childrenOf (f : Files) (place : Place) : List String :=
  (f.entries.filterMap fun e =>
    if e.1.dropLast = place then e.1.getLast? else none).mergeSort fun a b => decide (a ≤ b)

/-- Goes on to the next component; what is reached so far has to be a directory. -/
def advance (f : Files) (place : Place) (component : String) : Except FileError Place :=
  match f.get? place with
  | none => .error .noSuchFile
  | some .directory =>
    if component = "" ∨ component = "." then .ok place
    else if component = ".." then .ok place.dropLast
    else if 255 < component.utf8ByteSize then .error .nameTooLong
    else .ok (place ++ [component])
  | some _ => .error .notDirectory

/-- Where components lead: to a place, or to a link after which other components come. -/
inductive Way where
  | done (place : Place)
  | onward (start : Place) (components : List String)

/-- Goes along components up to the first link that is followed; the last component is followed only
if `follow` says so. -/
def along (f : Files) (follow : Bool) (place : Place) : List String → Except FileError Way
  | [] => .ok (.done place)
  | component :: rest => do
    let next ← f.advance place component
    match f.get? next with
    | some (.link target) =>
      if rest.isEmpty && !follow then .ok (.done next)
      else
        .ok (.onward (if Path.isAbsolute target then [] else place)
          (Path.components target ++ rest))
    | _ => along f follow next rest

/-- The place that components lead to, over a number of links at most. -/
def walk (f : Files) (follow : Bool) : Nat → Place → List String → Except FileError Place
  | 0, _, _ => .error .tooManyLinks
  | links + 1, place, components => do
    match ← f.along follow place components with
    | .done place => .ok place
    | .onward start components => walk f follow links start components

/-- How many links a path may lead over. -/
def linkLimit : Nat := 40

/-- The place of a path that starts in `base`; there may be nothing at that place. A link at the end
is followed unless it is asked for itself. -/
def resolve (f : Files) (base : Place) (path : String) (follow : Bool := true) :
    Except FileError Place :=
  if path.toList.contains '\x00' then .error .invalidName
  else if path.isEmpty then .error .noSuchFile
  else if 4095 < path.utf8ByteSize then .error .nameTooLong
  else
    f.walk follow (linkLimit + 1) (if Path.isAbsolute path then [] else base) (Path.components path)

/-- What a path leads to, and where. -/
def locate (f : Files) (base : Place) (path : String) (follow : Bool := true) :
    Except FileError (Place × FileEntry) := do
  let place ← f.resolve base path follow
  match f.get? place with
  | none => .error .noSuchFile
  | some entry => .ok (place, entry)

/-- What a path leads to, if there is anything. -/
def at? (f : Files) (base : Place) (path : String) : Option FileEntry :=
  match f.locate base path with
  | .ok (_, entry) => some entry
  | .error _ => none

/-- What is at a path itself, links not followed. -/
def ownAt? (f : Files) (base : Place) (path : String) : Option FileEntry :=
  match f.locate base path false with
  | .ok (_, entry) => some entry
  | .error _ => none

/-- Whether a path leads to a file with content of its own. -/
def isFile (f : Files) (base : Place) (path : String) : Bool :=
  match f.at? base path with
  | some (.file _) => true
  | _ => false

/-- Whether a path leads to a directory. -/
def isDirectory (f : Files) (base : Place) (path : String) : Bool :=
  f.at? base path == some .directory

/-- Whether two paths lead to the same place. -/
def isSame (f : Files) (base : Place) (a b : String) : Bool :=
  match f.locate base a, f.locate base b with
  | .ok (p, _), .ok (q, _) => p == q
  | _, _ => false

/-- Whether what one path leads to was changed after what another one leads to. -/
def isNewer (f : Files) (base : Place) (a b : String) : Bool :=
  match f.locate base a, f.locate base b with
  | .ok (p, _), .ok (q, _) => f.isOlderPlace q p
  | _, _ => false

/-- The content of a file. -/
def read (f : Files) (base : Place) (path : String) : Except FileError (List UInt8) := do
  match ← f.locate base path with
  | (_, .file content) => .ok content
  | (_, .directory) => .error .isDirectory
  | (_, .device d) => .ok d.content
  | (_, .link _) => .ok []

/-- The content of a file that is a text. -/
def readText (f : Files) (base : Place) (path : String) : Except FileError String := do
  match Text.decodeUtf8? (← f.read base path) with
  | some text => .ok text
  | none => .error .invalidText

/-- The place of a file that may be written: its directory is there. -/
def writable (f : Files) (base : Place) (path : String) :
    Except FileError (Place × Option FileEntry) := do
  let place ← f.resolve base path
  match f.get? place with
  | some .directory => .error .isDirectory
  | some entry => .ok (place, some entry)
  | none =>
    if path.toList.getLast? = some '/' then .error .isDirectory
    else
      match f.get? place.dropLast with
      | some .directory => .ok (place, none)
      | some _ => .error .notDirectory
      | none => .error .noSuchFile

/-- Writes a file anew. -/
def write (f : Files) (base : Place) (path : String) (content : List UInt8) :
    Except FileError Files := do
  match ← f.writable base path with
  | (_, some (.device _)) => .ok f
  | (place, _) => .ok (f.put place (.file content))

/-- Writes to the end of a file. -/
def append (f : Files) (base : Place) (path : String) (content : List UInt8) :
    Except FileError Files := do
  match ← f.writable base path with
  | (_, some (.device _)) => .ok f
  | (place, some (.file before)) => .ok (f.put place (.file (before ++ content)))
  | (place, _) => .ok (f.put place (.file content))

/-- Makes a directory; the one that it lies in is there. -/
def makeDirectory (f : Files) (base : Place) (path : String) : Except FileError Files := do
  let place ← f.resolve base path false
  match f.get? place, f.get? place.dropLast with
  | some _, _ => .error .exists
  | none, some .directory => .ok (f.put place .directory)
  | none, some _ => .error .notDirectory
  | none, none => .error .noSuchFile

/-- Makes the directories along the components of a path that are not there yet. -/
def makeDirectoriesFrom (f : Files) (place : Place) : List String → Except FileError Files
  | [] => .ok f
  | component :: rest => do
    let next ← f.walk true (linkLimit + 1) place [component]
    match f.get? next with
    | some .directory => makeDirectoriesFrom f next rest
    | some _ => .error (if rest.isEmpty then .exists else .notDirectory)
    | none => makeDirectoriesFrom (f.put next .directory) next rest

/-- Makes a directory and those that it lies in. -/
def makeDirectories (f : Files) (base : Place) (path : String) : Except FileError Files :=
  f.makeDirectoriesFrom (if Path.isAbsolute path then [] else base) (Path.components path)

/-- Makes a link at a path. -/
def makeLink (f : Files) (base : Place) (target path : String) : Except FileError Files := do
  let place ← f.resolve base path false
  match f.get? place, f.get? place.dropLast with
  | some _, _ => .error .exists
  | none, some .directory => .ok (f.put place (.link target))
  | none, some _ => .error .notDirectory
  | none, none => .error .noSuchFile

/-- Removes a file, or a link as such. -/
def removeFile (f : Files) (base : Place) (path : String) : Except FileError Files := do
  match ← f.locate base path false with
  | (_, .directory) => .error .isDirectory
  | (place, _) => .ok (f.drop place)

/-- Removes a directory with nothing in it. -/
def removeDirectory (f : Files) (base : Place) (path : String) : Except FileError Files := do
  match ← f.locate base path false with
  | (place, .directory) =>
    if (f.childrenOf place).isEmpty then .ok (f.drop place) else .error .notEmpty
  | _ => .error .notDirectory

/-- The tree without what is at a place and below it. -/
def dropTree (f : Files) (place : Place) : Files :=
  ⟨f.entries.filter fun e => !place.isPrefixOf e.1, f.modes.filter fun m => !place.isPrefixOf m.1,
    f.times.filter fun t => !place.isPrefixOf t.1⟩

/-- Removes whatever is at a path, with all that lies below. -/
def removeTree (f : Files) (base : Place) (path : String) : Except FileError Files := do
  let (place, _) ← f.locate base path false
  .ok (f.dropTree place)

end Files

/-- The place of a directory as a path from the top. -/
def Place.toPath (place : Place) : String :=
  "/" ++ String.intercalate "/" place

end Pipeline
