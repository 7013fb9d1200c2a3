import Pipeline.Shell.Mode
import Pipeline.Shell.Utility.Date
import Pipeline.Shell.Utility.PathName
import Pipeline.Shell.Utility.Remove

/-!
# Utilities that tell about files

What is known of files without their contents: kinds, permissions, sizes, and how much room they
take. There is one user, and nothing is known of when a file was changed but its rank among others.
-/

namespace Pipeline.FileEntry

/-- The number of octets of a file, or what counts as it. -/
def size : FileEntry → Nat
  | .file content => content.length
  | .directory => 4096
  | .link target => target.utf8ByteSize
  | .device _ => 0

/-- How many blocks of 1024 octets a file takes. -/
def blocks : FileEntry → Nat
  | .file content => (content.length + 4095) / 4096 * 4
  | .directory => 4
  | _ => 0

/-- The letter of a kind of file. -/
def letter : FileEntry → Char
  | .file _ => '-'
  | .directory => 'd'
  | .link _ => 'l'
  | .device _ => 'c'

/-- The number of a kind of file, as it stands before permissions. -/
def kindNumber : FileEntry → Nat
  | .file _ => 0o100000
  | .directory => 0o040000
  | .link _ => 0o120000
  | .device _ => 0o020000

end Pipeline.FileEntry

namespace Pipeline.Shell.Utility

/-- How many names lead to what is at a place. -/
def nameCount (f : Files) (place : Place) : Nat :=
  match f.get? place with
  | some .directory =>
    ((f.childrenOf place).filter fun name => f.get? (place ++ [name]) == some .directory).length + 2
  | _ => 1

/-- A number of octets with a letter for its unit, one digit after the point if it is small. -/
def humanSize (n : Nat) : String :=
  if n < 1024 then toString n
  else go 8 1024 ['K', 'M', 'G', 'T', 'P', 'E']
where
  /-- The size in the first unit in which it is below 1024. -/
  go : Nat → Nat → List Char → String
    | 0, unit, _ => toString (n / unit)
    | fuel + 1, unit, letters =>
      let tenths := (n * 10 + unit - 1) / unit
      let whole := (n + unit - 1) / unit
      let letter := (letters.headD 'E').toString
      if tenths < 100 then toString (tenths / 10) ++ "." ++ toString (tenths % 10) ++ letter
      else if whole < 1024 then toString whole ++ letter
      else go fuel (unit * 1024) (letters.drop 1)

/-- A text padded as a directive says. -/
def padDirective (flags : List Char) (width : Nat) (text : String) : String :=
  let fill (c : Char) : String := String.ofList (List.replicate (width - text.length) c)
  if flags.contains '-' then text ++ fill ' '
  else if flags.contains '0' then fill '0' ++ text
  else fill ' ' ++ text

/-- What a directive of `stat` stands for. -/
def statDirective (f : Files) (operand : String) (place : Place) (entry : FileEntry) (c : Char) :
    String :=
  let mode := f.modeOf place
  let octal (n : Nat) : String := String.ofList (Nat.toDigits 8 n)
  match c with
  | 'n' => operand
  | 'N' =>
    match entry with
    | .link target => quoted operand ++ " -> " ++ quoted target
    | _ => quoted operand
  | 's' => toString entry.size
  | 'a' => octal mode
  | 'A' => entry.letter.toString ++ lettersOfMode mode
  | 'F' => kindOf entry
  | 'U' | 'G' => "root"
  | 'u' | 'g' => "0"
  | 'h' => toString (nameCount f place)
  | 'f' => String.ofList (Nat.toDigits 16 (entry.kindNumber + mode))
  | 'o' => "4096"
  | 'b' => toString (entry.blocks * 2)
  | 'B' => "512"
  | 'X' | 'Y' | 'Z' => toString (f.changeOf place).1
  | 'W' => "0"
  | 'x' | 'y' | 'z' =>
    dateText (.ofSeconds (f.changeOf place).1) 40 "%Y-%m-%d %H:%M:%S.%N %z".toList
  | 'w' => "-"
  | 'i' => toString (1000 + f.entries.findIdx fun e => e.1 == place)
  | 'd' | 't' | 'T' | 'r' | 'D' | 'H' | 'L' => "0"
  | 'm' => "/"
  | _ => "?"

/-- The text of a format of `stat`; `fuel` exceeds its length. -/
def statText (directive : Char → String) (escapes : Bool) : Nat → List Char → String
  | 0, _ => ""
  | _, [] => ""
  | fuel + 1, c :: cs =>
    if c = '%' then
      let flags := cs.takeWhile fun d => "-0+ #".toList.contains d
      let digits := (cs.drop flags.length).takeWhile Char.isDigit
      let width := (String.ofList digits).toNat?.getD 0
      match cs.drop (flags.length + digits.length) with
      | [] => "%"
      | '%' :: rest => "%" ++ statText directive escapes fuel rest
      | d :: rest => padDirective flags width (directive d) ++ statText directive escapes fuel rest
    else if c = '\\' && escapes then
      let (octet, rest) := Escape.take cs
      octet.toString ++ statText directive escapes fuel rest
    else c.toString ++ statText directive escapes fuel cs

/-- The usual output of `stat`. -/
def statFormat : String :=
  "  File: %N\n  Size: %-10s\tBlocks: %-10b IO Block: %-6o %F\n" ++
    "Device: 254,0\tInode: %-11i Links: %h\n" ++
    "Access: (%04a/%A)  Uid: (%5u/%8U)   Gid: (%5g/%8G)\n" ++
    "Access: %x\nModify: %y\nChange: %z\n Birth: %w\n"

/-- Tells what is known of files. -/
def stat (args : List String) : Act Nat :=
  let t : OptionTable :=
    { plain := "Lft", valued := "c", longValued := ["printf", "cached"]
      long := [("dereference", 'L'), ("file-system", 'f'), ("terse", 't'), ("format", 'c')] }
  withArguments "stat" t 1 args fun a => do
    let (format, escapes) : String × Bool :=
      match a.last? ["c", "printf"] with
      | some "c" => ((a.value? "c").getD "" ++ "\n", false)
      | some _ => ((a.value? "printf").getD "", true)
      | none => (statFormat, false)
    forSomeOperands "stat" "operand" a.operands fun operand => do
      let s ← get
      match s.files.locate s.workingDir operand (a.has "L") with
      | .ok (place, entry) =>
        let directive := statDirective s.files operand place entry
        Act.say (statText directive escapes (format.length + 1) format.toList)
        return true
      | .error e =>
        report "stat" ("cannot statx " ++ quoted operand ++ ": " ++ e.reason)
        return false

/-- How much room something takes that lies below an operand. -/
structure Usage where
  depth : Nat
  isDirectory : Bool
  room : Nat
  path : String

/-- What is below a place and how deep, what lies deeper first, with the room that each takes. -/
def usageBelow (f : Files) (room : FileEntry → Nat) :
    Nat → Nat → Place → String → List Usage × Nat
  | 0, _, _, _ => ([], 0)
  | fuel + 1, depth, place, shown =>
    match f.get? place with
    | some .directory =>
      let parts := (f.childrenOf place).map fun name =>
        usageBelow f room fuel (depth + 1) (place ++ [name]) (Path.join shown name)
      let total := parts.foldl (fun n p => n + p.2) (room .directory)
      (parts.flatMap Prod.fst ++ [⟨depth, true, total, shown⟩], total)
    | some entry => ([⟨depth, false, room entry, shown⟩], room entry)
    | none => ([], 0)

/-- Tells how much room files take. -/
def du (args : List String) : Act Nat :=
  let t : OptionTable :=
    { plain := "0abchHklLmPsSx", valued := "dBtX", longPlain := ["apparent-size", "si"]
      long := [("all", 'a'), ("bytes", 'b'), ("total", 'c'), ("human-readable", 'h'),
        ("summarize", 's'), ("max-depth", 'd'), ("dereference", 'L'), ("one-file-system", 'x')] }
  withArguments "du" t 1 args fun a => do
    let octets := a.has "b" || a.has "apparent-size"
    let room (entry : FileEntry) : Nat :=
      if !octets then entry.blocks * 1024 else if entry == .directory then 0 else entry.size
    let shown (n : Nat) : String :=
      if a.has "h" then humanSize n
      else if a.has "b" then toString n
      else if a.has "m" then toString ((n + 1048575) / 1048576)
      else toString ((n + 1023) / 1024)
    let limit := if a.has "s" then some 0 else (a.value? "d").bind String.toNat?
    let mut total := 0
    let mut status := 0
    for operand in if a.operands.isEmpty then ["."] else a.operands do
      let s ← get
      match s.files.locate s.workingDir operand (a.has "L") with
      | .error e =>
        report "du" ("cannot access " ++ quoted operand ++ ": " ++ e.reason)
        status := 1
      | .ok (place, _) =>
        let (usages, sum) := usageBelow s.files room 1000 0 place operand
        total := total + sum
        for u in usages do
          if u.depth = 0 || ((u.isDirectory || a.has "a") && limit.all (u.depth ≤ ·)) then
            Act.say (shown u.room ++ "\t" ++ u.path ++ "\n")
    if a.has "c" then Act.say (shown total ++ "\ttotal\n")
    return status

end Pipeline.Shell.Utility
