/-!
# Permissions

Permissions of files as numbers, in octal digits and as letters, and the clauses that change them.
-/

namespace Pipeline.Shell

/-- The octal digits of permissions, four of them. -/
def octalMode (mode : Nat) : String :=
  let text := String.ofList (Nat.toDigits 8 mode)
  String.ofList (List.replicate (4 - text.length) '0') ++ text

/-- Permissions as clauses, one for each kind of user. -/
def clausesOfMode (mode : Nat) : String :=
  let part (name : String) (shift : Nat) : String :=
    let bits := mode / Nat.pow 2 shift % 8
    name ++ "=" ++ (if bits / 4 % 2 = 1 then "r" else "") ++
      (if bits / 2 % 2 = 1 then "w" else "") ++ (if bits % 2 = 1 then "x" else "")
  part "u" 6 ++ "," ++ part "g" 3 ++ "," ++ part "o" 0

/-- Permissions as nine letters. -/
def lettersOfMode (mode : Nat) : String :=
  let has (bit : Nat) : Bool := mode &&& bit != 0
  let part (shift special : Nat) (letter : Char) : List Char :=
    [if has (0o4 <<< shift) then 'r' else '-', if has (0o2 <<< shift) then 'w' else '-',
      match has (0o1 <<< shift), has special with
      | true, true => letter
      | false, true => letter.toUpper
      | true, false => 'x'
      | false, false => '-']
  String.ofList (part 6 0o4000 's' ++ part 3 0o2000 's' ++ part 0 0o1000 't')

/-- The bits that a letter for users stands for, in all three digits of permissions. -/
def userBits (c : Char) : Nat :=
  match c with
  | 'u' => 0o4700
  | 'g' => 0o2070
  | 'o' => 0o1007
  | _ => 0o7777

/-- One clause of symbolic permissions after its users: operators with letters, applied to `mode`.
Without users the clause leaves alone what `mask` holds back. -/
def applyModeClause (users : List Char) (mask : Nat) (directory : Bool) :
    Nat → List Char → Nat → Option Nat
  | 0, _, _ => none
  | _, [], mode => some mode
  | fuel + 1, op :: cs, mode =>
    if op = '+' ∨ op = '-' ∨ op = '=' then
      let letters := cs.takeWhile fun c => c != '+' && c != '-' && c != '='
      let copied (c : Char) : Option Nat :=
        match c with
        | 'u' => some (mode / 64 % 8 * 0o111)
        | 'g' => some (mode / 8 % 8 * 0o111)
        | 'o' => some (mode % 8 * 0o111)
        | 'r' => some 0o444
        | 'w' => some 0o222
        | 'x' => some 0o111
        | 'X' => some (if directory || mode &&& 0o111 != 0 then 0o111 else 0)
        | 's' => some 0o6000
        | 't' => some 0o1000
        | _ => none
      match letters.mapM copied with
      | none => none
      | some values =>
        let reach := if users.isEmpty then 0o7777 - mask
          else users.foldl (fun n c => n ||| userBits c) 0
        let bits := values.foldl (· ||| ·) 0 &&& reach
        let covered := if users.isEmpty then 0o7777 else users.foldl (fun n c => n ||| userBits c) 0
        let covered := if directory then covered - (covered &&& 0o6000) else covered
        let mode :=
          if op = '+' then mode ||| bits
          else if op = '-' then mode - (mode &&& bits)
          else mode - (mode &&& covered) ||| bits
        applyModeClause users mask directory fuel (cs.drop letters.length) mode
    else none

/-- The permissions that a text makes of `mode`: octal digits, or clauses with letters. -/
def changedMode? (mask : Nat) (directory : Bool) (text : String) (mode : Nat) : Option Nat :=
  let cs := text.toList
  if !cs.isEmpty && cs.all fun c => '0' ≤ c && c ≤ '7' then
    let n := cs.foldl (fun n c => n * 8 + (c.toNat - 48)) 0
    if n ≤ 0o7777 then some n else none
  else
    (text.splitOn ",").foldlM (fun mode clause =>
      let cs := clause.toList
      let users := cs.takeWhile fun c => ['u', 'g', 'o', 'a'].contains c
      let rest := cs.drop users.length
      if rest.isEmpty then none
      else applyModeClause users mask directory (cs.length + 1) rest mode) mode

end Pipeline.Shell
