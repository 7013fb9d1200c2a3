import Pipeline.Shell.CharClass
import Pipeline.Shell.Escape
import Pipeline.Shell.Utility.Arguments

/-!
# Replacing octets

Sets of octets as `tr` writes them, and what becomes of the octets of standard input: they are
replaced, dropped, or not repeated.
-/

namespace Pipeline.Shell.Utility

/-- A part of a set. -/
inductive SetPart where
  | octets (cs : List Char)
  | named (name : String)
  /-- An octet a number of times, as often as needed if there is none. -/
  | repeated (c : Char) (count : Option Nat)
  deriving DecidableEq, Repr

/-- The octets of a part; one that is repeated as often as needed is left out. -/
def SetPart.members : SetPart → List Char
  | .octets cs => cs
  | .named name => CharClass.members ((CharClass.ranges? name).getD [])
  | .repeated c count => List.replicate (count.getD 0) c

/-- The octets of a set with their escapes resolved, each with the flag that says whether it was
escaped. -/
def unescapeSet : Nat → List Char → List (Char × Bool)
  | 0, _ => []
  | _, [] => []
  | fuel + 1, c :: rest =>
    if c = '\\' then
      let digits := (rest.takeWhile Escape.isOctal).take 3
      let value := digits.foldl (fun (n : Nat) d => n * 8 + (d.toNat - 48)) 0
      let digits := if 255 < value then digits.take 2 else digits
      match rest with
      | [] => [('\\', false)]
      | d :: more =>
        if !digits.isEmpty then
          (Escape.octalOctet digits, true) :: unescapeSet fuel (rest.drop digits.length)
        else
          ((if d = 'e' then d else (Escape.letterOctet? d).getD d), true) :: unescapeSet fuel more
    else (c, false) :: unescapeSet fuel rest

/-- The count of a repetition between its sign and the closing bracket: octal after a zero. -/
def repetition? (digits : List Char) : Option (Option Nat) :=
  if digits.isEmpty then some none
  else if digits.all Char.isDigit then
    let base := if digits.head? = some '0' then 8 else 10
    let n := digits.foldl (fun n d => n * base + (d.toNat - 48)) 0
    some (if n = 0 then none else some n)
  else none

/-- The parts of a set. -/
def setParts : Nat → List (Char × Bool) → Except String (List SetPart)
  | 0, _ => .ok []
  | _, [] => .ok []
  | fuel + 1, (c, escaped) :: rest => do
    let plain (cs : List (Char × Bool)) : List Char :=
      (cs.takeWhile fun x => !(x.1 == ']' && !x.2)).map Prod.fst
    let bracket := c == '[' && !escaped
    let inner := plain rest
    let after := rest.drop (inner.length + 1)
    let closed := inner.length < rest.length
    match bracket && closed, inner with
    | true, ':' :: name =>
      if name.getLast? = some ':' then
        let name := String.ofList name.dropLast
        if (CharClass.ranges? name).isNone then
          throw ("invalid character class " ++ quotedArgument name)
        return .named name :: (← setParts fuel after)
    | true, ['=', d, '='] => return .octets [d] :: (← setParts fuel after)
    | true, d :: '*' :: digits =>
      match repetition? digits with
      | some count => return .repeated d count :: (← setParts fuel after)
      | none =>
        throw ("invalid repeat count " ++ quotedArgument (String.ofList digits) ++
          " in [c*n] construct")
    | _, _ => pure ()
    match rest with
    | ('-', false) :: (d, _) :: more =>
      if d < c then
        throw ("range-endpoints of " ++ quotedArgument (String.ofList [c, '-', d]) ++
          " are in reverse collating sequence order")
      return .octets (CharClass.members [(c, d)]) :: (← setParts fuel more)
    | _ => return .octets [c] :: (← setParts fuel rest)

/-- The parts of the set that a text writes. -/
def setOf (text : String) : Except String (List SetPart) :=
  setParts (text.length + 1) (unescapeSet (text.length + 1) text.toList)

/-- Whether a text ends in a backslash that protects nothing. -/
def endsInBackslash : List Char → Bool
  | ['\\'] => true
  | '\\' :: _ :: rest => endsInBackslash rest
  | _ :: rest => endsInBackslash rest
  | [] => false

/-- All octets that are not members, in order. -/
def complementOf (members : List Char) : List Char :=
  (CharClass.members [('\x00', 'ÿ')]).filter fun c => !members.contains c

/-- The members of a set, one part of which is repeated until they are `size`. -/
def fillSet (parts : List SetPart) (size : Nat) : List Char :=
  let bare := parts.flatMap SetPart.members
  parts.flatMap fun part =>
    match part with
    | .repeated c none => List.replicate (size - bare.length) c
    | part => part.members

/-- Where in a set each of its parts begins. -/
def offsets : Nat → List SetPart → List (Nat × SetPart)
  | _, [] => []
  | n, part :: rest => (n, part) :: offsets (n + part.members.length) rest

/-- What is wrong with two sets of which one takes the place of the other. -/
def transliterationProblem? (complement truncate : Bool) (old new : List SetPart) : Option String :=
  let cases (part : SetPart) : Bool := part == .named "upper" || part == .named "lower"
  let named (part : SetPart) : Bool := match part with | .named _ => true | _ => false
  if old.any fun part => match part with | .repeated _ none => true | _ => false then
    some "the [c*] repeat construct may not appear in string1"
  else if new.any fun part => named part && !cases part then
    some ("when translating, the only character classes that may appear in\n" ++
      "string2 are 'upper' and 'lower'")
  else if (offsets 0 new).any fun (n, part) =>
      cases part && !((offsets 0 old).any fun (m, other) => m == n && cases other) then
    some "misaligned [:upper:] and/or [:lower:] construct"
  else if new.isEmpty && !truncate then
    some "when not truncating set1, string2 must be non-empty"
  else if complement && old.any named && 1 < (fillSet new 256).eraseDups.length then
    some ("when translating with complemented character classes,\n" ++
      "string2 must map all characters in the domain to one")
  else none

/-- The text without octets that repeat the one before, where that is asked for. -/
def squeeze (squeezed : Char → Bool) : Option Char → List Char → List Char
  | _, [] => []
  | last, c :: cs =>
    if last = some c ∧ squeezed c then squeeze squeezed last cs
    else c :: squeeze squeezed (some c) cs

/-- The table by which octets are replaced; of several places for one octet the last counts. -/
def transliterationTable (old new : List Char) : Array Char :=
  (old.zip new).foldl (fun (table : Array Char) (c, d) => table.setIfInBounds c.toNat d)
    ((List.range 256).map Char.ofNat).toArray

/-- Whether a set holds octets. -/
def memberTest (members : List Char) : Char → Bool :=
  let table := members.foldl (fun (t : Array Bool) c => t.setIfInBounds c.toNat true)
    (List.replicate 256 false).toArray
  fun c => table.getD c.toNat false

/-- Replaces, drops or squeezes octets of standard input. -/
def tr (args : List String) : Act Nat := do
  let table : OptionTable :=
    { plain := "cCdst"
      long := [("complement", 'c'), ("delete", 'd'), ("squeeze-repeats", 's'),
        ("truncate-set1", 't')] }
  match parseArguments table true (args.length + 1) args with
  | .error problem => reportUse "tr" problem
  | .ok a =>
    let (deletes, squeezes) := (a.has "d", a.has "s")
    let complement := a.has "c" || a.has "C"
    let least := if deletes != squeezes then 1 else 2
    let most := if deletes && !squeezes then 1 else 2
    let use (text note : String) : Act Nat := do
      report "tr" text
      Act.warn note
      pointToHelp "tr"
      return 1
    match a.operands with
    | [] => return ← use "missing operand" ""
    | [only] =>
      if 1 < least then
        return ← use ("missing operand after " ++ quotedArgument only)
          (if squeezes then
            "Two strings must be given when both deleting and squeezing repeats.\n"
          else "Two strings must be given when translating.\n")
    | _ => pure ()
    if let some extra := a.operands[most]? then
      return ← use ("extra operand " ++ quotedArgument extra)
        (if a.operands.length = 2 then
          "Only one string may be given when deleting without squeezing repeats.\n" else "")
    for text in a.operands do
      if endsInBackslash text.toList then
        report "tr" "warning: an unescaped backslash at end of string is not portable"
    match a.operands.mapM setOf with
    | .error problem =>
      report "tr" problem
      return 1
    | .ok sets =>
      let first := sets.headD []
      let second? := sets[1]?
      let members := first.flatMap SetPart.members
      let old := if complement then complementOf members else members
      match second? with
      | some second =>
        if !deletes then
          if let some problem := transliterationProblem? complement (a.has "t") first second then
            report "tr" problem
            return 1
      | none => pure ()
      let content ← Act.readAll
      match second? with
      | none =>
        put (if deletes then content.filter fun c => !memberTest old c
          else squeeze (memberTest old) none content)
      | some second =>
        let new := fillSet second old.length
        if deletes then
          put (squeeze (memberTest new) none (content.filter fun c => !memberTest old c))
        else
          let new :=
            if a.has "t" then new
            else new ++ List.replicate (old.length - new.length) (new.getLastD ' ')
          let table := transliterationTable old new
          let changed := content.map fun c => table.getD c.toNat c
          put (if squeezes then squeeze (memberTest new) none changed else changed)
      return 0

end Pipeline.Shell.Utility
