import Pipeline.Shell.Utility.Arguments
import Pipeline.Shell.Utility.Sort

/-!
# Utilities that arrange items

Items are put in an order in which each comes after those that it needs, or in any order.
-/

namespace Pipeline.Shell.Utility

/-- An item with the items that come after it. -/
structure Linked where
  name : List Char
  /-- How many items have to come before. -/
  waits : Nat := 0
  /-- The numbers of the items that come after, the last one told first. -/
  after : List Nat := []
  isPlaced : Bool := false
  /-- The item that was looked at before on the way back through a loop. -/
  trail : Option Nat := none

/-- Items that are ordered among each other. -/
abbrev LinkedItems := Array Linked

/-- The items of pairs, of which the first comes before the second, in the order of their names. -/
def linkedItems (pairs : List (List Char × List Char)) : LinkedItems :=
  let names := (pairs.flatMap fun p => [p.1, p.2]).mergeSort fun a b => compareOctets a b != .gt
  let names := names.foldr (fun n acc => if acc.head? = some n then acc else n :: acc) []
  let items : LinkedItems := (names.map fun n => { name := n }).toArray
  let index (n : List Char) : Nat := (names.idxOf? n).getD 0
  pairs.foldl (fun (items : LinkedItems) (a, b) =>
    if a = b then items
    else
      (items.modify (index b) fun x => { x with waits := x.waits + 1 }).modify (index a) fun x =>
        { x with after := index b :: x.after }) items

/-- Items from those of a queue on, as none that they need is missing; `fuel` exceeds their
number. -/
def placeReady : Nat → List Nat → LinkedItems → List (List Char) × LinkedItems
  | 0, _, items => ([], items)
  | _, [], items => ([], items)
  | fuel + 1, i :: queue, items =>
    match items[i]? with
    | none => placeReady fuel queue items
    | some x =>
      let items := items.set! i { x with isPlaced := true, after := [] }
      let items := x.after.foldl (fun (items : LinkedItems) j =>
        items.modify j fun y => { y with waits := y.waits - 1 }) items
      let ready := x.after.filter fun j => items[j]?.any fun y => y.waits == 0
      let (names, items) := placeReady fuel (queue ++ ready.reverse.eraseDups.reverse) items
      (x.name :: names, items)

/-- The items of a loop from one back to another, with their trails taken away; `fuel` exceeds their
number. -/
def unwind : Nat → Option Nat → Nat → LinkedItems → List (List Char) × LinkedItems
  | 0, _, _, items => ([], items)
  | _, none, _, items => ([], items)
  | fuel + 1, some i, last, items =>
    match items[i]? with
    | none => ([], items)
    | some x =>
      if i = last then ([x.name], items)
      else
        let (names, items) :=
          unwind fuel x.trail last (items.modify i fun y => { y with trail := none })
        (x.name :: names, items)

/-- Looks at items one after the other for one that comes before the last one looked at. Gives the
names of a loop as soon as it is closed. -/
def followLoop : List Nat → Option Nat → LinkedItems →
    Option (List (List Char)) × Option Nat × LinkedItems
  | [], start, items => (none, start, items)
  | k :: ks, start, items =>
    match items[k]?, start with
    | none, _ => followLoop ks start items
    | some x, start =>
      if x.waits = 0 then followLoop ks start items
      else
        match start with
        | none => followLoop ks (some k) items
        | some l =>
          if !(x.after.contains l) then followLoop ks start items
          else if x.trail.isNone then
            followLoop ks (some k) (items.modify k fun y => { y with trail := some l })
          else
            let (names, items) := unwind (items.size + 1) (some l) k items
            let items := (items.modify l fun y => { y with waits := y.waits - 1 }).modify k fun y =>
              { y with after := y.after.erase l }
            (some names, none, items.map fun y => { y with trail := none })

/-- The names of a loop, which is opened; `fuel` exceeds the number of items. -/
def openLoop : Nat → Option Nat → LinkedItems → List (List Char) × LinkedItems
  | 0, _, items => ([], items)
  | fuel + 1, start, items =>
    match followLoop (List.range items.size) start items with
    | (some names, _, items) => (names, items)
    | (none, none, items) => ([], items)
    | (none, some start, items) => openLoop fuel (some start) items

/-- Items in order and the loops that had to be opened; `fuel` exceeds the number of items. -/
def arranged : Nat → LinkedItems → List (List Char ⊕ List (List Char))
  | 0, _ => []
  | fuel + 1, items =>
    let isReady (i : Nat) : Bool := items[i]?.any fun x => !x.isPlaced && x.waits == 0
    let (names, items) :=
      placeReady (items.size + 1) ((List.range items.size).filter isReady) items
    let placed : List (List Char ⊕ List (List Char)) := names.map .inl
    if items.all Linked.isPlaced then placed
    else
      let (names, items) := openLoop (items.size + 1) none items
      placed ++ .inr names :: arranged fuel items

/-- The words between blanks, the one under way collected in reverse. -/
def wordsBetween (acc : List Char) : List Char → List (List Char)
  | [] => if acc.isEmpty then [] else [acc.reverse]
  | c :: cs =>
    if c = ' ' ∨ c = '\t' ∨ c = '\n' then
      if acc.isEmpty then wordsBetween [] cs else acc.reverse :: wordsBetween [] cs
    else wordsBetween (c :: acc) cs

/-- The elements two by two; `none` if one is left. -/
def inPairs? {α : Type} : List α → Option (List (α × α))
  | [] => some []
  | [_] => none
  | a :: b :: rest => (inPairs? rest).map ((a, b) :: ·)

/-- Puts items in an order in which each comes after those that are told to come before it. -/
def tsort (args : List String) : Act Nat :=
  withArguments "tsort" {} 1 args fun a => do
    if let _ :: extra :: _ := a.operands then
      return ← reportUse "tsort" ("extra operand " ++ quotedArgument extra)
    let operand := a.operands.headD "-"
    match ← contentOf operand with
    | .error e =>
      report "tsort" (if e = .isDirectory then
        quotedIfNeeded operand ++ ": read error: " ++ e.reason
        else plainComplaint operand e)
      return 1
    | .ok content =>
      match inPairs? (wordsBetween [] content) with
      | none =>
        report "tsort" (quotedIfNeeded operand ++ ": input contains an odd number of tokens")
        return 1
      | some pairs =>
        let mut status := 0
        for part in arranged (pairs.length + 2) (linkedItems pairs) do
          match part with
          | .inl name => put (name ++ ['\n'])
          | .inr names =>
            status := 1
            report "tsort" (quotedIfNeeded operand ++ ": input contains a loop:")
            for name in names do report "tsort" (String.ofList name)
        return status

/-- The options of `shuf`. -/
def shufOptions : OptionTable where
  plain := "erz"
  valued := "ino"
  long := [("echo", 'e'), ("repeat", 'r'), ("zero-terminated", 'z'), ("input-range", 'i'),
    ("head-count", 'n'), ("output", 'o')]
  longValued := ["random-source"]

/-- The numbers of a range, or what is wrong with it. -/
def rangeItems (text : String) : Except String (List (List Char)) :=
  let invalid := "invalid input range: " ++ quotedArgument text
  match (text.splitOn "-").map String.toNat? with
  | [some low, some high] =>
    if high + 1 < low then .error invalid
    else .ok ((List.range (high + 1 - low)).map fun i => (toString (low + i)).toList)
  | _ => .error invalid

/-- Writes items in any order: here it is the one in which they come. -/
def shuf (args : List String) : Act Nat :=
  withArguments "shuf" shufOptions 1 args fun a => do
    let fail (text : String) : Act Nat := do
      report "shuf" text
      return 1
    if let some text := (a.values "n").find? fun t => t.toNat?.isNone then
      return ← fail ("invalid line count: " ++ quotedArgument text)
    let limit := ((a.values "n").filterMap String.toNat?).min?
    let items : Except String (List (List Char)) ←
      if a.has "e" then pure (.ok (a.operands.map String.toList))
      else
        match a.value? "i" with
        | some text => pure (rangeItems text)
        | none =>
          match ← contentOf (a.operands.headD "-") with
          | .ok content => pure (.ok (bareLinesOf content))
          | .error e => pure (.error (plainComplaint (a.operands.headD "-") e))
    match items with
    | .error problem => fail problem
    | .ok items =>
      if let extra :: _ := if a.has "e" then [] else
          a.operands.drop (if a.has "i" then 0 else 1) then
        return ← reportUse "shuf" ("extra operand " ++ quotedArgument extra)
      let chosen :=
        if a.has "r" then
          (List.range (limit.getD 0)).filterMap fun k => items[k % max 1 items.length]?
        else limit.elim items fun n => items.take n
      let ending := if a.has "z" then '\x00' else '\n'
      let text := chosen.flatMap fun item => item ++ [ending]
      match a.value? "o" with
      | none => put text
      | some name =>
        let dir := (← get).workingDir
        let _ ← change "shuf" (plainComplaint name) fun f => f.write dir name (Text.octetsOf text)
      return 0

end Pipeline.Shell.Utility
