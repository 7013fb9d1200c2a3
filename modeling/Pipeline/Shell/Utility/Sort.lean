import Pipeline.Shell.Utility.Order
import Pipeline.Shell.Utility.Size

/-!
# Utilities for sorted lines

Lines are sorted, counted where they are the same, compared with those of another file, or joined
with them.
-/

namespace Pipeline.Shell.Utility

open Text (isFieldGap)

/-- How lines are sorted. -/
structure SortOrder where
  keys : List SortKey := []
  separator : Option Char := none
  /-- The order of lines whose keys are the same is that of their octets. -/
  lastResort : Bool := true
  reverse : Bool := false

/-- A line with the parts that its keys ask for. -/
abbrev KeyedLine := List Char × List (List Char)

/-- The order of the keys of two lines. -/
def SortOrder.compareKeys (o : SortOrder) (a b : KeyedLine) : Ordering :=
  (o.keys.zip (a.2.zip b.2)).foldl (fun (order : Ordering) (key, x, y) =>
    order.then (key.style.compareParts x y)) .eq

/-- The order of two lines. -/
def SortOrder.compare (o : SortOrder) (a b : KeyedLine) : Ordering :=
  let last := compareOctets a.1 b.1
  (o.compareKeys a b).then
    (if o.lastResort then if o.reverse then last.swap else last else .eq)

/-- A line with its parts. -/
def SortOrder.keyed (o : SortOrder) (line : List Char) : KeyedLine :=
  (line, o.keys.map fun key => key.part o.separator line)

/-- What is wrong with a key. -/
abbrev KeyError := String

/-- The options after a place of a key. -/
def takeKeyLetters (atEnd : Bool) (style : KeyStyle) : List Char → KeyStyle × List Char
  | [] => (style, [])
  | c :: cs =>
    match style.with? atEnd c with
    | some style => takeKeyLetters atEnd style cs
    | none => (style, c :: cs)

/-- The key that a text writes: two places, each a field with an octet in it, and options. -/
def SortKey.ofText (usual : KeyStyle) (text : String) : Except KeyError SortKey := do
  let number (cs : List Char) (what : String) : Except KeyError (Nat × List Char) :=
    let digits := cs.takeWhile Char.isDigit
    match (String.ofList digits).toNat? with
    | some n => .ok (n, cs.drop digits.length)
    | none => .error (what ++ ": invalid count at start of " ++ quotedArgument (String.ofList cs))
  let zero (what : String) : KeyError :=
    what ++ " is zero: invalid field specification " ++ quotedArgument text
  let (field, cs) ← number text.toList "invalid number at field start"
  if field = 0 then throw (zero "field number")
  let (offset, cs) ←
    match cs with
    | '.' :: rest => number rest "invalid number after '.'"
    | cs => pure (1, cs)
  if offset = 0 then throw (zero "character offset")
  let (style, cs) := takeKeyLetters false {} cs
  let (until?, style, cs) ←
    match cs with
    | ',' :: rest => do
      let (last, cs) ← number rest "invalid number after ','"
      if last = 0 then throw (zero "field number")
      let (count, cs) ←
        match cs with
        | '.' :: rest => number rest "invalid number after '.'"
        | cs => pure (0, cs)
      let (style, cs) := takeKeyLetters true style cs
      pure (some (last - 1, count), style, cs)
    | cs => pure (none, style, cs)
  if !cs.isEmpty then
    throw ("stray character in field spec: invalid field specification " ++ quotedArgument text)
  return ⟨field - 1, offset - 1, until?, if style = {} then usual else style⟩

/-- Letters of an order that cannot stand together, if there are such among some, as they are
shown. -/
def clashing? (letters : List Char) : Option String :=
  let kinds := ["n", "g", "h", "M", "VRdi"].filter fun kind => kind.toList.any letters.contains
  if kinds.length ≤ 1 then none
  else
    some (String.ofList ("dfghiMnRV".toList.filter fun c =>
      letters.contains c && !(c == 'i' && letters.contains 'd')))

/-- What is wrong with the letters of options and keys. -/
def orderClash? (a : Arguments) : Option String :=
  let isOrder (c : Char) : Bool := "bdfghiMnRrV".toList.contains c
  let own := a.options.filterMap fun o =>
    match o.1.toList with
    | [c] => if isOrder c then some c else none
    | _ => none
  let keys := (a.values "k").map fun key => key.toList.filter isOrder
  let inherits := keys.isEmpty || keys.any List.isEmpty
  (((if inherits then [own] else []) ++ keys).findSome? clashing?).map fun letters =>
    "options '-" ++ letters ++ "' are incompatible"

/-- The order that options ask for. -/
def SortOrder.ofArguments (a : Arguments) : Except KeyError SortOrder := do
  let usual := a.options.foldl (fun (style : KeyStyle) o =>
    match o.1.toList with
    | [c] =>
      match style.with? false c with
      | some style => if c = 'b' then { style with skipEnd := true } else style
      | none => style
    | _ =>
      if o.1 = "sort" then
        match o.2 with
        | "numeric" => { style with kind := .number }
        | "general-numeric" => { style with kind := .general }
        | "human-numeric" => { style with kind := .human }
        | "month" => { style with kind := .month }
        | "version" => { style with kind := .version }
        | _ => style
      else style) {}
  let separator ←
    match (a.value? "t").map String.toList with
    | none => pure none
    | some [] => throw "empty tab"
    | some [c] => pure (some c)
    | some ['\\', '0'] => pure (some '\x00')
    | some cs => throw ("multi-character tab " ++ quotedArgument (String.ofList cs))
  let keys ← (a.values "k").mapM (SortKey.ofText usual)
  let keys := if keys.isEmpty && usual != { reverse := usual.reverse } then [⟨0, 0, none, usual⟩]
    else keys
  return ⟨keys, separator, keys.isEmpty || !(a.has "s" || a.has "u"), usual.reverse⟩

/-- The lines of sorted lists merged: of their first lines always the least. -/
def mergeLines (le : KeyedLine → KeyedLine → Bool) :
    Nat → List (List KeyedLine) → List KeyedLine
  | 0, _ => []
  | fuel + 1, lists =>
    let heads := lists.zipIdx.filterMap fun (l, i) => l.head?.map fun h => (h, i)
    let least := heads.foldl (fun (best : Option (KeyedLine × Nat)) h =>
      match best with
      | none => some h
      | some b => if le b.1 h.1 then some b else some h) none
    match least with
    | none => []
    | some (line, i) =>
      line :: mergeLines le fuel (lists.zipIdx.map fun (l, j) => if i = j then l.drop 1 else l)

/-- Lines without those whose keys are the same as those of the line before. -/
def dropSame (same : KeyedLine → KeyedLine → Bool) : List KeyedLine → List KeyedLine
  | a :: b :: rest =>
    if same a b then dropSame same (a :: rest) else a :: dropSame same (b :: rest)
  | rest => rest
termination_by l => l.length

/-- The first line that comes before the one in front of it, with its number. -/
def firstDisorder (bad : KeyedLine → KeyedLine → Bool) :
    Nat → List KeyedLine → Option (Nat × List Char)
  | n, a :: b :: rest =>
    if bad a b then some (n + 1, b.1) else firstDisorder bad (n + 1) (b :: rest)
  | _, _ => none

/-- The options of `sort`. -/
def sortOptions : OptionTable where
  plain := "bcdfghiMmnrsuVzRC"
  valued := "kotST"
  longValued := ["sort", "parallel", "batch-size", "random-source", "compress-program"]
  longOptional := ["check"]
  long := [("ignore-leading-blanks", 'b'), ("dictionary-order", 'd'), ("ignore-case", 'f'),
    ("general-numeric-sort", 'g'), ("human-numeric-sort", 'h'), ("ignore-nonprinting", 'i'),
    ("month-sort", 'M'), ("merge", 'm'), ("numeric-sort", 'n'), ("reverse", 'r'), ("stable", 's'),
    ("unique", 'u'), ("version-sort", 'V'), ("zero-terminated", 'z'), ("random-sort", 'R'),
    ("key", 'k'), ("output", 'o'), ("field-separator", 't'), ("buffer-size", 'S'),
    ("temporary-directory", 'T')]

/-- Shows the lines of contents in order. -/
def sort (args : List String) : Act Nat :=
  withArguments "sort" sortOptions 2 args fun a => do
    let check := a.last? ["c", "C", "check"]
    let quiet := a.has "C" || ["quiet", "silent"].contains ((a.value? "check").getD "")
    let noisy := a.has "c" || (a.has "check" && !a.has "C" && !quiet)
    let sign := if quiet then "C" else "c"
    let misuse? : Option String :=
      match orderClash? a, check with
      | some problem, _ => some problem
      | none, none => none
      | none, some _ =>
        if quiet && noisy then some "options '-cC' are incompatible"
        else if a.has "o" then some ("options '-" ++ sign ++ "o' are incompatible")
        else (a.operands[1]?).map fun extra =>
          "extra operand " ++ quotedArgument extra ++ " not allowed with -" ++ sign
    if let some problem := misuse? then
      report "sort" problem
      return 2
    match SortOrder.ofArguments a with
    | .error problem =>
      report "sort" problem
      return 2
    | .ok order =>
      let swap := swapEnds (a.has "z")
      let mut lists : List (List KeyedLine) := []
      let mut status := 0
      for operand in if a.operands.isEmpty then ["-"] else a.operands do
        if status = 0 then
          match ← contentOf operand with
          | .ok content => lists := lists ++ [(bareLinesOf (swap content)).map order.keyed]
          | .error e =>
            let what := if e = .isDirectory then "read failed: " else "cannot read: "
            report "sort" (what ++ plainComplaint operand e)
            status := 2
      if status ≠ 0 then return status
      let le (x y : KeyedLine) : Bool := order.compare x y != .gt
      let same (x y : KeyedLine) : Bool :=
        if order.keys.isEmpty then x.1 == y.1 else order.compareKeys x y == .eq
      if check.isSome then
        let bad (x y : KeyedLine) : Bool := !le x y || (a.has "u" && same x y)
        match firstDisorder bad 1 lists.flatten with
        | none => return 0
        | some (n, line) =>
          if !quiet then
            report "sort" (a.operands.headD "-" ++ ":" ++ toString n ++ ": disorder: " ++
              String.ofList line)
          return 1
      let total := (lists.map List.length).foldl (· + ·) 0
      let sorted :=
        if a.has "m" then mergeLines le (total + 1) lists else lists.flatten.mergeSort le
      let sorted := if a.has "u" then dropSame same sorted else sorted
      let text := swap (sorted.flatMap fun line => line.1 ++ ['\n'])
      match a.value? "o" with
      | none =>
        put text
        return 0
      | some path =>
        let dir := (← get).workingDir
        let written ← change "sort" (fun e => "open failed: " ++ plainComplaint path e) fun f =>
          f.write dir path (Text.octetsOf text)
        return if written then 0 else 2

/-- Stretches of equal elements that follow each other. -/
def groupsBy {α : Type} (same : α → α → Bool) (l : List α) : List (List α) :=
  l.splitBy same

/-- What is said of a word that is none of those that an option takes. -/
def reportWord (name option word : String) (known : List String) : Act Nat := do
  report name ("invalid argument " ++ quotedArgument word ++ " for '--" ++ option ++ "'")
  Act.warn ("Valid arguments are:\n" ++
    String.join (known.map fun w => "  - '" ++ w ++ "'\n"))
  pointToHelp name
  return 1

/-- Groups of lines one after the other, with empty lines around them as a word says. -/
def spaced (word : String) (groups : List (List (List Char))) : List (List Char) :=
  let between := groups.zipIdx.flatMap fun (g, i) =>
    let front := word = "prepend" ∨ word = "both" ∨ (i ≠ 0 ∧ word ≠ "none")
    (if front ∧ ¬ (word = "append" ∧ i = 0) then [[]] else []) ++ g
  between ++ if (word = "append" ∨ word = "both") ∧ !groups.isEmpty then [[]] else []

/-- Shows one of several equal lines that follow each other. -/
def uniq (args : List String) : Act Nat :=
  withArguments "uniq"
    { plain := "cdDiuz", valued := "fsw", longOptional := ["all-repeated", "group"]
      long := [("count", 'c'), ("repeated", 'd'), ("ignore-case", 'i'), ("unique", 'u'),
        ("zero-terminated", 'z'), ("skip-fields", 'f'), ("skip-chars", 's'), ("check-chars", 'w')] }
    1 args fun a => do
      if let some extra := a.operands[2]? then
        return ← reportUse "uniq" ("extra operand " ++ quotedArgument extra)
      let all := a.has "D" || a.has "all-repeated"
      let wordOf (option usual : String) : String :=
        match a.value? option with
        | none => "none"
        | some "" => usual
        | some word => word
      let repeatWord := wordOf "all-repeated" "none"
      let groupWord := wordOf "group" "separate"
      if !(["none", "prepend", "separate"].contains repeatWord) then
        return ← reportWord "uniq" "all-repeated" repeatWord ["none", "prepend", "separate"]
      if !(["none", "prepend", "append", "separate", "both"].contains groupWord) then
        return ← reportWord "uniq" "group" groupWord ["prepend", "append", "separate", "both"]
      if a.has "group" && (a.has "c" || a.has "d" || all || a.has "u") then
        return ← reportUse "uniq" "--group is mutually exclusive with -c/-d/-D/-u"
      if all && a.has "c" then
        return ← reportUse "uniq"
          "printing all duplicated lines and repeat counts is meaningless"
      let number (key what : String) : Except String (Option Nat) :=
        match a.value? key with
        | none => .ok none
        | some text =>
          match sizeOf text with
          | .ok n => .ok (some n)
          | .error _ => .error (text ++ ": invalid number of " ++ what)
      match number "f" "fields to skip",
          number "s" "bytes to skip", number "w" "bytes to compare" with
      | .ok fields, .ok skipped, .ok compared =>
        let key (line : List Char) : List Char :=
          let rest := (afterFields none (fields.getD 0) line).drop (skipped.getD 0)
          let rest := (compared.map fun n => rest.take n).getD rest
          if a.has "i" then rest.map Char.toLower else rest
        match ← contentOf (a.operands.headD "-") with
        | .error e =>
          report "uniq" (plainComplaint (a.operands.headD "-") e)
          return 1
        | .ok content =>
          let groups := groupsBy (fun x y => key x == key y) (bareLinesOf content)
          let kept := groups.filter fun g =>
            if a.has "u" && (a.has "d" || all) then false
            else if a.has "u" then g.length == 1
            else if a.has "d" || all then g.length != 1
            else true
          let shown :=
            if a.has "group" then spaced groupWord kept
            else if all then spaced repeatWord kept
            else
              kept.map fun g =>
                let line := g.headD []
                if a.has "c" then (padded 7 (toString g.length)).toList ++ [' '] ++ line else line
          match a.operands[1]? with
          | none | some "-" =>
            putLines shown
            return 0
          | some path =>
            let dir := (← get).workingDir
            let text := shown.flatMap fun line => line ++ ['\n']
            let written ← change "uniq" (plainComplaint path) fun f =>
              f.write dir path (Text.octetsOf text)
            return if written then 0 else 1
      | .error e, _, _ | _, .error e, _ | _, _, .error e =>
        report "uniq" e
        return 1

/-- The lines of two files next to each other: those of the first, of the second, and of both, by
the number of their column. -/
def pairLines : Nat → List (List Char) → List (List Char) → List (Nat × List Char)
  | 0, _, _ => []
  | _, [], bs => bs.map fun b => (2, b)
  | _, as, [] => as.map fun a => (1, a)
  | fuel + 1, a :: as, b :: bs =>
    match compareOctets a b with
    | .lt => (1, a) :: pairLines fuel as (b :: bs)
    | .gt => (2, b) :: pairLines fuel (a :: as) bs
    | .eq => (3, a) :: pairLines fuel as bs

/-- Whether lines are in order. -/
def inOrder : List (List Char) → Bool
  | a :: b :: rest => compareOctets a b != .gt && inOrder (b :: rest)
  | _ => true

/-- The operands of a utility for two files, or the complaint that there are not two. -/
def twoOperands (operands : List String) : Except String (String × String) :=
  match operands with
  | [] => .error "missing operand"
  | [a] => .error ("missing operand after " ++ quotedArgument a)
  | [a, b] => .ok (a, b)
  | _ :: _ :: c :: _ => .error ("extra operand " ++ quotedArgument c)

/-- Compares the sorted lines of two files. -/
def comm (args : List String) : Act Nat :=
  withArguments "comm"
    { plain := "123z", longPlain := ["check-order", "nocheck-order", "total"]
      longValued := ["output-delimiter"] }
    1 args fun a => do
      match twoOperands a.operands with
      | .error problem => reportUse "comm" problem
      | .ok (first, second) =>
        match ← contentOf first, ← contentOf second with
        | .error e, _ =>
          report "comm" (plainComplaint first e)
          return 1
        | _, .error e =>
          report "comm" (plainComplaint second e)
          return 1
        | .ok x, .ok y =>
          let (as, bs) := (bareLinesOf x, bareLinesOf y)
          let pairs := pairLines (as.length + bs.length + 1) as bs
          let delimiter := (a.value? "output-delimiter").getD "\t"
          let hides (n : Nat) : Bool := a.has (toString n)
          let before (n : Nat) : String :=
            let columns := (List.range (n - 1)).filter fun i => !hides (i + 1)
            String.join (columns.map fun _ => delimiter)
          for (n, line) in pairs do
            if !hides n then
              Act.say (before n)
              put (line ++ ['\n'])
          let count (n : Nat) : String := toString (pairs.filter fun p => p.1 == n).length
          if a.has "total" then
            Act.say (String.intercalate delimiter [count 1, count 2, count 3, "total"] ++ "\n")
          let unpaired := pairs.any fun p => p.1 != 3
          let checks := (unpaired && !a.has "nocheck-order") || a.has "check-order"
          let bad := [(as, 1), (bs, 2)].filter fun f => checks && !inOrder f.1
          for (_, n) in bad do
            report "comm" ("file " ++ toString n ++ " is not in sorted order")
          if !bad.isEmpty then
            if !a.has "check-order" then report "comm" "input is not in sorted order"
            return 1
          return 0

/-- The fields of a line. -/
def fieldsOfLine (separator : Option Char) (line : List Char) : List (List Char) :=
  match separator with
  | some c => line.splitOn c
  | none => go (line.length + 1) line
where
  /-- The stretches without blanks. -/
  go : Nat → List Char → List (List Char)
    | 0, _ => []
    | fuel + 1, cs =>
      let cs := cs.dropWhile isFieldGap
      if cs.isEmpty then []
      else cs.takeWhile (!isFieldGap ·) :: go fuel (cs.dropWhile (!isFieldGap ·))

/-- How lines are joined. -/
structure JoinStyle where
  separator : Option Char
  first : Nat
  second : Nat
  fold : Bool
  /-- The files whose lines without a partner are shown. -/
  unpaired : List Nat
  /-- Whether lines with a partner are shown. -/
  paired : Bool
  filler : List Char
  /-- The fields that are shown: a file with a field, or the key. -/
  format : Option (List (Option (Nat × Nat)))

/-- The line for fields of two lines that belong together, or of one line without a partner. -/
def JoinStyle.row (j : JoinStyle) (a b : Option (List (List Char))) : List Char :=
  let key := ((a.bind (·[j.first]?)) <|> (b.bind (·[j.second]?))).getD []
  let without (fields : Option (List (List Char))) (n : Nat) : List (List Char) :=
    (fields.getD []).eraseIdx n
  let shown :=
    match j.format with
    | none => key :: without a j.first ++ without b j.second
    | some wanted => wanted.map fun w =>
      let field :=
        match w with
        | none => key
        | some (file, n) => ((if file = 1 then a else b).bind (·[n]?)).getD []
      if field.isEmpty then j.filler else field
  [j.separator.getD ' '].intercalate shown

/-- The joined lines of two files whose lines are sorted by their keys. -/
def JoinStyle.rows (j : JoinStyle) :
    Nat → List (List (List Char)) → List (List (List Char)) → List (List Char)
  | 0, _, _ => []
  | fuel + 1, as, bs =>
    let seen (cs : List Char) : List Char := if j.fold then cs.map Char.toLower else cs
    let keyA (l : List (List Char)) : List Char := seen ((l[j.first]?).getD [])
    let keyB (l : List (List Char)) : List Char := seen ((l[j.second]?).getD [])
    let alone (n : Nat) (row : List Char) : List (List Char) :=
      if j.unpaired.contains n then [row] else []
    match as, bs with
    | [], [] => []
    | a :: as, [] => alone 1 (j.row (some a) none) ++ rows j fuel as []
    | [], b :: bs => alone 2 (j.row none (some b)) ++ rows j fuel [] bs
    | a :: as', b :: bs' =>
      match compareOctets (keyA a) (keyB b) with
      | .lt => alone 1 (j.row (some a) none) ++ rows j fuel as' bs
      | .gt => alone 2 (j.row none (some b)) ++ rows j fuel as bs'
      | .eq =>
        let mine := as.takeWhile fun l => keyA l == keyA a
        let others := bs.takeWhile fun l => keyB l == keyB b
        let joined := mine.flatMap fun x => others.map fun y => j.row (some x) (some y)
        (if j.paired then joined else []) ++
          rows j fuel (as.drop mine.length) (bs.drop others.length)

/-- Joins the lines of two files that have the same key. -/
def join (args : List String) : Act Nat :=
  withArguments "join"
    { plain := "iz", valued := "12ajtoev", longPlain := ["check-order", "nocheck-order", "header"]
      long := [("ignore-case", 'i')] }
    1 args fun a => do
      match twoOperands a.operands with
      | .error problem => reportUse "join" problem
      | .ok (first, second) =>
        match ← contentOf first, ← contentOf second with
        | .error e, _ =>
          report "join" (plainComplaint first e)
          return 1
        | _, .error e =>
          report "join" (plainComplaint second e)
          return 1
        | .ok x, .ok y =>
          let field (key : String) : Nat :=
            (((a.value? key <|> a.value? "j").bind String.toNat?).getD 1) - 1
          let wanted (text : String) : Option (Nat × Nat) :=
            match text.splitOn "." with
            | [file, n] => some (file.toNat?.getD 0, n.toNat?.getD 1 - 1)
            | _ => none
          let separator := (a.value? "t").bind fun t => t.toList.head?
          let style : JoinStyle :=
            { separator := separator
              first := field "1"
              second := field "2"
              fold := a.has "i"
              unpaired := (a.values "a" ++ a.values "v").filterMap String.toNat?
              paired := !a.has "v"
              filler := ((a.value? "e").getD "").toList
              format := (a.value? "o").map fun o =>
                ((o.splitOn ",").flatMap fun p => p.splitOn " ").map wanted }
          let parse (content : List Char) : List (List (List Char)) :=
            (bareLinesOf content).map (fieldsOfLine separator)
          let (as, bs) := (parse x, parse y)
          putLines (style.rows (as.length + bs.length + 1) as bs)
          return 0

end Pipeline.Shell.Utility
