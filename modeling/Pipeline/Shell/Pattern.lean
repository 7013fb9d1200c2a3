import Pipeline.Files
import Pipeline.Shell.CharClass

/-!
# Shell patterns

Patterns for texts and for file names: `*` stands for any octets, `?` for one, and brackets for one
of a set. Quoted characters stand for themselves.
-/

namespace Pipeline.Shell

/-- A character with the flag that says whether it is quoted. -/
abbrev Marked := Char × Bool

/-- A part of a pattern. -/
inductive PatternItem where
  | many
  | any
  | one (c : Char)
  | oneOf (negated : Bool) (ranges : List CharRange)
  deriving DecidableEq, Repr

/-- A pattern, part by part. -/
abbrev Pattern := List PatternItem

/-- The ranges up to the closing bracket, and the characters after it; the first character may be a
bracket itself. -/
def takeRanges : Nat → Bool → List Marked → Option (List CharRange × List Marked)
  | 0, _, _ => none
  | _, _, [] => none
  | fuel + 1, first, (c, quoted) :: rest =>
    let class? : Option (List CharRange × Nat) :=
      match rest with
      | (':', false) :: name =>
        if c = '[' ∧ !quoted then
          (CharClass.takeName (name.map Prod.fst)).map fun (name, after) =>
            ((CharClass.ranges? name).getD [], rest.length - after.length)
        else none
      | _ => none
    if c = ']' ∧ !quoted ∧ !first then some ([], rest)
    else
      match class? with
      | some (ranges, size) =>
        (takeRanges fuel false (rest.drop size)).map fun (rs, rest) => (ranges ++ rs, rest)
      | none =>
        match rest with
        | ('-', false) :: (d, q) :: rest =>
          if d = ']' ∧ !q then
            (takeRanges fuel false (('-', false) :: (d, q) :: rest)).map fun (rs, rest) =>
              ((c, c) :: rs, rest)
          else (takeRanges fuel false rest).map fun (rs, rest) => ((c, d) :: rs, rest)
        | rest => (takeRanges fuel false rest).map fun (rs, rest) => ((c, c) :: rs, rest)

/-- The set after an opening bracket, and the characters after the set. -/
def takeSet (cs : List Marked) : Option (PatternItem × List Marked) :=
  let (negated, cs) :=
    match cs with
    | ('!', false) :: rest => (true, rest)
    | ('^', false) :: rest => (true, rest)
    | _ => (false, cs)
  (takeRanges (cs.length + 1) true cs).map fun (rs, rest) => (.oneOf negated rs, rest)

/-- The pattern of marked characters; `fuel` exceeds their number. -/
def Pattern.ofMarked : Nat → List Marked → Pattern
  | 0, _ => []
  | _, [] => []
  | fuel + 1, (c, quoted) :: rest =>
    if quoted then .one c :: ofMarked fuel rest
    else if c = '*' then .many :: ofMarked fuel rest
    else if c = '?' then .any :: ofMarked fuel rest
    else if c = '[' then
      match takeSet rest with
      | some (item, rest) => item :: ofMarked fuel rest
      | none => .one c :: ofMarked fuel rest
    else .one c :: ofMarked fuel rest

/-- Whether the characters have the form of the pattern. -/
def Pattern.accepts : Pattern → List Char → Bool
  | [], cs => cs.isEmpty
  | .many :: items, [] => accepts items []
  | .many :: items, c :: cs => accepts items (c :: cs) || accepts (.many :: items) cs
  | _ :: _, [] => false
  | .any :: items, _ :: cs => accepts items cs
  | .one d :: items, c :: cs => c == d && accepts items cs
  | .oneOf negated ranges :: items, c :: cs =>
    CharClass.holds ranges c != negated && accepts items cs
termination_by items cs => items.length + cs.length

/-- The pattern of marked characters. -/
def patternOf (cs : List Marked) : Pattern :=
  Pattern.ofMarked (cs.length + 1) cs

/-- The pattern of a text without quotes, in which a backslash quotes the next character. -/
def patternOfText (text : String) : Pattern :=
  patternOf (mark text.toList)
where
  /-- The characters with their backslashes taken out. -/
  mark : List Char → List Marked
    | '\\' :: c :: rest => (c, true) :: mark rest
    | c :: rest => (c, false) :: mark rest
    | [] => []

/-- Whether a text has the form of the pattern. -/
def Pattern.acceptsText (p : Pattern) (text : String) : Bool :=
  p.accepts text.toList

/-- Whether a pattern stands for more than one text. -/
def isPattern (cs : List Marked) : Bool :=
  (patternOf cs).any fun item =>
    match item with
    | .one _ => false
    | _ => true

/-- The text without a part at its front that has the form of the pattern. -/
def Pattern.cutFront (p : Pattern) (longest : Bool) (text : String) : String :=
  let cs := text.toList
  let sizes := (List.range (cs.length + 1)).filter fun n => p.accepts (cs.take n)
  match if longest then sizes.getLast? else sizes.head? with
  | some n => String.ofList (cs.drop n)
  | none => text

/-- The text without a part at its end that has the form of the pattern. -/
def Pattern.cutBack (p : Pattern) (longest : Bool) (text : String) : String :=
  let cs := text.toList
  let sizes := (List.range (cs.length + 1)).filter fun n => p.accepts (cs.drop n)
  match if longest then sizes.head? else sizes.getLast? with
  | some n => String.ofList (cs.take n)
  | none => text

/-- The parts of marked characters between slashes. -/
def splitMarked (acc : List Marked) : List Marked → List (List Marked)
  | [] => [acc.reverse]
  | (c, q) :: rest =>
    if c = '/' then acc.reverse :: splitMarked [] rest else splitMarked ((c, q) :: acc) rest

/-- The text of marked characters. -/
def plainText (cs : List Marked) : String :=
  String.ofList (cs.map Prod.fst)

/-- The names in a directory that a part of a path stands for; names that start with a point have to
be asked for. -/
def namesFor (f : Files) (workingDir : Place) (path : String) (part : List Marked) : List String :=
  match f.locate workingDir (if path.isEmpty then "." else path) with
  | .ok (place, .directory) =>
    let asked := (part.head?.map Prod.fst) == some '.'
    let names := (if asked then [".", ".."] else []) ++ f.childrenOf place
    names.filter fun name =>
      (asked || name.toList.head? != some '.') && (patternOf part).acceptsText name
  | _ => []

/-- The paths that the parts stand for after `path`. -/
def pathsFor (f : Files) (workingDir : Place) (path : String) : List (List Marked) → List String
  | [] => [path]
  | part :: parts =>
    let slash := if parts.isEmpty then "" else "/"
    if isPattern part then
      ((namesFor f workingDir path part).map fun name =>
        pathsFor f workingDir (path ++ name ++ slash) parts).flatten
    else
      let next := path ++ plainText part ++ slash
      if parts.isEmpty && (f.at? workingDir next).isNone then []
      else pathsFor f workingDir next parts

/-- The paths that a pattern stands for, or the pattern itself if there are none. -/
def matchPaths (f : Files) (workingDir : Place) (cs : List Marked) : List String :=
  if isPattern cs then
    match pathsFor f workingDir "" (splitMarked [] cs) with
    | [] => [plainText cs]
    | paths => paths
  else [plainText cs]

end Pipeline.Shell
