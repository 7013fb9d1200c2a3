/-!
# Classes of octets

The classes that sets of characters may name between `[:` and `:]`, as ranges. Only ASCII characters
belong to a class.
-/

namespace Pipeline.Shell

/-- Whether a character belongs to a word: it can go on in a name. -/
def isWordChar (c : Char) : Bool :=
  c.isAlphanum || c == '_'

/-- The characters from the first to the second. -/
abbrev CharRange := Char × Char

namespace CharClass

/-- The ranges of a class. -/
def ranges? (name : String) : Option (List CharRange) :=
  match name with
  | "alpha" => some [('A', 'Z'), ('a', 'z')]
  | "digit" => some [('0', '9')]
  | "alnum" => some [('0', '9'), ('A', 'Z'), ('a', 'z')]
  | "upper" => some [('A', 'Z')]
  | "lower" => some [('a', 'z')]
  | "space" => some [('\t', '\r'), (' ', ' ')]
  | "blank" => some [('\t', '\t'), (' ', ' ')]
  | "punct" => some [('!', '/'), (':', '@'), ('[', '\x60'), ('\x7b', '~')]
  | "print" => some [(' ', '~')]
  | "graph" => some [('!', '~')]
  | "cntrl" => some [('\x00', '\x1f'), ('\x7f', '\x7f')]
  | "xdigit" => some [('0', '9'), ('A', 'F'), ('a', 'f')]
  | _ => none

/-- Whether some range holds the character. -/
def holds (ranges : List CharRange) (c : Char) : Bool :=
  ranges.any fun r => r.1 ≤ c && c ≤ r.2

/-- The name of a class after its opening sign, and what comes after its closing sign. -/
def takeName (cs : List Char) : Option (String × List Char) :=
  let name := cs.takeWhile Char.isLower
  match cs.drop name.length with
  | ':' :: ']' :: rest => some (String.ofList name, rest)
  | _ => none

/-- All characters of ranges, in order. -/
def members (ranges : List CharRange) : List Char :=
  ranges.flatMap fun r =>
    (List.range (r.2.toNat + 1 - r.1.toNat)).map fun i => Char.ofNat (r.1.toNat + i)

end CharClass

end Pipeline.Shell
