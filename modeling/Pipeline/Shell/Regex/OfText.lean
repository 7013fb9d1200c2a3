import Pipeline.Shell.Regex

/-!
# Regular expressions as texts

Expressions are written in one of two ways: in the basic one a backslash makes an operator of a
parenthesis, a brace, a bar or a sign of repetition, in the extended one it takes the meaning away.
-/

namespace Pipeline.Shell

/-- Why a text is no regular expression. -/
inductive RegexError where
  | badPattern
  | unmatchedBracket
  | unmatchedOpen
  | unmatchedClose
  | unmatchedBrace
  | badRepetition
  | badRange
  | badClass
  | badReference
  | nothingToRepeat
  | trailingBackslash
  | tooBig
  deriving DecidableEq, Repr

/-- What is wrong in words. -/
def RegexError.message : RegexError → String
  | badPattern => "Invalid regular expression"
  | unmatchedBracket => "Unmatched [, [^, [:, [., or [="
  | unmatchedOpen => "Unmatched ( or \\("
  | unmatchedClose => "Unmatched ) or \\)"
  | unmatchedBrace => "Unmatched \\\x7b"
  | badRepetition => "Invalid content of \\\x7b\\\x7d"
  | badRange => "Invalid range end"
  | badClass => "Invalid character class name"
  | badReference => "Invalid back reference"
  | nothingToRepeat => "Invalid preceding regular expression"
  | trailingBackslash => "Trailing backslash"
  | tooBig => "Regular expression too big"

/-- How an expression is written. -/
structure RegexStyle where
  /-- Operators need no backslash. -/
  extended : Bool := false
  /-- A backslash before some letters stands for a character that cannot be seen. -/
  letters : Bool := false
  /-- A backslash keeps its meaning inside of brackets. -/
  inSets : Bool := false
  /-- A parenthesis, a brace or a sign of repetition in the wrong place is no error. -/
  lenient : Bool := false
  /-- A letter after a backslash may stand for digits. -/
  digits : Bool := false
  /-- A backslash before a letter or a digit has no meaning of its own. -/
  bare : Bool := false
  /-- A text has several lines, and a match of a single character does not go beyond one. -/
  rows : Bool := false

namespace Regex

/-- The character that a letter after a backslash stands for. -/
def controlOf? (c : Char) : Option Char :=
  match c with
  | 'n' => some '\n'
  | 't' => some '\t'
  | 'r' => some '\r'
  | 'f' => some '\x0c'
  | 'v' => some '\x0b'
  | 'a' => some '\x07'
  | _ => none

/-- A sign of an expression. -/
inductive Sign where
  | plain (c : Char)
  | operator (c : Char)
  | item (r : Regex)
  deriving Inhabited

/-- The ranges of a word's characters. -/
def wordRanges : List CharRange :=
  [('0', '9'), ('A', 'Z'), ('_', '_'), ('a', 'z')]

/-- The ranges of blanks and line ends. -/
def spaceRanges : List CharRange :=
  [('\t', '\r'), (' ', ' ')]

/-- The expression that a letter after a backslash stands for. -/
def escaped? (c : Char) : Option Regex :=
  match c with
  | 'w' => some (.oneOf false wordRanges)
  | 'W' => some (.oneOf true wordRanges)
  | 's' => some (.oneOf false spaceRanges)
  | 'S' => some (.oneOf true spaceRanges)
  | '<' => some .wordStart
  | '>' => some .wordEnd
  | 'b' => some (.wordEdge false)
  | 'B' => some (.wordEdge true)
  | '\x60' => some .lineStart
  | '\'' => some .lineEnd
  | c => if '1' ≤ c ∧ c ≤ '9' then some (.again (c.toNat - 48)) else none

/-- The operators that need a backslash in the basic style alone. -/
def isStyled (c : Char) : Bool :=
  ['(', ')', '|', '+', '?', '\x7b'].contains c

/-- The sign at the front of a text, and the text after it. -/
def takeSign (style : RegexStyle) : List Char → Except RegexError (Option (Sign × List Char))
  | [] => .ok none
  | ['\\'] => .error .trailingBackslash
  | '\\' :: c :: rest =>
    if isStyled c then
      .ok (some (if style.extended then .plain c else .operator c, rest))
    else
      match if style.letters then controlOf? c else none with
      | some control => .ok (some (.plain control, rest))
      | none =>
        match if style.bare then none else escaped? c with
        | some r => .ok (some (.item r, rest))
        | none =>
          if style.digits && (c = 'd' || c = 'D') then
            .ok (some (.item (.oneOf (c = 'D') [('0', '9')]), rest))
          else .ok (some (.plain c, rest))
  | c :: rest =>
    let operator := ['.', '*', '[', '^', '$'].contains c || (isStyled c && style.extended)
    .ok (some (if operator then .operator c else .plain c, rest))

/-- The name between two equal signs inside of brackets, such as the colons of a class, and the text
after it. -/
def takeNamed (sign : Char) : Nat → List Char → List Char → Option (List Char × List Char)
  | 0, _, _ => none
  | _, _, [] => none
  | fuel + 1, acc, c :: rest =>
    if c = sign ∧ rest.head? = some ']' then some (acc.reverse, rest.drop 1)
    else takeNamed sign fuel (c :: acc) rest

/-- One member of a set: its ranges, whether it is a single character, and the text after it. -/
def takeMember (style : RegexStyle) (cs : List Char) :
    Except RegexError (List CharRange × Option Char × List Char) :=
  match cs with
  | [] => .error .unmatchedBracket
  | '[' :: sign :: rest =>
    if sign = ':' ∨ sign = '.' ∨ sign = '=' then
      match takeNamed sign (rest.length + 1) [] rest with
      | none => .error .unmatchedBracket
      | some (name, rest) =>
        if sign = ':' then
          match CharClass.ranges? (String.ofList name) with
          | some ranges => .ok (ranges, none, rest)
          | none => .error .badClass
        else
          match name with
          | [c] => .ok ([(c, c)], some c, rest)
          | _ => .error .badRange
    else .ok ([('[', '[')], some '[', sign :: rest)
  | '\\' :: c :: rest =>
    match if style.letters then controlOf? c else none with
    | some control => .ok ([(control, control)], some control, rest)
    | none =>
      if style.inSets then .ok ([(c, c)], some c, rest)
      else .ok ([('\\', '\\')], some '\\', c :: rest)
  | c :: rest => .ok ([(c, c)], some c, rest)

/-- The ranges up to the closing bracket, and the text after it. -/
def takeMembers (style : RegexStyle) :
    Nat → Bool → List Char → Except RegexError (List CharRange × List Char)
  | 0, _, _ => .error .unmatchedBracket
  | fuel + 1, first, cs => do
    match cs with
    | ']' :: rest =>
      if !first then return ([], rest)
    | _ => pure ()
    let (ranges, low?, rest) ← takeMember style cs
    match low?, rest with
    | _, '-' :: ']' :: _ =>
      let (more, rest) ← takeMembers style fuel false rest
      return (ranges ++ more, rest)
    | some low, '-' :: more =>
      let (_, high?, rest) ← takeMember style more
      match high? with
      | none => throw .badRange
      | some high =>
        if high < low then throw .badRange
        let (more, rest) ← takeMembers style fuel false rest
        return ((low, high) :: more, rest)
    | _, rest =>
      let (more, rest) ← takeMembers style fuel false rest
      return (ranges ++ more, rest)

/-- The set after an opening bracket, and the text after it. -/
def takeSet (style : RegexStyle) (cs : List Char) : Except RegexError (Regex × List Char) := do
  if cs.isEmpty then throw .badPattern
  let (negated, cs) := match cs with | '^' :: rest => (true, rest) | _ => (false, cs)
  let (ranges, rest) ← takeMembers style (cs.length + 1) true cs
  return (.oneOf negated (if negated && style.rows then ('\n', '\n') :: ranges else ranges), rest)

/-- The greatest number of repetitions. -/
def repetitionLimit : Nat := 32767

/-- The bounds of a repetition after its brace, and the text after them. -/
def takeBounds (style : RegexStyle) (cs : List Char) :
    Except RegexError (Nat × Option Nat × List Char) := do
  let number (ds : List Char) : Nat := ((String.ofList ds).toNat?).getD 0
  let low := cs.takeWhile Char.isDigit
  let rest := cs.drop low.length
  let (high, rest) : Option Nat × List Char :=
    match rest with
    | ',' :: rest =>
      let high := rest.takeWhile Char.isDigit
      (if high.isEmpty then none else some (number high), rest.drop high.length)
    | rest => (some (number low), rest)
  if rest.isEmpty then throw .unmatchedBrace
  let rest? : Option (List Char) :=
    match style.extended, rest with
    | true, '\x7d' :: rest => some rest
    | false, '\\' :: '\x7d' :: rest => some rest
    | _, _ => none
  match rest? with
  | none => throw .badRepetition
  | some rest =>
    let counted := !low.isEmpty || cs.head? == some ','
    if !counted || high.any fun h => h < number low then throw .badRepetition
    if repetitionLimit < number low || high.any fun h => repetitionLimit < h then throw .tooBig
    return (number low, high, rest)

/-- Where an expression is read: the text that is left, the groups that were opened, and the signs
of repetition with nothing before them. -/
structure Reading where
  rest : List Char
  groups : Nat := 0
  idle : List String := []

/-- A reader of expressions. -/
abbrev Reader := StateT Reading (Except RegexError)

/-- The next sign, which is read. -/
def next (style : RegexStyle) : Reader (Option Sign) := do
  match ← takeSign style (← get).rest with
  | none => return none
  | some (sign, rest) =>
    modify fun s => { s with rest := rest }
    return some sign

/-- The next sign, which is left. -/
def peek (style : RegexStyle) : Reader (Option Sign) := do
  return (← takeSign style (← get).rest).map Prod.fst

/-- A sign of repetition with nothing before it has no effect. -/
def noteIdle (sign : String) : Reader Unit :=
  modify fun s => { s with idle := s.idle ++ [sign] }

/-- An expression with the signs of repetition after it. -/
def takeRepeats (style : RegexStyle) : Nat → Bool → Regex → Reader Regex
  | 0, _, r => return r
  | fuel + 1, twice, r => do
    let saved ← get
    match ← next style with
    | some (.operator c) =>
      if c = '*' ∨ c = '+' ∨ c = '?' then
        if twice && !style.extended && !style.lenient then throw .nothingToRepeat
        let low := if c = '+' then 1 else 0
        takeRepeats style fuel true (.repeated r low (if c = '?' then some 1 else none))
      else if c = '\x7b' then
        if twice && !style.extended && !style.lenient then throw .nothingToRepeat
        match takeBounds style (← get).rest with
        | .ok (low, high, rest) =>
          modify fun s => { s with rest := rest }
          takeRepeats style fuel true (.repeated r low high)
        | .error e =>
          if style.extended && style.lenient && e != .tooBig &&
              !((← get).rest.head?.any fun c => c.isDigit && e == .badRepetition) then
            takeRepeats style fuel false (.both r (.one '\x7b'))
          else throw e
      else
        set saved
        return r
    | _ =>
      set saved
      return r

mutual

/-- The choices up to the end or to a closing parenthesis, which is left. -/
def takeChoices (style : RegexStyle) (inner : Bool) : Nat → Reader Regex
  | 0 => return .empty
  | fuel + 1 => do
    let first ← takeSequence style inner fuel true
    let saved ← get
    match ← next style with
    | some (.operator '|') => return .either first (← takeChoices style inner fuel)
    | _ =>
      set saved
      return first

/-- The parts of an expression up to the end of a choice. -/
def takeSequence (style : RegexStyle) (inner : Bool) : Nat → Bool → Reader Regex
  | 0, _ => return .empty
  | fuel + 1, first => do
    let saved ← get
    let (start, stop) : Regex × Regex :=
      if style.rows then (.rowStart, .rowEnd) else (.lineStart, .lineEnd)
    let andMore (r : Regex) : Reader Regex := do
      let r ← takeRepeats style saved.rest.length false r
      return .both r (← takeSequence style inner fuel false)
    match ← next style with
    | none => return .empty
    | some (.plain c) => andMore (.one c)
    | some (.item (.again n)) =>
      if n ≤ saved.groups then andMore (.again n) else throw .badReference
    | some (.item r) => andMore r
    | some (.operator c) =>
      if c = '|' then
        set saved
        return .empty
      else if c = ')' then
        if inner then
          set saved
          return .empty
        else if style.lenient && style.extended then andMore (.one ')')
        else throw .unmatchedClose
      else if c = '.' then andMore (if style.rows then .oneOf true [('\n', '\n')] else .any)
      else if c = '[' then
        let (r, rest) ← takeSet style (← get).rest
        modify fun s => { s with rest := rest }
        andMore r
      else if c = '(' then
        let number := saved.groups + 1
        modify fun s => { s with groups := number }
        let r ← takeChoices style true fuel
        match ← next style with
        | some (.operator ')') => andMore (.group number r)
        | _ => throw .unmatchedOpen
      else if c = '^' then
        if first || style.extended then
          return .both start (← takeSequence style inner fuel true)
        else andMore (.one c)
      else if c = '$' then
        let final := match ← peek style with
          | none => true
          | some (.operator d) => d == '|' || (d == ')' && inner)
          | _ => false
        if style.extended || final then return .both stop (← takeSequence style inner fuel false)
        else andMore (.one c)
      else if first then
        if c = '*' && !style.extended then andMore (.one c)
        else if style.lenient && style.extended then
          if c = '\x7b' then
            match takeBounds style (← get).rest with
            | .ok (_, _, rest) =>
              modify fun s => { s with rest := rest }
              noteIdle "\x7b...\x7d"
              takeSequence style inner fuel true
            | .error _ => andMore (.one c)
          else
            noteIdle c.toString
            takeSequence style inner fuel true
        else if c = '+' ∨ c = '?' ∨ c = '*' then
          if style.extended then throw .nothingToRepeat else andMore (.one c)
        else throw .nothingToRepeat
      else andMore (.one c)

end

/-- The expression of a text, and the signs of repetition in it with nothing before them. -/
def ofTextWithNotes (style : RegexStyle) (cs : List Char) :
    Except RegexError (Regex × List String) := do
  let (r, s) ← (takeChoices style false (3 * cs.length + 8)).run { rest := cs }
  return (r, s.idle)

/-- The expression of a text. -/
def ofText (style : RegexStyle) (cs : List Char) : Except RegexError Regex :=
  (ofTextWithNotes style cs).map Prod.fst

end Regex

end Pipeline.Shell
