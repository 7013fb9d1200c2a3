import Pipeline.Yaml.Token.Block
import Pipeline.Yaml.Token.Plain
import Pipeline.Yaml.Token.Quoted
import Pipeline.Yaml.Token.Tag

/-!
# The tokens of a text

A key without a mark of its own is known only by the colon after it. So a token that could begin
such a key is held back, with those after it, until it is clear whether one does: until the colon
comes, the line ends, or 1024 octets are read. A text that stops being YAML has the tokens that
were given out before the error, and the error.
-/

namespace Pipeline.Yaml

/-- A token that may turn out to begin a key. -/
structure KeyCandidate where
  /-- Whether the token can still begin a key. -/
  live : Bool
  /-- Whether it is an error if it does not. -/
  required : Bool
  /-- The number of the token in the stream. -/
  number : Nat
  index : Nat
  line : Nat
  column : Nat
  deriving Repr

/-- No token is under suspicion. -/
def KeyCandidate.none : KeyCandidate :=
  ⟨false, false, 0, 0, 0, 0⟩

/-- The state between two tokens. -/
structure Scanner where
  cursor : Cursor
  /-- The column of the innermost block, -1 outside of all. -/
  indent : Int := -1
  /-- The columns of the blocks around it. -/
  outer : List Int := []
  /-- The candidates of the open brackets, the innermost first, and of the block around them. -/
  candidates : List KeyCandidate := [.none]
  /-- Whether a key may begin here. -/
  keyAllowed : Bool := true
  /-- The tokens held back. -/
  held : List Token := []
  /-- The tokens given out, the last first. -/
  given : List Token := []
  /-- How many tokens were given out. -/
  count : Nat := 0
  finished : Bool := false

namespace Scanner

/-- Whether the place is between brackets. -/
def inFlow (s : Scanner) : Bool :=
  2 ≤ s.candidates.length

/-- The scanner with one more token. -/
def add (s : Scanner) (t : Token) : Scanner :=
  { s with held := s.held ++ [t] }

/-- The scanner with a token put in before the one of a number. -/
def insertAt (s : Scanner) (number : Nat) (t : Token) : Scanner :=
  { s with held := s.held.insertIdx (number - s.count) t }

/-- The innermost candidate. -/
def candidate (s : Scanner) : KeyCandidate :=
  s.candidates.headD .none

/-- The scanner with another innermost candidate. -/
def setCandidate (s : Scanner) (k : KeyCandidate) : Scanner :=
  { s with candidates := k :: s.candidates.drop 1 }

/-- The innermost candidate is given up; one that had to begin a key is an error. -/
def dropCandidate (s : Scanner) : Except SyntaxError Scanner :=
  let k := s.candidate
  if k.live && k.required then .error .missingColon
  else .ok (s.setCandidate { k with live := false })

/-- The next token may begin a key. -/
def markCandidate (s : Scanner) : Except SyntaxError Scanner :=
  if s.keyAllowed then do
    let s ← s.dropCandidate
    .ok <| s.setCandidate
      { live := true
        required := !s.inFlow && s.indent == (s.cursor.column : Int)
        number := s.count + s.held.length
        index := s.cursor.index
        line := s.cursor.line
        column := s.cursor.column }
  else .ok s

/-- Whether a candidate is too far behind to begin a key. -/
def isStale (c : Cursor) (k : KeyCandidate) : Bool :=
  k.live && (k.line < c.line || k.index + 1024 < c.index)

/-- Candidates that are too far behind are given up. -/
def dropStale (s : Scanner) : Except SyntaxError Scanner :=
  if s.candidates.any fun k => isStale s.cursor k && k.required then .error .missingColon
  else
    .ok { s with
      candidates := s.candidates.map fun k =>
        if isStale s.cursor k then { k with live := false } else k }

/-- A block begins at a column if it is deeper; its token goes before the one of a number, or
last. -/
def roll (s : Scanner) (column : Nat) (number : Option Nat) (t : Token) : Scanner :=
  if !s.inFlow && s.indent < (column : Int) then
    let s := { s with outer := s.indent :: s.outer, indent := column }
    match number with
    | some n => s.insertAt n t
    | none => s.add t
  else s

/-- The blocks deeper than a column end. -/
def unrollFrom (column : Int) : List Int → Scanner → Scanner
  | outer, s =>
    match outer with
    | [] => s
    | next :: rest =>
      if column < s.indent then
        unrollFrom column rest { (s.add .blockEnd) with indent := next, outer := rest }
      else s

/-- The blocks deeper than a column end, except between brackets. -/
def unroll (s : Scanner) (column : Int) : Scanner :=
  if s.inFlow then s else unrollFrom column s.outer s

/-- The position of the next token: after spaces, tabs where they are allowed, comments and line
ends; a line end outside of brackets allows a key. The mark of an encoding may begin a line, and
takes a column there. -/
def skipToToken : Nat → Scanner → Scanner
  | 0, s => s
  | fuel + 1, s =>
    let c := if s.cursor.column = 0 ∧ s.cursor.at? '\ufeff' then s.cursor.advance 1 else s.cursor
    let tabs := s.inFlow || !s.keyAllowed
    let c := (c.skipWhile fun ch => ch == ' ' || (tabs && ch == '\t')).skipComment
    if c.peek?.any isBreak then
      skipToToken fuel
        { s with cursor := c.skipBreak, keyAllowed := s.keyAllowed || !s.inFlow }
    else { s with cursor := c }

/-- The scanner after a token of `n` characters. -/
def take (s : Scanner) (n : Nat) (t : Token) : Scanner :=
  { s.add t with cursor := s.cursor.advance n }

/-- The scanner after a scalar or another token that was read up to a position. -/
def takeTo (s : Scanner) (c : Cursor) (t : Token) : Scanner :=
  { s.add t with cursor := c }

/-- All blocks end, and no key can begin. -/
def leaveBlocks (s : Scanner) : Except SyntaxError Scanner := do
  let s ← (s.unroll (-1)).dropCandidate
  .ok { s with keyAllowed := false }

/-- The end of the text, which ends its last line. -/
def fetchEnd (s : Scanner) : Except SyntaxError Scanner := do
  let c := s.cursor
  let c := if c.column = 0 then c else { c with column := 0, line := c.line + 1 }
  let s ← { s with cursor := c }.leaveBlocks
  .ok { s.add .streamEnd with finished := true }

/-- A directive. -/
def fetchDirective (s : Scanner) : Except SyntaxError Scanner := do
  let s ← s.leaveBlocks
  let (t, c) ← scanDirective s.cursor
  .ok (s.takeTo c t)

/-- A marker of a document. -/
def fetchMarker (s : Scanner) (t : Token) : Except SyntaxError Scanner := do
  let s ← s.leaveBlocks
  .ok (s.take 3 t)

/-- An opening bracket. -/
def fetchOpening (s : Scanner) (t : Token) : Except SyntaxError Scanner := do
  let s ← s.markCandidate
  let s := { s with candidates := .none :: s.candidates, keyAllowed := true }
  .ok (s.take 1 t)

/-- A closing bracket. -/
def fetchClosing (s : Scanner) (t : Token) : Except SyntaxError Scanner := do
  let s ← s.dropCandidate
  let s := if s.inFlow then { s with candidates := s.candidates.drop 1 } else s
  .ok ({ s with keyAllowed := false }.take 1 t)

/-- A comma between brackets. -/
def fetchComma (s : Scanner) : Except SyntaxError Scanner := do
  let s ← s.dropCandidate
  .ok ({ s with keyAllowed := true }.take 1 .flowEntry)

/-- The dash of a list. -/
def fetchDash (s : Scanner) : Except SyntaxError Scanner :=
  if !s.inFlow && !s.keyAllowed then .error .entryNotAllowed
  else do
    let s ← (s.roll s.cursor.column none .blockSequenceStart).dropCandidate
    .ok ({ s with keyAllowed := true }.take 1 .blockEntry)

/-- The question mark of a key. -/
def fetchKey (s : Scanner) : Except SyntaxError Scanner :=
  if !s.inFlow && !s.keyAllowed then .error .keyNotAllowed
  else do
    let s ← (s.roll s.cursor.column none .blockMappingStart).dropCandidate
    .ok ({ s with keyAllowed := !s.inFlow }.take 1 .key)

/-- The colon of a value; the candidate before it, if there is one, begins a key. -/
def fetchValue (s : Scanner) : Except SyntaxError Scanner :=
  let k := s.candidate
  if k.live then
    let s := (s.insertAt k.number .key).roll k.column (some k.number) .blockMappingStart
    let s := s.setCandidate { k with live := false }
    .ok ({ s with keyAllowed := false }.take 1 .value)
  else if !s.inFlow && !s.keyAllowed then .error .valueNotAllowed
  else
    let s := s.roll s.cursor.column none .blockMappingStart
    .ok ({ s with keyAllowed := !s.inFlow }.take 1 .value)

/-- An anchor or an alias. -/
def fetchAnchor (s : Scanner) (t : String → Token) : Except SyntaxError Scanner := do
  let s ← s.markCandidate
  let (name, c) ← scanAnchor s.cursor
  .ok ({ s with keyAllowed := false }.takeTo c (t name))

/-- A tag. -/
def fetchTag (s : Scanner) : Except SyntaxError Scanner := do
  let s ← s.markCandidate
  let (t, c) ← scanTag s.inFlow s.cursor
  .ok ({ s with keyAllowed := false }.takeTo c t)

/-- A block scalar. -/
def fetchBlock (s : Scanner) (literal : Bool) : Except SyntaxError Scanner := do
  let s ← s.dropCandidate
  let (text, c) ← scanBlock literal s.indent s.cursor
  .ok ({ s with keyAllowed := true }.takeTo c
    (.scalar text (if literal then .literal else .folded)))

/-- A quoted scalar. -/
def fetchQuoted (s : Scanner) (single : Bool) : Except SyntaxError Scanner := do
  let s ← s.markCandidate
  let (text, c) ← scanQuoted single s.cursor
  .ok ({ s with keyAllowed := false }.takeTo c
    (.scalar text (if single then .singleQuoted else .doubleQuoted)))

/-- A plain scalar; the end of a line in it allows a key after it. -/
def fetchPlain (s : Scanner) : Except SyntaxError Scanner := do
  let s ← s.markCandidate
  let p ← scanPlain s.inFlow s.indent s.cursor
  .ok ({ s with keyAllowed := p.beforeBreak }.takeTo p.cursor (.scalar p.text .plain))

/-- Whether a character has a meaning at the start of a token. -/
def isIndicator (c : Char) : Bool :=
  "-?:,[]\x7b\x7d#&*!|>'\"%@\x60".toList.contains c

/-- Whether a plain scalar can begin here. -/
def startsPlain (flow : Bool) (ch : Char) (next : Option Char) : Bool :=
  !(isSpacing ch || isIndicator ch) || (ch == '-' && !next.any Text.isGap) ||
    (!flow && (ch == '?' || ch == ':') && !spacingOrEnd next)

/-- The token at the cursor. -/
def fetchAt (s : Scanner) : Except SyntaxError Scanner :=
  let c := s.cursor
  let next := c.ahead? 1
  match c.peek? with
  | none => s.fetchEnd
  | some ch =>
    if c.column == 0 && ch == '%' then s.fetchDirective
    else if c.atMarkerOf '-' then s.fetchMarker .documentStart
    else if c.atMarkerOf '.' then s.fetchMarker .documentEnd
    else if ch == '[' then s.fetchOpening .flowSequenceStart
    else if ch == '\x7b' then s.fetchOpening .flowMappingStart
    else if ch == ']' then s.fetchClosing .flowSequenceEnd
    else if ch == '\x7d' then s.fetchClosing .flowMappingEnd
    else if ch == ',' then s.fetchComma
    else if ch == '-' && spacingOrEnd next then s.fetchDash
    else if ch == '?' && (s.inFlow || spacingOrEnd next) then s.fetchKey
    else if ch == ':' && (s.inFlow || spacingOrEnd next) then s.fetchValue
    else if ch == '*' then s.fetchAnchor .alias
    else if ch == '&' then s.fetchAnchor .anchor
    else if ch == '!' then s.fetchTag
    else if ch == '|' && !s.inFlow then s.fetchBlock true
    else if ch == '>' && !s.inFlow then s.fetchBlock false
    else if ch == '\'' then s.fetchQuoted true
    else if ch == '"' then s.fetchQuoted false
    else if startsPlain s.inFlow ch next then s.fetchPlain
    else .error .unexpectedCharacter

/-- The next token. -/
def fetch (s : Scanner) : Except SyntaxError Scanner := do
  let s ← (skipToToken (s.cursor.rest.length + 1) s).dropStale
  (s.unroll s.cursor.column).fetchAt

/-- The held tokens are given out up to the first that may begin a key. -/
def giveFrom : List Token → Scanner → Scanner
  | [], s => { s with held := [] }
  | t :: ts, s =>
    if s.candidates.any fun k => k.live && k.number == s.count then { s with held := t :: ts }
    else giveFrom ts { s with given := t :: s.given, count := s.count + 1 }

/-- The held tokens are given out as far as they can be, once the candidates that are too far
behind are given up. -/
def give (s : Scanner) : Except SyntaxError Scanner :=
  s.dropStale.map fun s => giveFrom s.held s

/-- The tokens from here on, fetched at most `fuel` times. -/
def tokensWith : Nat → Scanner → List Token × Option SyntaxError
  | 0, s => (s.given.reverse, none)
  | fuel + 1, s =>
    match s.fetch.bind give with
    | .error e => (s.given.reverse, some e)
    | .ok s =>
      if s.finished && s.held.isEmpty then (s.given.reverse, none) else tokensWith fuel s

end Scanner

/-- Whether a character may stand in a YAML text. -/
def isAllowed (c : Char) : Bool :=
  let n := c.toNat
  n == 0x9 || n == 0xa || n == 0xd || (0x20 ≤ n && n ≤ 0x7e) || n == 0x85 ||
    (0xa0 ≤ n && n ≤ 0xd7ff) || (0xe000 ≤ n && n ≤ 0xfffd) || 0x10000 ≤ n

/-- The tokens of a text, and the error that ends them. A text with a character that may not stand
in one has no tokens. -/
def tokensOf (text : String) : List Token × Option SyntaxError :=
  let cs := text.toList
  if cs.all isAllowed then
    Scanner.tokensWith (cs.length + 3)
      { cursor := .start cs, given := [.streamStart], count := 1 }
  else ([], some .controlCharacter)

end Pipeline.Yaml
