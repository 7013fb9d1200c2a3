import Pipeline.Text.Digit
import Pipeline.Yaml.Cursor
import Pipeline.Yaml.Error

/-!
# Quoted scalars

Between single quotes a quote is written twice and nothing else is special; between double quotes a
backslash starts an escape. Gaps around the end of a line are dropped and the breaks are folded,
unless a backslash ends the line.
-/

namespace Pipeline.Yaml

/-- What an escape of one letter stands for. -/
def escapeOf? (c : Char) : Option Char :=
  match c with
  | '0' => some '\x00'
  | 'a' => some '\x07'
  | 'b' => some '\x08'
  | 't' => some '\t'
  | '\t' => some '\t'
  | 'n' => some '\n'
  | 'v' => some '\x0b'
  | 'f' => some '\x0c'
  | 'r' => some '\r'
  | 'e' => some '\x1b'
  | ' ' => some ' '
  | '"' => some '"'
  | '/' => some '/'
  | '\\' => some '\\'
  | 'N' => some '\x85'
  | '_' => some '\xa0'
  | 'L' => some '\u2028'
  | 'P' => some '\u2029'
  | _ => none

/-- How many digits the code of an escape has. -/
def codeLength? (c : Char) : Option Nat :=
  match c with
  | 'x' => some 2
  | 'u' => some 4
  | 'U' => some 8
  | _ => none

/-- The character of a code, unless the code is a surrogate or too great. -/
def charOfCode? (n : Nat) : Option Char :=
  if (0xd800 ≤ n ∧ n ≤ 0xdfff) ∨ 0x10ffff < n then none else some (Char.ofNat n)

/-- The character of an escape after its backslash, and how many characters it takes. -/
def readEscape (cs : List Char) : Except SyntaxError (Char × Nat) :=
  match cs with
  | [] => .error .badEscape
  | c :: cs =>
    match escapeOf? c, codeLength? c with
    | some x, _ => .ok (x, 1)
    | none, none => .error .badEscape
    | none, some n =>
      if cs.length < n then .error .badEscape
      else
        match ((cs.take n).mapM Text.hexValue?).bind fun ds =>
            charOfCode? (ds.foldl (fun v d => v * 16 + d) 0) with
        | some x => .ok (x, n + 1)
        | none => .error .badEscape

/-- What ends a piece of a quoted scalar. -/
inductive PieceEnd where
  /-- Spacing, the quote, or the end of the text. -/
  | here
  /-- A backslash at the end of a line, which is read. -/
  | joined

/-- The characters up to the next spacing or the quote, after those in `acc`. -/
def quotedPiece (single : Bool) :
    Nat → List Char → Cursor → Except SyntaxError (List Char × PieceEnd × Cursor)
  | 0, acc, c => .ok (acc.reverse, .here, c)
  | fuel + 1, acc, c =>
    match c.rest with
    | [] => .ok (acc.reverse, .here, c)
    | ch :: rest =>
      if isSpacing ch then .ok (acc.reverse, .here, c)
      else if single && ch == '\'' && rest.head? == some '\'' then
        quotedPiece single fuel ('\'' :: acc) (c.advance 2)
      else if ch == (if single then '\'' else '"') then .ok (acc.reverse, .here, c)
      else if !single && ch == '\\' && rest.head?.any isBreak then
        .ok (acc.reverse, .joined, (c.advance 1).skipBreak)
      else if !single && ch == '\\' then do
        let (x, n) ← readEscape rest
        quotedPiece single fuel (x :: acc) (c.advance (n + 1))
      else quotedPiece single fuel (ch :: acc) (c.advance 1)

/-- The spacing at the front. -/
def quotedSpacing : Nat → Spacing → Cursor → Spacing × Cursor
  | 0, s, c => (s, c)
  | fuel + 1, s, c =>
    match c.peek? with
    | none => (s, c)
    | some ch =>
      if Text.isGap ch then quotedSpacing fuel (s.addGap ch) (c.advance 1)
      else if isBreak ch then
        let (b, c) := c.takeBreak
        quotedSpacing fuel (s.addBreak b) c
      else (s, c)

/-- The pieces of a quoted scalar from here to its closing quote, after the text `done`. -/
def quotedFrom (single : Bool) :
    Nat → List Char → Cursor → Except SyntaxError (String × Cursor)
  | 0, _, _ => .error .endInScalar
  | fuel + 1, done, c =>
    if c.atMarker then .error .markerInScalar
    else if c.rest.isEmpty then .error .endInScalar
    else do
      let (piece, pieceEnd, c) ← quotedPiece single (c.rest.length + 1) [] c
      let done := done ++ piece
      if c.at? (if single then '\'' else '"') then .ok (String.ofList done, c.advance 1)
      else
        let before : Spacing :=
          match pieceEnd with
          | .here => .gaps []
          | .joined => .breaks [] []
        let (spacing, c) := quotedSpacing c.rest.length before c
        quotedFrom single fuel (done ++ spacing.fold) c

/-- The quoted scalar at the cursor, which stands on the opening quote. -/
def scanQuoted (single : Bool) (c : Cursor) : Except SyntaxError (String × Cursor) :=
  quotedFrom single (c.rest.length + 1) [] (c.advance 1)

end Pipeline.Yaml
