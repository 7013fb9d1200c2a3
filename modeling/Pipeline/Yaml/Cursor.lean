import Pipeline.Text.Blank
import Pipeline.Text.Utf8

/-!
# Reading positions in a YAML text

A cursor is what is left of the text, with the line and column reached and the number of octets
read. Besides the newline and the carriage return, the next-line character and the line and
paragraph separators end a line.
-/

namespace Pipeline.Yaml

/-- Whether a character ends a line. -/
def isBreak (c : Char) : Bool :=
  c == '\r' || c == '\n' || c == '\x85' || c == '\u2028' || c == '\u2029'

/-- Whether a character is a gap or ends a line. -/
def isSpacing (c : Char) : Bool :=
  Text.isGap c || isBreak c

/-- Whether a character may stand in a name. -/
def isNameChar (c : Char) : Bool :=
  c.isAlphanum || c == '_' || c == '-'

/-- Whether the text ends or a line ends. -/
def breakOrEnd (c? : Option Char) : Bool :=
  c?.elim true isBreak

/-- Whether the text ends, a line ends, or a gap comes. -/
def spacingOrEnd (c? : Option Char) : Bool :=
  c?.elim true isSpacing

/-- A reading position. -/
structure Cursor where
  rest : List Char
  /-- How many octets of the text were read. -/
  index : Nat
  line : Nat
  column : Nat
  deriving Repr

namespace Cursor

/-- The beginning of a text. -/
def start (cs : List Char) : Cursor :=
  ⟨cs, 0, 0, 0⟩

/-- The next character. -/
def peek? (c : Cursor) : Option Char :=
  c.rest.head?

/-- The character `n` places ahead. -/
def ahead? (c : Cursor) (n : Nat) : Option Char :=
  c.rest[n]?

/-- Whether the next character is `ch`. -/
def at? (c : Cursor) (ch : Char) : Bool :=
  c.rest.head? == some ch

/-- The position after `n` characters of the line. -/
def advance (c : Cursor) (n : Nat) : Cursor :=
  { c with
    rest := c.rest.drop n
    index := c.index + Text.octets (c.rest.take n)
    column := c.column + n }

/-- The characters at the front with a property, and the position after them. -/
def span (c : Cursor) (p : Char → Bool) : List Char × Cursor :=
  let found := c.rest.takeWhile p
  (found, c.advance found.length)

/-- The position after the characters at the front with a property. -/
def skipWhile (c : Cursor) (p : Char → Bool) : Cursor :=
  (c.span p).2

/-- The end of a line as it counts in a text, and the position after it: a separator stands for
itself, every other end for a newline. -/
def takeBreak (c : Cursor) : List Char × Cursor :=
  match c.rest with
  | '\r' :: '\n' :: rest => (['\n'], ⟨rest, c.index + 2, c.line + 1, 0⟩)
  | ch :: rest =>
    let after : Cursor := ⟨rest, c.index + ch.utf8Size, c.line + 1, 0⟩
    if ch = '\u2028' ∨ ch = '\u2029' then ([ch], after)
    else if isBreak ch then (['\n'], after)
    else ([], c)
  | [] => ([], c)

/-- The position after the end of a line, if one comes. -/
def skipBreak (c : Cursor) : Cursor :=
  c.takeBreak.2

/-- The position after gaps and a comment. -/
def skipComment (c : Cursor) : Cursor :=
  if c.at? '#' then c.skipWhile fun ch => !isBreak ch else c

/-- Whether a line begins with three of `ch` that nothing else follows. -/
def atMarkerOf (c : Cursor) (ch : Char) : Bool :=
  c.column == 0 && c.at? ch && c.ahead? 1 == some ch && c.ahead? 2 == some ch &&
    spacingOrEnd (c.ahead? 3)

/-- Whether a line begins with the marker that starts or ends a document. -/
def atMarker (c : Cursor) : Bool :=
  c.atMarkerOf '-' || c.atMarkerOf '.'

end Cursor

/-- What the breaks between two lines of a scalar become: the first newline is a space when it
stands alone, and is dropped when more breaks follow. -/
def foldBreaks (first more : List Char) : List Char :=
  match first with
  | '\n' :: _ => if more.isEmpty then [' '] else more
  | _ => first ++ more

/-- The spacing between two pieces of a scalar. -/
inductive Spacing where
  | gaps (cs : List Char)
  | breaks (first more : List Char)

/-- What spacing becomes in the value of a scalar. -/
def Spacing.fold : Spacing → List Char
  | .gaps cs => cs
  | .breaks first more => foldBreaks first more

/-- Whether the spacing goes over the end of a line. -/
def Spacing.isBreak : Spacing → Bool
  | .gaps _ => false
  | .breaks _ _ => true

/-- The spacing with one more break. -/
def Spacing.addBreak (b : List Char) : Spacing → Spacing
  | .gaps _ => .breaks b []
  | .breaks first more => .breaks first (more ++ b)

/-- The spacing with one more gap, which counts on the first line only. -/
def Spacing.addGap (c : Char) : Spacing → Spacing
  | .gaps cs => .gaps (cs ++ [c])
  | .breaks first more => .breaks first more

end Pipeline.Yaml
