import Pipeline.Yaml.Cursor
import Pipeline.Yaml.Error

/-!
# Block scalars

A literal scalar keeps the breaks between its lines; a folded one turns a single break between two
lines that do not begin with a gap into a space. The header may fix the indentation and says what is
kept of the breaks at the end: the first, none or all.
-/

namespace Pipeline.Yaml

/-- What is kept of the breaks at the end of a block scalar. -/
inductive Chomping where
  | strip
  | clip
  | keep
  deriving DecidableEq, Repr

/-- The chomping of a mark. -/
def Chomping.ofMark? (c? : Option Char) : Option Chomping :=
  match c? with
  | some '+' => some .keep
  | some '-' => some .strip
  | _ => none

/-- The depth that a header asks for, zero being refused. -/
def depthOf? (c? : Option Char) : Except SyntaxError (Option Nat) :=
  match c? with
  | some c =>
    if c = '0' then .error .badBlockHeader
    else if c.isDigit then .ok (some (c.toNat - 48))
    else .ok none
  | none => .ok none

/-- The chomping and depth of a header, in either order, and the position after it. -/
def blockHeader (c : Cursor) : Except SyntaxError (Chomping × Option Nat × Cursor) :=
  match Chomping.ofMark? c.peek? with
  | some chomping => do
    let c := c.advance 1
    match ← depthOf? c.peek? with
    | some n => .ok (chomping, some n, c.advance 1)
    | none => .ok (chomping, none, c)
  | none => do
    match ← depthOf? c.peek? with
    | none => .ok (.clip, none, c)
    | some n =>
      let c := c.advance 1
      match Chomping.ofMark? c.peek? with
      | some chomping => .ok (chomping, some n, c.advance 1)
      | none => .ok (.clip, some n, c)

/-- The position after the indentation, up to `indent` spaces if it is known. -/
def skipIndent (indent : Nat) (c : Cursor) : Cursor :=
  let spaces := (c.rest.takeWhile fun ch => ch == ' ').length
  c.advance (if indent = 0 then spaces else min spaces (indent - c.column))

/-- The empty lines at the front and the indentation of the next one: the breaks of those lines, the
greatest column seen, and the position reached. -/
def blockBreaks (indent : Nat) :
    Nat → List Char → Nat → Cursor → Except SyntaxError (List Char × Nat × Cursor)
  | 0, breaks, deepest, c => .ok (breaks, deepest, c)
  | fuel + 1, breaks, deepest, c =>
    let c := skipIndent indent c
    let deepest := max deepest c.column
    if (indent = 0 ∨ c.column < indent) ∧ c.at? '\t' then .error .tabInIndentation
    else if c.peek?.any isBreak then
      let (b, c) := c.takeBreak
      blockBreaks indent fuel (breaks ++ b) deepest c
    else .ok (breaks, deepest, c)

/-- A block scalar under way. -/
structure BlockText where
  done : List Char := []
  /-- The break at the end of the last line. -/
  lastBreak : List Char := []
  /-- The breaks of the empty lines after that. -/
  emptyLines : List Char := []
  /-- Whether the last line began with a gap. -/
  afterGap : Bool := false

/-- The text with the breaks before a next line put in, which begins with a gap or not. -/
def BlockText.beforeLine (t : BlockText) (literal gap : Bool) : List Char :=
  if !literal && t.lastBreak.head? == some '\n' && !t.afterGap && !gap then
    t.done ++ (if t.emptyLines.isEmpty then [' '] else []) ++ t.emptyLines
  else t.done ++ t.lastBreak ++ t.emptyLines

/-- The lines of a block scalar that are indented by `indent`. -/
def blockLines (literal : Bool) (indent : Nat) :
    Nat → BlockText → Cursor → Except SyntaxError (BlockText × Cursor)
  | 0, t, c => .ok (t, c)
  | fuel + 1, t, c =>
    if c.column ≠ indent ∨ c.rest.isEmpty then .ok (t, c)
    else do
      let gap := c.peek?.any Text.isGap
      let (line, c) := c.span fun ch => !isBreak ch
      let (lastBreak, c) := c.takeBreak
      let (emptyLines, _, c) ← blockBreaks indent (c.rest.length + 1) [] 0 c
      blockLines literal indent fuel
        ⟨t.beforeLine literal gap ++ line, lastBreak, emptyLines, gap⟩ c

/-- The text with what is kept of the breaks at its end. -/
def BlockText.finish (t : BlockText) (chomping : Chomping) : String :=
  String.ofList <|
    match chomping with
    | .strip => t.done
    | .clip => t.done ++ t.lastBreak
    | .keep => t.done ++ t.lastBreak ++ t.emptyLines

/-- The block scalar at the cursor, which stands on its mark, inside a block indented by `outer`. -/
def scanBlock (literal : Bool) (outer : Int) (c : Cursor) :
    Except SyntaxError (String × Cursor) := do
  let (chomping, depth, c) ← blockHeader (c.advance 1)
  let c := (c.skipWhile Text.isGap).skipComment
  if !breakOrEnd c.peek? then .error .badBlockHeader
  else
    let c := c.skipBreak
    let fixed : Nat := (depth.map fun n => outer.toNat + n).getD 0
    let (breaks, deepest, c) ← blockBreaks fixed (c.rest.length + 1) [] 0 c
    let indent := if fixed = 0 then max (max deepest (outer + 1).toNat) 1 else fixed
    let (t, c) ← blockLines literal indent (c.rest.length + 1) { emptyLines := breaks } c
    .ok (t.finish chomping, c)

end Pipeline.Yaml
