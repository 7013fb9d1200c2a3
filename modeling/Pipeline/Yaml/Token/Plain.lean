import Pipeline.Yaml.Cursor
import Pipeline.Yaml.Error

/-!
# Plain scalars

A plain scalar ends before a colon that spacing follows, before a comment, and inside brackets
before each character that has a meaning there. It goes on over the end of a line as long as the
next line is indented deeply enough; the breaks are folded.
-/

namespace Pipeline.Yaml

/-- Whether a character separates the items between brackets. -/
def isFlowMark (c : Char) : Bool :=
  c == ',' || c == '[' || c == ']' || c == '\x7b' || c == '\x7d'

/-- The characters up to the next spacing or the end of the scalar. A colon between brackets that
looks like the end of a key and is none is refused. -/
def plainWord (flow : Bool) : List Char → Except SyntaxError (List Char)
  | [] => .ok []
  | c :: cs =>
    if isSpacing c then .ok []
    else if flow && c == ':' && cs.head?.any (fun d => isFlowMark d || d == '?') then
      .error .unexpectedColon
    else if (c == ':' && spacingOrEnd cs.head?) || (flow && isFlowMark c) then .ok []
    else (plainWord flow cs).map (c :: ·)

/-- The spacing at the front; a tab on a line that is not indented by `indent` is refused. -/
def plainSpacing (indent : Int) : Nat → Spacing → Cursor → Except SyntaxError (Spacing × Cursor)
  | 0, s, c => .ok (s, c)
  | fuel + 1, s, c =>
    match c.peek? with
    | none => .ok (s, c)
    | some ch =>
      if Text.isGap ch then
        if s.isBreak && (c.column : Int) < indent && ch == '\t' then .error .tabInIndentation
        else plainSpacing indent fuel (s.addGap ch) (c.advance 1)
      else if isBreak ch then
        let (b, c) := c.takeBreak
        plainSpacing indent fuel (s.addBreak b) c
      else .ok (s, c)

/-- A plain scalar as far as it is read. -/
structure PlainText where
  text : String
  /-- Whether the end of a line comes after it. -/
  beforeBreak : Bool
  cursor : Cursor

/-- The words of a plain scalar from here on, after the text `done` and `spacing`. -/
def plainFrom (flow : Bool) (indent : Int) :
    Nat → List Char → Spacing → Cursor → Except SyntaxError PlainText
  | 0, done, spacing, c => .ok ⟨String.ofList done, spacing.isBreak, c⟩
  | fuel + 1, done, spacing, c =>
    let stop : PlainText := ⟨String.ofList done, spacing.isBreak, c⟩
    if c.atMarker || c.at? '#' then .ok stop
    else do
      let word ← plainWord flow c.rest
      if word.isEmpty then .ok stop
      else
        let done := done ++ spacing.fold ++ word
        let c := c.advance word.length
        match c.peek? with
        | none => .ok ⟨String.ofList done, false, c⟩
        | some ch =>
          if !isSpacing ch then .ok ⟨String.ofList done, false, c⟩
          else
            let (spacing, c) ← plainSpacing indent c.rest.length (.gaps []) c
            if !flow && (c.column : Int) < indent then
              .ok ⟨String.ofList done, spacing.isBreak, c⟩
            else plainFrom flow indent fuel done spacing c

/-- The plain scalar at the cursor inside a block indented by `indent`. -/
def scanPlain (flow : Bool) (indent : Int) (c : Cursor) : Except SyntaxError PlainText :=
  plainFrom flow (indent + 1) (c.rest.length + 1) [] (.gaps []) c

end Pipeline.Yaml
