import Pipeline.Shell.Pattern

/-!
# Fields

What becomes of an expanded word: a row of glyphs, which is split into fields at the separators
among those characters that came from an expansion. Quoted characters never split a field, and
quotes alone make an empty one.
-/

namespace Pipeline.Shell

/-- A character of an expanded word, or a sign about its fields. -/
inductive Glyph where
  | char (c : Char) (quoted : Bool) (splits : Bool)
  /-- There is a field even if it is empty. -/
  | presence
  /-- There is no field because of quotes alone. -/
  | absence
  /-- A new field begins; where there are no fields, a text stands between the two. -/
  | boundary (joint : String)
  deriving DecidableEq, Repr

/-- A text as glyphs. -/
def glyphsOf (text : String) (quoted splits : Bool) : List Glyph :=
  text.toList.map fun c => .char c quoted splits

/-- The characters of glyphs, fields put together. -/
def markedOf (gs : List Glyph) : List Marked :=
  gs.flatMap fun g =>
    match g with
    | .char c quoted _ => [(c, quoted)]
    | .boundary joint => joint.toList.map fun c => (c, true)
    | _ => []

/-- The text of glyphs, fields put together. -/
def textOf (gs : List Glyph) : String :=
  plainText (markedOf gs)

/-- The fields under way. -/
structure Fields where
  done : List (List Marked) := []
  current : List Marked := []
  present : Bool := false
  /-- Whether a blank ended the last field. -/
  afterBlank : Bool := false

/-- The field under way is complete. -/
def Fields.close (f : Fields) (blank : Bool) : Fields :=
  { done := f.current.reverse :: f.done, afterBlank := blank }

/-- The fields after one more glyph. -/
def Fields.add (separators : List Char) (f : Fields) : Glyph → Fields
  | .presence => { f with present := true }
  | .absence => if f.current.isEmpty then { f with present := false } else f
  | .boundary _ => if f.present then f.close false else f
  | .char c quoted splits =>
    if splits && separators.contains c then
      if c = ' ' ∨ c = '\t' ∨ c = '\n' then if f.present then f.close true else f
      else if f.present || !f.afterBlank then f.close false
      else { f with afterBlank := false }
    else { f with current := (c, quoted) :: f.current, present := true, afterBlank := false }

/-- The fields of glyphs. -/
def fieldsOf (separators : List Char) (gs : List Glyph) : List (List Marked) :=
  let f := gs.foldl (Fields.add separators) {}
  (if f.present then f.close false else f).done.reverse

end Pipeline.Shell
