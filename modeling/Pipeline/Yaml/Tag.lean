import Pipeline.Text.Utf8

/-!
# YAML tags

A tag is a row of octets, since its escapes may write octets that are no text. One that begins with
an exclamation mark is of an author's own making and names what comes after the mark.
-/

namespace Pipeline.Yaml

/-- What a node is said to be. -/
structure Tag where
  octets : List UInt8
  deriving DecidableEq, Repr

namespace Tag

/-- The tag of a text. -/
def ofText (text : String) : Tag :=
  ⟨Text.encodeUtf8 text⟩

/-- A tag of the core schema. -/
def core (name : String) : Tag :=
  ofText ("tag:yaml.org,2002:" ++ name)

/-- The octet of an exclamation mark. -/
def bang : UInt8 := 0x21

/-- Whether the tag is one that an author makes up. -/
def isLocal (t : Tag) : Bool :=
  t.octets.head? == some bang

/-- The word after the mark of a tag that an author makes up, if it is text. The mark alone is a
word of its own. -/
def localWord? (t : Tag) : Option String :=
  match t.octets with
  | [] => none
  | b :: word => if b = bang then Text.decodeUtf8? (if word.isEmpty then [bang] else word) else none

end Tag

end Pipeline.Yaml
