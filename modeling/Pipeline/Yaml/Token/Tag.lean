import Pipeline.Text.Digit
import Pipeline.Yaml.Cursor
import Pipeline.Yaml.Error
import Pipeline.Yaml.Token

/-!
# Anchors, tags and directives

A tag is a handle and a suffix; a tag between angle brackets and the tag of one exclamation mark
have the empty handle. Octets of a suffix may be written as percent escapes; an octet of zero ends
the suffix, whatever is written after it.
-/

namespace Pipeline.Yaml

/-- Whether a character may follow the name of an anchor. -/
def endsAnchor (c? : Option Char) : Bool :=
  spacingOrEnd c? || c?.any fun c =>
    c == '?' || c == ':' || c == ',' || c == ']' || c == '\x7d' || c == '%' || c == '@' ||
      c == '\x60'

/-- The name of an anchor or alias at the cursor, which stands on its mark. -/
def scanAnchor (c : Cursor) : Except SyntaxError (String × Cursor) :=
  let (name, c) := (c.advance 1).span isNameChar
  if name.isEmpty || !endsAnchor c.peek? then .error .badAnchor
  else .ok (String.ofList name, c)

/-- Whether a character may stand in a tag; between angle brackets a few more may. -/
def isTagChar (verbatim : Bool) (c : Char) : Bool :=
  isNameChar c || ";/?:@&=+$.!~*'()%".toList.contains c || (verbatim && ",[]".toList.contains c)

/-- The value of two hexadecimal digits. -/
def twoHex? (a b : Char) : Option Nat := do
  let x ← Text.hexValue? a
  let y ← Text.hexValue? b
  some (x * 16 + y)

/-- How many octets a character takes whose first octet is `b`. -/
def octetCount? (b : Nat) : Option Nat :=
  if b < 0x80 then some 1
  else if b / 32 = 6 then some 2
  else if b / 16 = 14 then some 3
  else if b / 8 = 30 then some 4
  else none

/-- `n` octets of percent escapes, each but the first of a character a trailing one. -/
def escapedOctets (first : Bool) : Nat → List Char → Except SyntaxError (List UInt8)
  | 0, _ => .ok []
  | n + 1, cs =>
    match cs with
    | '%' :: a :: b :: rest =>
      match twoHex? a b with
      | none => .error .badTag
      | some v =>
        if !first && v / 64 ≠ 2 then .error .badTag
        else (escapedOctets false n rest).map (UInt8.ofNat v :: ·)
    | _ => .error .badTag

/-- The octets of the character that a percent escape starts. -/
def escapedChar (cs : List Char) : Except SyntaxError (List UInt8) :=
  match cs with
  | '%' :: a :: b :: _ =>
    match (twoHex? a b).bind octetCount? with
    | none => .error .badTag
    | some n => escapedOctets true n cs
  | _ => .error .badTag

/-- The octets of a tag from here on, escapes decoded, and the position after them. -/
def tagChars (verbatim : Bool) :
    Nat → List UInt8 → Cursor → Except SyntaxError (List UInt8 × Cursor)
  | 0, acc, c => .ok (acc, c)
  | fuel + 1, acc, c =>
    match c.peek? with
    | none => .ok (acc, c)
    | some ch =>
      if !isTagChar verbatim ch then .ok (acc, c)
      else if ch == '%' then do
        let bs ← escapedChar c.rest
        tagChars verbatim fuel (acc ++ bs) (c.advance (3 * bs.length))
      else tagChars verbatim fuel (acc ++ Text.encodeUtf8 ch.toString) (c.advance 1)

/-- A tag's octets after the characters of `head`, at least one in all, up to the first zero. -/
def scanTagChars (verbatim : Bool) (head : List Char) (c : Cursor) :
    Except SyntaxError (List UInt8 × Cursor) := do
  let (bs, after) ← tagChars verbatim (c.rest.length + 1) [] c
  if head.isEmpty && bs.isEmpty then .error .badTag
  else
    let whole := Text.encodeUtf8 (String.ofList (head.drop 1)) ++ bs
    .ok (whole.takeWhile fun b => b != 0, after)

/-- A handle: an exclamation mark, a name, and a second mark if one comes. -/
def scanHandle (c : Cursor) : List Char × Cursor :=
  let (name, c) := (c.advance 1).span isNameChar
  if c.at? '!' then ('!' :: name ++ ['!'], c.advance 1) else ('!' :: name, c)

/-- Whether a handle is a name between two marks, or two marks. -/
def isFullHandle (handle : List Char) : Bool :=
  2 ≤ handle.length && handle.getLast? == some '!'

/-- The tag at the cursor, which stands on its exclamation mark. -/
def scanTag (flow : Bool) (c : Cursor) : Except SyntaxError (Token × Cursor) := do
  let (token, c) ←
    if c.ahead? 1 == some '<' then do
      let (suffix, c) ← scanTagChars true [] (c.advance 2)
      if c.at? '>' then .ok (Token.tag "" suffix, c.advance 1) else .error .badTag
    else do
      let (handle, after) := scanHandle c
      if isFullHandle handle then do
        let (suffix, c) ← scanTagChars false [] after
        .ok (Token.tag (String.ofList handle) suffix, c)
      else do
        let (suffix, c) ← scanTagChars false handle after
        .ok (if suffix.isEmpty then Token.tag "" [Tag.bang] else Token.tag "!" suffix, c)
  if spacingOrEnd c.peek? || (flow && c.at? ',') then .ok (token, c) else .error .badTag

/-- A number of a version, at most nine digits. -/
def scanVersionNumber (c : Cursor) : Except SyntaxError (Nat × Cursor) :=
  let (ds, after) := c.span Char.isDigit
  if ds.isEmpty || 9 < ds.length then .error .badDirective
  else .ok (ds.foldl (fun n d => n * 10 + (d.toNat - 48)) 0, after)

/-- The rest of the line of a directive, which holds a comment at most. -/
def endDirective (token : Token) (c : Cursor) : Except SyntaxError (Token × Cursor) :=
  let c := (c.skipWhile Text.isGap).skipComment
  if breakOrEnd c.peek? then .ok (token, c.skipBreak) else .error .badDirective

/-- The directive at the cursor, which stands on its percent sign. -/
def scanDirective (c : Cursor) : Except SyntaxError (Token × Cursor) := do
  let (name, c) := (c.advance 1).span isNameChar
  if name.isEmpty || !spacingOrEnd c.peek? then .error .badDirective
  else if name == "YAML".toList then do
    let (major, c) ← scanVersionNumber (c.skipWhile Text.isGap)
    if !c.at? '.' then .error .badDirective
    else
      let (minor, c) ← scanVersionNumber (c.advance 1)
      endDirective (.version major minor) c
  else if name == "TAG".toList then do
    let c := c.skipWhile Text.isGap
    if !c.at? '!' then .error .badDirective
    else
      let (handle, c) := scanHandle c
      if !(isFullHandle handle || handle == ['!']) || !c.peek?.any Text.isGap then
        .error .badDirective
      else
        let (uri, c) ← scanTagChars true [] (c.skipWhile Text.isGap)
        if spacingOrEnd c.peek? then endDirective (.tagHandle (String.ofList handle) uri) c
        else .error .badDirective
  else .error .badDirective

end Pipeline.Yaml
