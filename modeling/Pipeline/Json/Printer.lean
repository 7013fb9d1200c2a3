import Pipeline.Json.Value

/-!
# JSON texts

A value in one line without spaces, or with one item or field a line and two spaces a level. Only
the quote, the backslash and the characters below the space are escaped.
-/

namespace Pipeline.Json

/-- A code point as four hexadecimal digits. -/
def fourHexDigits (n : Nat) : String :=
  let text := Text.hexDigits n
  Pipeline.Number.zeros (4 - text.length) ++ text

/-- One character inside a string. -/
def escapeChar (c : Char) : String :=
  if c = '"' then "\\\""
  else if c = '\\' then "\\\\"
  else if c = '\n' then "\\n"
  else if c = '\r' then "\\r"
  else if c = '\t' then "\\t"
  else if c = '\x08' then "\\b"
  else if c = '\x0c' then "\\f"
  else if c.toNat < 0x20 then "\\u" ++ fourHexDigits c.toNat
  else c.toString

/-- A string with its quotes and escapes. -/
def renderString (s : String) : String :=
  "\"" ++ String.join (s.toList.map escapeChar) ++ "\""

/-- A number. -/
def Number.render : Number → String
  | .integer n => toString n
  | .float x => x.render foundStyle.float

mutual

/-- The value in one line. -/
def Value.compact : Value → String
  | .null => "null"
  | .bool b => toString b
  | .number n => n.render
  | .string s => renderString s
  | .array items => "[" ++ String.intercalate "," (compactItems items) ++ "]"
  | .object fields => "\x7b" ++ String.intercalate "," (compactFields fields) ++ "\x7d"

/-- Each item in one line. -/
def compactItems : List Value → List String
  | [] => []
  | v :: vs => v.compact :: compactItems vs

/-- Each field in one line. -/
def compactFields : List (String × Value) → List String
  | [] => []
  | (key, v) :: fs => (renderString key ++ ":" ++ v.compact) :: compactFields fs

end

/-- The start of a line at a level. -/
def newline (level : Nat) : String :=
  "\n" ++ String.ofList (List.replicate (2 * level) ' ')

/-- Parts between brackets, a line each, or the bare brackets. -/
def bracketed (opening closing : String) (level : Nat) (parts : List String) : String :=
  if parts.isEmpty then opening ++ closing
  else
    opening ++ newline (level + 1) ++ String.intercalate ("," ++ newline (level + 1)) parts ++
      newline level ++ closing

mutual

/-- The value over several lines, its first one at `level`. -/
def Value.prettyAt (level : Nat) : Value → String
  | .null => "null"
  | .bool b => toString b
  | .number n => n.render
  | .string s => renderString s
  | .array items => bracketed "[" "]" level (prettyItems (level + 1) items)
  | .object fields => bracketed "\x7b" "\x7d" level (prettyFields (level + 1) fields)

/-- Each item over several lines. -/
def prettyItems (level : Nat) : List Value → List String
  | [] => []
  | v :: vs => v.prettyAt level :: prettyItems level vs

/-- Each field over several lines. -/
def prettyFields (level : Nat) : List (String × Value) → List String
  | [] => []
  | (key, v) :: fs => (renderString key ++ ": " ++ v.prettyAt level) :: prettyFields level fs

end

/-- The value over several lines. -/
def Value.pretty (v : Value) : String :=
  v.prettyAt 0

end Pipeline.Json
