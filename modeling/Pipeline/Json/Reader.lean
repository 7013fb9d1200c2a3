import Pipeline.Json.NumberText
import Pipeline.Text.Digit
import Pipeline.Text.Utf8

/-!
# Reading JSON texts

The pieces of a text, each read from the front of what is left of it: names, strings, numbers,
values that are only checked, and values that are kept. A string that is only checked may hold
escapes of lone surrogates.
-/

namespace Pipeline.Json

/-- The text without the blanks at its front. -/
def skipSpace (cs : List Char) : List Char :=
  cs.dropWhile fun c => c = ' ' ∨ c = '\t' ∨ c = '\n' ∨ c = '\r'

/-- The text after the letters of a name. -/
def readName : List Char → List Char → Except Error (List Char)
  | [], cs => .ok cs
  | _ :: _, [] => .error .eofInValue
  | e :: es, c :: cs => if c = e then readName es cs else .error .expectedIdent

/-- The value of four hexadecimal digits, which are four octets. -/
def readFourHex (cs : List Char) : Except Error (Nat × List Char) :=
  match cs with
  | a :: b :: c :: d :: rest =>
    match Text.hexValue? a, Text.hexValue? b, Text.hexValue? c, Text.hexValue? d with
    | some a, some b, some c, some d => .ok (((a * 16 + b) * 16 + c) * 16 + d, rest)
    | _, _, _, _ => .error .invalidEscape
  | short => if 4 ≤ Text.octets short then .error .invalidEscape else .error .eofInString

/-- The character of an escape by code, after its `u`; `strict` asks that surrogates pair up. -/
def readCodeEscape (strict : Bool) (cs : List Char) : Except Error (Char × List Char) := do
  let (n, rest) ← readFourHex cs
  if !strict then .ok (Char.ofNat n, rest)
  else if 0xdc00 ≤ n ∧ n ≤ 0xdfff then .error .loneSurrogate
  else if n < 0xd800 ∨ 0xdbff < n then .ok (Char.ofNat n, rest)
  else
    match rest with
    | [] => .error .eofInString
    | '\\' :: [] => .error .eofInString
    | '\\' :: 'u' :: rest =>
      let (m, rest) ← readFourHex rest
      if m < 0xdc00 ∨ 0xdfff < m then .error .loneSurrogate
      else .ok (Char.ofNat (0x10000 + (n - 0xd800) * 0x400 + (m - 0xdc00)), rest)
    | _ => .error .endOfHexEscape

/-- The character of an escape of one letter. -/
def letterEscape? (c : Char) : Option Char :=
  match c with
  | '"' => some '"'
  | '\\' => some '\\'
  | '/' => some '/'
  | 'b' => some '\x08'
  | 'f' => some '\x0c'
  | 'n' => some '\n'
  | 'r' => some '\r'
  | 't' => some '\t'
  | _ => none

/-- The characters up to the closing quote, after those in `acc`; `fuel` exceeds their number. -/
def readChars (strict : Bool) : Nat → List Char → List Char → Except Error (String × List Char)
  | 0, _, _ => .error .eofInString
  | _ + 1, _, [] => .error .eofInString
  | fuel + 1, acc, c :: cs =>
    if c = '"' then .ok (String.ofList acc.reverse, cs)
    else if c = '\\' then
      match cs with
      | [] => .error .eofInString
      | e :: cs =>
        match letterEscape? e with
        | some x => readChars strict fuel (x :: acc) cs
        | none =>
          if e = 'u' then do
            let (x, rest) ← readCodeEscape strict cs
            readChars strict fuel (x :: acc) rest
          else .error .invalidEscape
    else if c.toNat < 0x20 then .error .controlCharacter
    else readChars strict fuel (c :: acc) cs

/-- A string whose opening quote is read. -/
def readString (cs : List Char) : Except Error (String × List Char) :=
  readChars true (cs.length + 1) [] cs

/-- The text after a string whose opening quote is read. -/
def ignoreString (cs : List Char) : Except Error (List Char) :=
  (readChars false (cs.length + 1) [] cs).map Prod.snd

/-- The text after the colon of a field. -/
def readColon (cs : List Char) : Except Error (List Char) :=
  match skipSpace cs with
  | ':' :: rest => .ok rest
  | [] => .error .eofInObject
  | _ => .error .expectedColon

mutual

/-- The text after a value that is only checked; `fuel` exceeds twice the length. -/
def ignoreValueWith : Nat → List Char → Except Error (List Char)
  | 0, _ => .error .eofInValue
  | fuel + 1, cs =>
    match skipSpace cs with
    | [] => .error .eofInValue
    | c :: rest =>
      if c = 'n' then readName ['u', 'l', 'l'] rest
      else if c = 't' then readName ['r', 'u', 'e'] rest
      else if c = 'f' then readName ['a', 'l', 's', 'e'] rest
      else if c = '"' then ignoreString rest
      else if c = '-' then (scanNumber .invalidNumber rest).map Prod.snd
      else if c.isDigit then (scanNumber .invalidNumber (c :: rest)).map Prod.snd
      else if c = '[' then
        match skipSpace rest with
        | ']' :: rest => .ok rest
        | [] => .error .eofInList
        | rest => ignoreItems fuel rest
      else if c = '\x7b' then
        match skipSpace rest with
        | '\x7d' :: rest => .ok rest
        | rest => ignoreFields fuel rest
      else .error .expectedValue

/-- The text after the items of a list and its end, an item coming first. -/
def ignoreItems : Nat → List Char → Except Error (List Char)
  | 0, _ => .error .eofInList
  | fuel + 1, cs => do
    let rest ← ignoreValueWith fuel cs
    match skipSpace rest with
    | ',' :: rest => ignoreItems fuel rest
    | ']' :: rest => .ok rest
    | [] => .error .eofInList
    | _ => .error .expectedListSeparator

/-- The text after the fields of an object and its end, a field coming first. -/
def ignoreFields : Nat → List Char → Except Error (List Char)
  | 0, _ => .error .eofInObject
  | fuel + 1, cs =>
    match skipSpace cs with
    | '"' :: rest => do
      let rest ← ignoreString rest
      let rest ← readColon rest
      let rest ← ignoreValueWith fuel rest
      match skipSpace rest with
      | ',' :: rest => ignoreFields fuel rest
      | '\x7d' :: rest => .ok rest
      | [] => .error .eofInObject
      | _ => .error .expectedObjectSeparator
    | [] => .error .eofInObject
    | _ => .error .keyMustBeString

end

/-- The text after a value that is only checked. -/
def ignoreValue (cs : List Char) : Except Error (List Char) :=
  ignoreValueWith (2 * cs.length + 2) cs

mutual

/-- A value; `fuel` exceeds twice the length. -/
def readValueWith : Nat → List Char → Except Error (Value × List Char)
  | 0, _ => .error .eofInValue
  | fuel + 1, cs =>
    match skipSpace cs with
    | [] => .error .eofInValue
    | c :: rest =>
      if c = 'n' then (readName ['u', 'l', 'l'] rest).map fun rest => (.null, rest)
      else if c = 't' then (readName ['r', 'u', 'e'] rest).map fun rest => (.bool true, rest)
      else if c = 'f' then
        (readName ['a', 'l', 's', 'e'] rest).map fun rest => (.bool false, rest)
      else if c = '"' then (readString rest).map fun (s, rest) => (.string s, rest)
      else if c = '-' then do
        let (t, rest) ← scanNumber .eofInValue rest
        let n ← t.value true
        .ok (.number n, rest)
      else if c.isDigit then do
        let (t, rest) ← scanNumber .eofInValue (c :: rest)
        let n ← t.value false
        .ok (.number n, rest)
      else if c = '[' then
        match skipSpace rest with
        | ']' :: rest => .ok (.array [], rest)
        | [] => .error .eofInList
        | rest => (readItems fuel rest).map fun (vs, rest) => (.array vs, rest)
      else if c = '\x7b' then
        match skipSpace rest with
        | '\x7d' :: rest => .ok (.object [], rest)
        | rest => (readFields fuel rest).map fun (fs, rest) => (.object fs, rest)
      else .error .expectedValue

/-- The items of a list and its end, an item coming first. -/
def readItems : Nat → List Char → Except Error (List Value × List Char)
  | 0, _ => .error .eofInList
  | fuel + 1, cs => do
    let (v, rest) ← readValueWith fuel cs
    match skipSpace rest with
    | ',' :: rest =>
      match skipSpace rest with
      | ']' :: _ => .error .trailingComma
      | rest => (readItems fuel rest).map fun (vs, rest) => (v :: vs, rest)
    | ']' :: rest => .ok ([v], rest)
    | [] => .error .eofInList
    | _ => .error .expectedListSeparator

/-- The fields of an object and its end, a field coming first. -/
def readFields : Nat → List Char → Except Error (List (String × Value) × List Char)
  | 0, _ => .error .eofInObject
  | fuel + 1, cs =>
    match skipSpace cs with
    | '"' :: rest => do
      let (key, rest) ← readString rest
      let rest ← readColon rest
      let (v, rest) ← readValueWith fuel rest
      match skipSpace rest with
      | ',' :: rest =>
        match skipSpace rest with
        | '\x7d' :: _ => .error .trailingComma
        | [] => .error .eofInValue
        | rest => (readFields fuel rest).map fun (fs, rest) => ((key, v) :: fs, rest)
      | '\x7d' :: rest => .ok ([(key, v)], rest)
      | [] => .error .eofInObject
      | _ => .error .expectedObjectSeparator
    | [] => .error .eofInObject
    | _ => .error .keyMustBeString

end

/-- The value of a whole text. -/
def Value.ofText (s : String) : Except Error Value := do
  let cs := s.toList
  let (v, rest) ← readValueWith (2 * cs.length + 2) cs
  if (skipSpace rest).isEmpty then .ok v else .error .trailingCharacters

end Pipeline.Json
