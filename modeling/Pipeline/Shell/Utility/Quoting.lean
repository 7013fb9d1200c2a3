import Pipeline.Shell.Escape

/-!
# Quoted names

How names and arguments stand in the messages of utilities, so that their ends can be seen: between
quotes, with escapes for what cannot be shown.
-/

namespace Pipeline.Shell.Utility

/-- Whether an octet can be shown as it is. -/
def isShown (c : Char) : Bool :=
  ' ' ≤ c && c ≤ '~'

/-- The letter of the escape for an octet that has one. -/
def escapeLetter? (c : Char) : Option Char :=
  match c with
  | '\x07' => some 'a'
  | '\x08' => some 'b'
  | '\x0c' => some 'f'
  | '\n' => some 'n'
  | '\r' => some 'r'
  | '\t' => some 't'
  | '\x0b' => some 'v'
  | _ => none

/-- The three octal digits of an octet. -/
def octalDigits (c : Char) : List Char :=
  [c.toNat / 64, c.toNat / 8 % 8, c.toNat % 8].map fun n => Char.ofNat (48 + n % 8)

/-- The escape of an octet that cannot be shown. -/
def escapeOf (c : Char) : List Char :=
  '\\' :: (match escapeLetter? c with | some letter => [letter] | none => octalDigits c)

/-- Whether a character stands for itself both in double quotes and in single quotes. -/
def isPlain (c : Char) : Bool :=
  isShown c && !"!\"$&()*;<=>[^\x60|\\?\x7b\x7d#~".toList.contains c

/-- The text in single quotes as a shell reads it; escapes stand in quotes of their own. -/
def inQuotes (escaping : Bool) : List Char → List Char
  | [] => []
  | c :: cs =>
    if isShown c then
      (if escaping then ['\'', '\''] else []) ++
        (if c = '\'' then ['\'', '\\', '\''] else [c]) ++ inQuotes false cs
    else (if escaping then [] else ['\'', '$', '\'']) ++ escapeOf c ++ inQuotes true cs

/-- The name in quotes. -/
def quoted (name : String) : String :=
  let cs := name.toList
  if cs.contains '\'' && cs.all isPlain then "\"" ++ name ++ "\""
  else String.ofList (['\''] ++ inQuotes false cs ++ ['\''])

/-- Whether a name needs quotes so that a shell would read it as one. -/
def needsQuotes (name : String) : Bool :=
  match name.toList with
  | [] => true
  | ['\x7b'] | ['\x7d'] => true
  | c :: cs =>
    c == '#' || c == '~' ||
      (c :: cs).any fun d => !isShown d || " '!\"$&()*;<=>[^\x60|\\?".toList.contains d

/-- The name, in quotes if it needs them. -/
def quotedIfNeeded (name : String) : String :=
  if needsQuotes name then quoted name else name

/-- An argument in quotes, in which a backslash protects quotes. -/
def quotedArgument (text : String) : String :=
  let shown := text.toList.flatMap fun c =>
    if c = '\'' ∨ c = '\\' then ['\\', c] else if isShown c then [c] else escapeOf c
  String.ofList (['\''] ++ shown ++ ['\''])

end Pipeline.Shell.Utility
