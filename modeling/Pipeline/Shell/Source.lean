import Pipeline.Shell.Token
import Pipeline.Text.Blank

/-!
# Sources of shell text

The text of a script that is left to read, and the readers for its characters: quoted texts, the
bodies of documents, names and signs. Continued lines are joined wherever a character is asked for.
The text of an alias takes the place of its name.
-/

namespace Pipeline.Shell

/-- An alias whose text is being read. -/
structure OpenAlias where
  name : String
  /-- How much text is left when all of the alias is read. -/
  left : Nat
  /-- Whether the text ends in a blank, so that the next word may be an alias too. -/
  goesOn : Bool

/-- The text that is left, the number of its first line, and a token that was put back. -/
structure Source where
  rest : List Char
  line : Nat := 1
  pushed : Option Token := none
  aliases : List (String × String) := []
  opened : List OpenAlias := []

/-- The source without the blanks before its next token. -/
def Source.skipBlanks (s : Source) : Source :=
  if s.pushed.isSome then s
  else { s with rest := s.rest.dropWhile Text.isGap }

/-- The source with the aliases closed whose text is read, and whether one of them lets the next
word be an alias. -/
def Source.closeAliases (s : Source) : Source × Bool :=
  let done := s.opened.filter fun a => s.rest.length ≤ a.left
  ({ s with opened := s.opened.filter fun a => a.left < s.rest.length },
    done.any OpenAlias.goesOn)

/-- The alias of a name and its text, unless it is being read. -/
def Source.aliasText? (s : Source) (name : String) : Option (String × String) :=
  if s.opened.any fun a => a.name == name then none
  else (s.aliases.lookup name).map fun text => (name, text)

/-- The source with the text of an alias put in. -/
def Source.openAlias (s : Source) (name text : String) : Source :=
  { s with
    rest := text.toList ++ s.rest
    opened := ⟨name, s.rest.length, text.toList.getLast?.any Text.isGap⟩ ::
      s.opened }

/-- A reader of shell text. -/
abbrev Reader := StateT Source (Except ScriptError)

namespace Reader

/-- The text cannot be read from here on. -/
def fail {α : Type} (text : String) : Reader α := do
  throw ⟨(← get).line, "Syntax error: " ++ text⟩

/-- The text without the continued line ends at its front, and their number. -/
def joinLines : List Char → List Char × Nat
  | '\\' :: '\n' :: rest =>
    let (rest, n) := joinLines rest
    (rest, n + 1)
  | cs => (cs, 0)

/-- The next character as it stands. -/
def peekRaw : Reader (Option Char) := do
  return (← get).rest.head?

/-- The next character, continued lines joined. -/
def peek : Reader (Option Char) := do
  let s ← get
  let (rest, n) := joinLines s.rest
  set { s with rest := rest, line := s.line + n }
  peekRaw

/-- The next character is read. -/
def take : Reader Unit :=
  modify fun s =>
    match s.rest with
    | [] => s
    | c :: rest => { s with rest := rest, line := if c = '\n' then s.line + 1 else s.line }

/-- The next character is read if it is `c`. -/
def takeIf (c : Char) : Reader Bool := do
  if (← peek) = some c then
    take
    return true
  else return false

/-- The characters up to the next one for which `stop` holds, continued lines joined. -/
def takeUntil (stop : Char → Bool) : Nat → Reader (List Char)
  | 0 => return []
  | fuel + 1 => do
    match ← peek with
    | none => return []
    | some c =>
      if stop c then return []
      else
        take
        return c :: (← takeUntil stop fuel)

/-- The characters up to a single quote, which is read too. -/
def takeQuoted : Nat → Reader (List Char)
  | 0 => fail "Unterminated quoted string"
  | fuel + 1 => do
    match ← peekRaw with
    | none => fail "Unterminated quoted string"
    | some c =>
      take
      if c = '\'' then return [] else return c :: (← takeQuoted fuel)

/-- The characters up to a grave accent, which is read too; a backslash keeps its meaning only
before what it protects. -/
def takeGrave (quoted : Bool) : Nat → Reader (List Char)
  | 0 => fail "EOF in backquote substitution"
  | fuel + 1 => do
    match ← peek with
    | none => fail "EOF in backquote substitution"
    | some '\x60' =>
      take
      return []
    | some '\\' =>
      take
      match ← peekRaw with
      | none => fail "EOF in backquote substitution"
      | some c =>
        take
        if c = '\\' ∨ c = '\x60' ∨ c = '$' ∨ (quoted ∧ c = '"') then
          return c :: (← takeGrave quoted fuel)
        else return '\\' :: c :: (← takeGrave quoted fuel)
    | some c =>
      take
      return c :: (← takeGrave quoted fuel)

/-- The body of a document: the lines after this one up to its delimiter, which leave the text. -/
def takeDocument (delimiter : List Char) (indented : Bool) : Reader (List Char) :=
  modifyGet fun s =>
    let head := s.rest.takeWhile (· ≠ '\n')
    let (body, rest) := split [] ((s.rest.dropWhile (· ≠ '\n')).drop 1) (s.rest.length + 1)
    (body, { s with rest := head ++ '\n' :: rest })
where
  /-- The lines before the delimiter, and the text after it. -/
  split (acc : List Char) (cs : List Char) : Nat → List Char × List Char
    | 0 => (acc, [])
    | fuel + 1 =>
      if cs.isEmpty then (acc, [])
      else
        let line := cs.takeWhile (· ≠ '\n')
        let rest := (cs.dropWhile (· ≠ '\n')).drop 1
        let line := if indented then line.dropWhile (· = '\t') else line
        if line = delimiter then (acc, rest)
        else split (acc ++ line ++ if cs.contains '\n' then ['\n'] else []) rest fuel

end Reader

/-- Where segments are read. -/
inductive Context where
  | bare
  | quoted
  | braces (quoted : Bool)
  | expression (depth : Nat)
  | document
  deriving DecidableEq, Repr

namespace Context

/-- Whether characters count as quoted here. -/
def isQuoted : Context → Bool
  | bare => false
  | braces q => q
  | _ => true

/-- The error of a text that ends here, if it may not. -/
def endError? : Context → Option String
  | bare | document => none
  | quoted => some "Unterminated quoted string"
  | braces _ => some "Missing '\x7d'"
  | expression _ => some "Missing '))'"

/-- Whether a backslash protects a character here. -/
def protects (ctx : Context) (c : Char) : Bool :=
  !ctx.isQuoted || c == '$' || c == '\x60' || c == '\\' || (c == '"' && ctx != .document) ||
    (c == '\x7d' && ctx == .braces true)

end Context

/-- Whether the text names a descriptor, or says that there is none. -/
def namesDescriptor (text : String) : Bool :=
  match text.toList with
  | [c] => c.isDigit || c == '-'
  | _ => false

/-- The characters that end a word. -/
def endsWord (c : Char) : Bool :=
  [' ', '\t', '\n', ';', '&', '<', '>', '(', ')', '|'].contains c

/-- The parameters of one character that is no letter. -/
def isSpecialParameter (c : Char) : Bool :=
  ['@', '*', '#', '?', '$', '!', '-'].contains c

/-- The characters of a word without its quotes, and whether there are any quotes. -/
def delimiterOf (w : Word) : List Char × Bool :=
  w.foldl (fun acc s =>
    match s with
    | .text text quoted => (acc.1 ++ text.toList, acc.2 || quoted)
    | _ => acc) ([], false)

namespace Reader

/-- A token that is not used after all. -/
def pushBack (t : Token) : Reader Unit :=
  modify fun s => { s with pushed := some t }

/-- The form of a parameter's operator. -/
def formOf (colon : Bool) (c : Char) : Option ParameterForm :=
  match c with
  | '-' => some (.orDefault colon)
  | '=' => some (.orAssign colon)
  | '?' => some (.orFail colon)
  | '+' => some (.instead colon)
  | '#' => if colon then none else some (.cutFront false)
  | '%' => if colon then none else some (.cutBack false)
  | _ => none

/-- The name of a parameter between braces. -/
def takeParameterName (fuel : Nat) : Reader String := do
  match ← peek with
  | none => return ""
  | some c =>
    if startsName c then
      return String.ofList (← takeUntil (fun c => !isWordChar c) fuel)
    else if c.isDigit then return String.ofList (← takeUntil (fun c => !c.isDigit) fuel)
    else if isSpecialParameter c then
      take
      return c.toString
    else return ""

/-- The text up to a closing brace, which is read too. -/
def skipBraces (fuel : Nat) : Reader Unit := do
  let _ ← takeUntil (· == '\x7d') fuel
  if !(← takeIf '\x7d') then fail "Missing '\x7d'"

/-- The sign that starts with `c`, which is read. -/
def takeSign (c : Char) : Reader Token := do
  match c with
  | '&' => if ← takeIf '&' then return .sign "&&" else return .sign "&"
  | '|' => if ← takeIf '|' then return .sign "||" else return .sign "|"
  | ';' => if ← takeIf ';' then return .sign ";;" else return .sign ";"
  | c => return .sign c.toString

/-- The redirection that starts with `c`, which is read. -/
def takeRedirection (descriptor : Option Nat) (c : Char) : Reader Token := do
  if c = '>' then
    let d := descriptor.getD 1
    if ← takeIf '>' then return .redirection d .append false
    else if ← takeIf '&' then return .redirection d .duplicate false
    else
      let forced ← takeIf '|'
      return .redirection d (if forced then .overwrite else .output) false
  else
    let d := descriptor.getD 0
    if ← takeIf '<' then return .redirection d .document (← takeIf '-')
    else if ← takeIf '&' then return .redirection d .duplicate false
    else if ← takeIf '>' then return .redirection d .readWrite false
    else return .redirection d .input false

/-- The parameters that all positions together stand for. -/
def allPositions : Word :=
  [.parameter "@" .value [] true]

end Reader

end Pipeline.Shell
