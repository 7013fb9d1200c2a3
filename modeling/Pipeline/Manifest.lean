import Pipeline.Json.Reader
import Pipeline.Run.Collaborators

/-!
# Script manifests

A manifest is a JSON object whose field `scripts` maps names to commands, or an array with these
scripts as its only item (specification, section 14). Of scripts with one name the last counts.
Everything else in a manifest only has to be JSON, and the text is refused at the first character
where it cannot be a manifest.
-/

namespace Pipeline.Manifest

open Json (Error skipSpace readString readColon ignoreValue)

/-- Named commands in the order of the text. -/
abbrev Scripts := List (String × String)

/-- The error of a value, which starts with `c`, where `expected` is wanted. -/
def mismatch (expected : String) (c : Char) (rest : List Char) : Error :=
  let refuse (found : Found) : Error := .mismatch (.invalidType found expected)
  let named (letters : List Char) (found : Found) : Error :=
    match Json.readName letters rest with
    | .ok _ => refuse found
    | .error e => e
  let number (negative : Bool) (cs : List Char) : Error :=
    match Json.scanNumber .eofInValue cs with
    | .error e => e
    | .ok (t, _) =>
      match t.value negative with
      | .error e => e
      | .ok n => refuse n.found
  if c = 'n' then named ['u', 'l', 'l'] .nothing
  else if c = 't' then named ['r', 'u', 'e'] (.bool true)
  else if c = 'f' then named ['a', 'l', 's', 'e'] (.bool false)
  else if c = '-' then number true rest
  else if c.isDigit then number false (c :: rest)
  else if c = '"' then
    match readString rest with
    | .ok (s, _) => refuse (.text s)
    | .error e => e
  else if c = '[' then refuse .sequence
  else if c = '\x7b' then refuse .map
  else .expectedValue

/-- The text after the quote of the next key, or nothing at the end of the object. -/
def nextKey (first : Bool) (cs : List Char) : Except Error (List Char ⊕ List Char) :=
  match skipSpace cs with
  | [] => .error .eofInObject
  | '\x7d' :: rest => .ok (.inr rest)
  | c :: rest =>
    if first then if c = '"' then .ok (.inl rest) else .error .keyMustBeString
    else if c = ',' then
      match skipSpace rest with
      | '"' :: rest => .ok (.inl rest)
      | '\x7d' :: _ => .error .trailingComma
      | _ :: _ => .error .keyMustBeString
      | [] => .error .eofInValue
    else .error .expectedObjectSeparator

/-- A command. -/
def readCommand (cs : List Char) : Except Error (String × List Char) :=
  match skipSpace cs with
  | [] => .error .eofInValue
  | '"' :: rest => readString rest
  | c :: rest => .error (mismatch "a string" c rest)

/-- The scripts from the next key on, and the text after the end of the object; `fuel` exceeds the
number of keys. -/
def readScripts : Nat → Bool → List Char → Except Error (Scripts × List Char)
  | 0, _, _ => .error .eofInObject
  | fuel + 1, first, cs => do
    match ← nextKey first cs with
    | .inr rest => .ok ([], rest)
    | .inl rest =>
      let (name, rest) ← readString rest
      let rest ← readColon rest
      let (command, rest) ← readCommand rest
      let (scripts, rest) ← readScripts fuel false rest
      .ok ((name, command) :: scripts, rest)

/-- The scripts of an object. -/
def readScriptMap (cs : List Char) : Except Error (Scripts × List Char) :=
  match skipSpace cs with
  | [] => .error .eofInValue
  | '\x7b' :: rest => readScripts (rest.length + 1) true rest
  | c :: rest => .error (mismatch "a map" c rest)

/-- The fields of a manifest from the next key on; `found` holds the scripts if they came before. -/
def readFields : Nat → Bool → Option Scripts → List Char → Except Error (Scripts × List Char)
  | 0, _, _, _ => .error .eofInObject
  | fuel + 1, first, found, cs => do
    match ← nextKey first cs with
    | .inr rest => .ok (found.getD [], rest)
    | .inl rest =>
      let (key, rest) ← readString rest
      if key = "scripts" then
        if found.isSome then .error (.mismatch (.duplicateField key))
        else
          let rest ← readColon rest
          let (scripts, rest) ← readScriptMap rest
          readFields fuel false (some scripts) rest
      else
        let rest ← readColon rest
        let rest ← ignoreValue rest
        readFields fuel false found rest

/-- The only item of a manifest that is an array, and the text after its end. -/
def readArray (cs : List Char) : Except Error (Scripts × List Char) := do
  let (scripts, rest) ←
    match skipSpace cs with
    | [] => .error .eofInList
    | ']' :: rest => .ok ([], ']' :: rest)
    | rest => readScriptMap rest
  match skipSpace rest with
  | [] => .error .eofInList
  | ']' :: rest => .ok (scripts, rest)
  | ',' :: rest =>
    match skipSpace rest with
    | ']' :: _ => .error .trailingComma
    | _ => .error .trailingCharacters
  | _ => .error .trailingCharacters

/-- The scripts of a whole text. -/
def scriptsOf (text : String) : Except Error Scripts := do
  let (scripts, rest) ←
    match skipSpace text.toList with
    | [] => .error .eofInValue
    | '\x7b' :: rest => readFields (rest.length + 1) true none rest
    | '[' :: rest => readArray rest
    | c :: rest => .error (mismatch "struct PackageJson" c rest)
  if (skipSpace rest).isEmpty then .ok scripts else .error .trailingCharacters

/-- The command of a script, the last one of its name. -/
def command? (scripts : Scripts) (name : String) : Option String :=
  (scripts.reverse.find? fun s => s.1 == name).map Prod.snd

/-- Looks a script up in the manifest at `path` with the given content, or the cause why it cannot
be read. A script with no command is as good as missing. -/
def lookup (path : String) (content : Except String String) (name : String) :
    Except ManifestError String :=
  match content with
  | .error cause => .error (.unreadable path cause)
  | .ok text =>
    match scriptsOf text with
    | .error e => .error (.unparsable path e.message)
    | .ok scripts =>
      match command? scripts name with
      | none => .error (.missingScript name path)
      | some command =>
        if command.isEmpty then .error (.missingScript name path) else .ok command

/-- What a look-up reports about itself. -/
def lookupLog (name : String) : Except ManifestError String → List LogEntry
  | .ok command => [.debug ("Script \"" ++ name ++ "\" resolved to `" ++ command ++ "`")]
  | .error _ => []

/-- The answer of a manifest, in an outside world that the look-up leaves alone. -/
def answer {σ : Type} (path : String) (content : Except String String) (name : String) (w : σ) :
    Answer σ (Except ManifestError String) :=
  let result := lookup path content name
  ⟨result, lookupLog name result, w⟩

end Pipeline.Manifest
