import Pipeline.Shell.Syntax

/-!
# Shell tokens

The words and signs that shell commands are made of, and the texts of the errors for those that
stand in the wrong place.
-/

namespace Pipeline.Shell

/-- A sign or a word. -/
inductive Token where
  | endOfFile
  | newline
  /-- A sign such as `;` or `&&`. -/
  | sign (text : String)
  | redirection (descriptor : Nat) (kind : RedirectKind) (indented : Bool)
  | word (w : Word)
  | keyword (text : String)

/-- A token in a message. -/
def Token.describe : Token → String
  | .endOfFile => "end of file"
  | .newline => "newline"
  | .sign text => "\"" ++ text ++ "\""
  | .redirection _ _ _ => "redirection"
  | .word _ => "word"
  | .keyword text => "\"" ++ text ++ "\""

/-- The words with a meaning of their own where a command may start. -/
def keywords : List String :=
  ["!", "case", "do", "done", "elif", "else", "esac", "fi", "for", "if", "in", "then", "until",
    "while", "\x7b", "\x7d"]

/-- The word as a keyword, if it is one. -/
def Token.asKeyword : Token → Token
  | .word w =>
    match w.bareText? with
    | some text => if keywords.contains text then .keyword text else .word w
    | none => .word w
  | t => t

/-- How a bare word is understood. -/
inductive WordUse where
  /-- It is an argument. -/
  | argument
  /-- It may be the name of a command, and so an alias. -/
  | command
  /-- It may be a keyword or an alias. -/
  | reserved
  deriving DecidableEq, Repr

/-- Whether the token is a word. -/
def Token.isWord : Token → Bool
  | .word _ => true
  | _ => false

/-- Whether the token is the sign `text`. -/
def Token.isSign (text : String) : Token → Bool
  | .sign s => s == text
  | _ => false

/-- Whether the token is the keyword `text`. -/
def Token.isKeyword (text : String) : Token → Bool
  | .keyword k => k == text
  | _ => false

/-- Whether a list of commands may end before the token. -/
def Token.endsList : Token → Bool
  | .endOfFile => true
  | .sign s => s == ")" || s == ";;"
  | .keyword k =>
    ["do", "done", "elif", "else", "esac", "fi", "then", "\x7d"].contains k
  | _ => false

/-- Why a script cannot be read, and in which line. -/
structure ScriptError where
  line : Nat
  text : String
  deriving DecidableEq, Repr

/-- The message of a token in the wrong place. -/
def unexpected (t : Token) : String :=
  t.describe ++ " unexpected"

/-- The message of a token in the place of another one. -/
def unexpectedFor (t wanted : Token) : String :=
  t.describe ++ " unexpected (expecting " ++ wanted.describe ++ ")"

end Pipeline.Shell
