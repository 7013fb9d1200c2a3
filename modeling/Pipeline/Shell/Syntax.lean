import Pipeline.Shell.CharClass

/-!
# Shell commands

The form of shell commands: words made of segments, redirections, and commands put together from
others.
-/

namespace Pipeline.Shell

/-- Whether a name may start with the character. -/
def startsName (c : Char) : Bool :=
  c.isAlpha || c == '_'

/-- Whether the text is a name. -/
def isName (s : String) : Bool :=
  match s.toList with
  | [] => false
  | c :: cs => startsName c && cs.all isWordChar

/-- The builtins after which no function is named and whose errors end a shell. -/
def specialBuiltins : List String :=
  [".", ":", "break", "continue", "eval", "exec", "exit", "export", "local", "readonly", "return",
    "set", "shift", "times", "trap", "unset"]

/-- The builtins whose arguments may be assignments. -/
def declaringBuiltins : List String :=
  ["export", "readonly", "local"]

/-- What becomes of the value of a parameter. The flag of a form with a colon says that an empty
value counts as none. -/
inductive ParameterForm where
  | value
  | length
  | orDefault (colon : Bool)
  | orAssign (colon : Bool)
  | orFail (colon : Bool)
  | instead (colon : Bool)
  | cutFront (longest : Bool)
  | cutBack (longest : Bool)
  | malformed
  deriving DecidableEq, Repr

/-- What a redirection does with its descriptor. -/
inductive RedirectKind where
  | input
  | output
  /-- Output to a file even if it is there and must not be overwritten. -/
  | overwrite
  | append
  | readWrite
  | duplicate
  | document
  deriving DecidableEq, Repr

mutual

/-- A part of a word. Nothing in a quoted part is split or matched against file names. -/
inductive Segment where
  | text (text : String) (quoted : Bool)
  | parameter (name : String) (form : ParameterForm) (operand : List Segment) (quoted : Bool)
  | substitution (lines : List Command) (quoted : Bool)
  | arithmetic (expression : List Segment) (quoted : Bool)

/-- A redirection of a descriptor to what its operand names. -/
inductive Redirect where
  | mk (descriptor : Nat) (kind : RedirectKind) (operand : List Segment)

/-- A command. -/
inductive Command where
  | nothing
  | simple (line : Nat) (assignments : List (String × List Segment)) (words : List (List Segment))
      (redirects : List Redirect)
  | pipe (stages : List Command)
  | negation (command : Command)
  | both (first second : Command)
  | either (first second : Command)
  | sequence (first second : Command)
  | background (command : Command)
  | subshell (body : Command)
  | redirected (line : Nat) (body : Command) (redirects : List Redirect)
  | conditional (condition yes no : Command)
  | loop (untilTrue : Bool) (condition body : Command)
  | forEach (name : String) (words : List (List Segment)) (body : Command)
  | choice (subject : List Segment) (arms : List (List (List Segment) × Command))
  | function (name : String) (body : Command)

end

/-- A word, part by part. -/
abbrev Word := List Segment

/-- A text as a word without quotes. -/
def Word.plain (text : String) : Word :=
  [.text text false]

/-- The text of a word that is one unquoted text. -/
def Word.bareText? : Word → Option String
  | [.text text false] => some text
  | _ => none

/-- A word that assigns to a variable, in two parts. -/
def splitAssignment : Word → Option (String × Word)
  | .text text false :: rest =>
    let name := text.toList.takeWhile (· ≠ '=')
    match text.toList.dropWhile (· ≠ '=') with
    | '=' :: value =>
      if isName (String.ofList name) then
        some (String.ofList name,
          if value.isEmpty then rest else .text (String.ofList value) false :: rest)
      else none
    | _ => none
  | _ => none

/-- Texts next to each other put together where both are quoted or both are not. -/
def Word.merge : Word → Word
  | [] => []
  | .text a q :: rest =>
    match Word.merge rest with
    | .text b r :: rest =>
      if q = r then .text (a ++ b) q :: rest else .text a q :: .text b r :: rest
    | rest => .text a q :: rest
  | segment :: rest => segment :: Word.merge rest

end Pipeline.Shell
