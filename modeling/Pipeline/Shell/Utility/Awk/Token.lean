import Pipeline.Number.Machine
import Pipeline.Number.Scan
import Pipeline.Shell.CharClass
import Pipeline.Shell.Escape

/-!
# Tokens of programs on records

The text of a program is cut into tokens. A slash begins a pattern where nothing before it can be
divided.
-/

namespace Pipeline.Shell.Utility.Awk

/-- What is wrong with a program. -/
inductive Problem where
  | unexpectedCharacter (c : Char)
  | extra (c : Char)
  | runawayText (start : String)
  | runawayPattern (start : String)
  | missing (c : Char) (near : String)
  | near (token : String)
  | wrongCount (name : String)
  | neverDefined (name : String)
  | redefined (name : String)
  | illegalTable (name : String)
  | illegalVariable (name : String)
  | tooManyArguments (name : String)
  | returnOutside
  | misplacedNext
  | outsideLoop (word : String)
  | duplicateParameter (name : String)
  | badPattern (text reason : String)
  deriving DecidableEq, Repr

/-- What is said of a problem in a line. -/
def Problem.lines (line : Nat) (p : Problem) : List String :=
  let place := "line " ++ toString line ++ ": "
  match p with
  | unexpectedCharacter c => [toString line ++ ": unexpected character '" ++ c.toString ++ "'"]
  | extra '\x7d' => [place ++ "extra '\x7d'", place ++ "syntax error at or near end of line"]
  | extra c => [place ++ "extra '" ++ c.toString ++ "'"]
  | runawayText start => [place ++ "runaway string constant \"" ++ start ++ " ..."]
  | runawayPattern start => [place ++ "runaway regular expression /" ++ start ++ " ..."]
  | missing c token => [place ++ "missing " ++ c.toString ++ " near " ++ token]
  | near token => [place ++ "syntax error at or near " ++ token]
  | wrongCount name => [place ++ "wrong number of arguments in call to " ++ name]
  | neverDefined name => [place ++ "function " ++ name ++ " never defined"]
  | redefined name => [place ++ "redefinition of " ++ name]
  | illegalTable name => [place ++ "illegal reference to array " ++ name]
  | illegalVariable name => [place ++ "illegal reference to variable " ++ name]
  | tooManyArguments name => [place ++ "too many arguments in call to " ++ name]
  | returnOutside => [place ++ "return outside function body"]
  | misplacedNext => [place ++ "improper use of next"]
  | outsideLoop word => [place ++ word ++ " statement outside of loop"]
  | duplicateParameter name => [place ++ name ++ " is duplicated in argument list"]
  | badPattern text reason =>
    [place ++ "regular expression compile failed (" ++ reason ++ ")\n" ++ text]

/-- A token. -/
inductive Token where
  | number (x : Float) (written : String)
  | text (s : String)
  | regex (s : String)
  | name (s : String)
  /-- A name with a parenthesis directly after it. -/
  | call (s : String)
  | builtin (s : String)
  | word (s : String)
  | sign (s : String)
  | newline
  | finish
  | bad (p : Problem)

/-- A token with the line that it is in. -/
structure PlacedToken where
  token : Token
  line : Nat

/-- A token as messages show it. -/
def Token.shown : Token → String
  | number _ written => written
  | text s | name s | call s | builtin s | word s | sign s => s
  | regex s => "/" ++ s ++ "/"
  | newline => "end of line"
  | finish => "end of file"
  | bad _ => ""

/-- Whether a token can be divided. -/
def Token.isOperand : Token → Bool
  | .number _ _ | .text _ | .regex _ | .name _ | .builtin _ => true
  | .sign s => [")", "]", "++", "--", "$"].contains s
  | .word s => s = "getline"
  | _ => false

/-- The words with a meaning of their own. -/
def words : List String :=
  ["BEGIN", "END", "function", "if", "else", "while", "for", "do", "break", "continue", "next",
    "nextfile", "exit", "return", "delete", "in", "getline", "print", "printf"]

/-- The functions that every program has. -/
def builtinNames : List String :=
  ["length", "index", "substr", "sprintf", "sin", "cos", "exp", "log", "sqrt", "int",
    "atan2", "rand",
    "systime", "srand", "close", "system", "toupper", "tolower", "mktime", "fflush", "strftime",
    "match", "split", "sub", "gsub"]

/-- The signs, longer ones before those that they start with. -/
def signs : List String :=
  ["&&", "||", "==", "!=", "<=", ">=", ">>", "++", "--", "+=", "-=", "*=", "/=", "%=", "^=", "!~",
    "\x7b", "\x7d", "(", ")", "[", "]", ";", ",", "+", "-", "*", "/", "%", "^", "!", "<", ">", "=",
    "~", "?", ":", "$", "|"]

/-- A text with its escapes put in; a backslash without a meaning stays. `fuel` exceeds its
length. -/
def unescaped : Nat → List Char → List Char
  | 0, _ => []
  | _, [] => []
  | fuel + 1, '\\' :: c :: cs =>
    let digits := ((c :: cs).takeWhile Escape.isOctal).take 3
    let hex := (cs.takeWhile fun d => (Text.hexValue? d).isSome).take 2
    if !digits.isEmpty then
      Escape.octalOctet digits :: unescaped fuel ((c :: cs).drop digits.length)
    else if c = '\n' then unescaped fuel cs
    else if c = '"' then '"' :: unescaped fuel cs
    else if c = 'x' ∧ !hex.isEmpty then
      Char.ofNat (Number.digitsValue 16 hex) :: unescaped fuel (cs.drop hex.length)
    else
      match if c = 'e' then none else Escape.letterOctet? c with
      | some octet => octet :: unescaped fuel cs
      | none => '\\' :: c :: unescaped fuel cs
  | fuel + 1, c :: cs => c :: unescaped fuel cs

/-- The text up to the closing quote as it is written, and what comes after it; `none` if its line
ends before. -/
def takeText : List Char → List Char → List Char × Option (List Char)
  | acc, '\\' :: c :: cs => takeText (c :: '\\' :: acc) cs
  | acc, '"' :: cs => (acc.reverse, some cs)
  | acc, '\n' :: _ => (acc.reverse, none)
  | acc, c :: cs => takeText (c :: acc) cs
  | acc, [] => (acc.reverse, none)

/-- The pattern up to the closing slash, and what comes after it; `none` if its line ends before.
`inSet` says that a set of characters is open. -/
def takePattern : Bool → List Char → List Char → List Char × Option (List Char)
  | inSet, acc, '\\' :: c :: cs =>
    if c = '\n' then (acc.reverse, none) else takePattern inSet (c :: '\\' :: acc) cs
  | false, acc, '/' :: cs => (acc.reverse, some cs)
  | _, acc, '\n' :: _ => (acc.reverse, none)
  | false, acc, '[' :: '^' :: ']' :: cs => takePattern true (']' :: '^' :: '[' :: acc) cs
  | false, acc, '[' :: ']' :: cs => takePattern true (']' :: '[' :: acc) cs
  | false, acc, '[' :: cs => takePattern true ('[' :: acc) cs
  | true, acc, ']' :: cs => takePattern false (']' :: acc) cs
  | inSet, acc, c :: cs => takePattern inSet (c :: acc) cs
  | _, acc, [] => (acc.reverse, none)

/-- The token of a name, where `rest` comes after it. -/
def tokenOfName (s : String) (rest : List Char) : Token :=
  if words.contains s then .word s
  else if builtinNames.contains s then .builtin s
  else if rest.head? = some '(' then .call s
  else .name s

/-- The number of digits before and after a point. -/
def numberOf (whole fraction : List Char) (power : Int) : Float :=
  let (n, d) := Number.powerRatio (Number.digitsValue 10 (whole ++ fraction)) 10
    (power - fraction.length) 800
  (Number.Floating.ofRatio false n d).toFloat

/-- How many braces and parentheses are open. -/
structure Nesting where
  braces : Nat := 0
  parentheses : Nat := 0

/-- How a sign changes what is open; `none` if it closes what is not open. -/
def Nesting.after? (n : Nesting) (sign : String) : Option Nesting :=
  match sign with
  | "\x7b" => some { n with braces := n.braces + 1 }
  | "(" => some { n with parentheses := n.parentheses + 1 }
  | "\x7d" => if n.braces = 0 then none else some { n with braces := n.braces - 1 }
  | ")" => if n.parentheses = 0 then none else some { n with parentheses := n.parentheses - 1 }
  | _ => some n

/-- The tokens of a text from a line on; `fuel` exceeds its length. -/
def tokensOf : Nat → Nat → Nesting → Option Token → List Char → List PlacedToken
  | 0, line, _, _, _ => [⟨.finish, line⟩]
  | _, line, _, _, [] => [⟨.finish, line⟩]
  | fuel + 1, line, nesting, before, c :: cs =>
    let one (token : Token) (rest : List Char) : List PlacedToken :=
      ⟨token, line⟩ :: tokensOf fuel line nesting (some token) rest
    let signed : List PlacedToken :=
      match signs.find? fun s => s.toList.isPrefixOf (c :: cs) with
      | none => [⟨.bad (.unexpectedCharacter c), line⟩]
      | some s =>
        let s := if s = "/=" ∧ cs.head? ≠ some '=' then "/" else s
        match nesting.after? s with
        | none => [⟨.bad (.extra c), line⟩]
        | some nesting =>
          ⟨.sign s, line⟩ :: tokensOf fuel line nesting (some (.sign s)) ((c :: cs).drop s.length)
    if c = '\n' then ⟨.newline, line⟩ :: tokensOf fuel (line + 1) nesting (some .newline) cs
    else if c = ' ' ∨ c = '\t' ∨ c = '\r' then tokensOf fuel line nesting before cs
    else if c = '#' then tokensOf fuel line nesting before (cs.dropWhile (· ≠ '\n'))
    else if c = '\\' then
      match cs with
      | '\n' :: rest => tokensOf fuel (line + 1) nesting before rest
      | '\r' :: '\n' :: rest => tokensOf fuel (line + 1) nesting before rest
      | _ => [⟨.bad (.unexpectedCharacter c), line⟩]
    else if c = '"' then
      match takeText [] cs with
      | (written, some rest) =>
        one (.text (String.ofList (unescaped (written.length + 1) written))) rest
      | (written, none) => [⟨.bad (.runawayText (String.ofList (written.take 10))), line⟩]
    else if c.isDigit ∨ (c = '.' ∧ cs.head?.any Char.isDigit) then
      match Number.scanDigits Char.isDigit (c :: cs) with
      | some (whole, fraction, rest) =>
        let (power, rest) := Number.scanPower 'e' 'E' rest
        let written := String.ofList ((c :: cs).take (cs.length + 1 - rest.length))
        one (.number (numberOf whole fraction power) written) rest
      | none => one (.number 0 "0") cs
    else if c.isAlpha ∨ c = '_' then
      let name := (c :: cs).takeWhile isWordChar
      let rest := (c :: cs).drop name.length
      one (tokenOfName (String.ofList name) rest) rest
    else if c = '/' ∧ !before.any Token.isOperand then
      match takePattern false [] cs with
      | (pattern, some rest) => one (.regex (String.ofList pattern)) rest
      | (pattern, none) => [⟨.bad (.runawayPattern (String.ofList (pattern.take 10))), line⟩]
    else signed

/-- The tokens of a program. -/
def tokens (text : List Char) : List PlacedToken :=
  let text := if text.getLast? = some '\n' then text else text ++ ['\n']
  tokensOf (text.length + 1) 1 {} none text

end Pipeline.Shell.Utility.Awk
