import Pipeline.Shell.Regex.OfText

/-!
# Programs on records

What a program of `awk` says: for the records that a pattern selects, statements are carried out.
Its expressions have numbers and texts as values, and variables that may stand for tables of them.
-/

namespace Pipeline.Shell.Utility.Awk

/-- An operation on two numbers. -/
inductive NumberOp where
  | add
  | subtract
  | multiply
  | divide
  | remainder
  | power
  deriving DecidableEq, Repr

/-- A comparison. -/
inductive Comparison where
  | less
  | lessEqual
  | equal
  | notEqual
  | greater
  | greaterEqual
  deriving DecidableEq, Repr

/-- Where a line is read from. -/
inductive Source (ε : Type) where
  | main
  | file (name : ε)
  | command (text : ε)

/-- An expression. -/
inductive Expr where
  | number (x : Float)
  | text (s : String)
  /-- Whether the record matches a pattern. -/
  | regex (r : Regex)
  | variable (name : String)
  | field (index : Expr)
  | element (table : String) (keys : List Expr)
  | assign (target value : Expr)
  | assignOp (op : NumberOp) (target value : Expr)
  /-- A variable is changed by one; `before` says that the new value counts. -/
  | step (amount : Float) (before : Bool) (target : Expr)
  | both (a b : Expr)
  | either (a b : Expr)
  | choice (test yes no : Expr)
  | fits (negated : Bool) (subject pattern : Expr)
  | compare (c : Comparison) (a b : Expr)
  | arithmetic (op : NumberOp) (a b : Expr)
  | joined (a b : Expr)
  | negate (a : Expr)
  | plus (a : Expr)
  | not (a : Expr)
  | member (keys : List Expr) (table : String)
  | grouped (a : Expr)
  | builtin (name : String) (args : List Expr)
  | call (name : String) (args : List Expr)
  | getLine (source : Source Expr) (target : Option Expr)

/-- Where output goes. -/
inductive Destination where
  | output
  | file (name : Expr)
  | appended (name : Expr)
  | command (text : Expr)

/-- A statement. -/
inductive Statement where
  | expression (e : Expr)
  | print (args : List Expr) (target : Destination)
  | format (args : List Expr) (target : Destination)
  | block (body : List Statement)
  | choice (test : Expr) (yes no : Statement)
  | whileLoop (test : Expr) (body : Statement)
  | doWhile (body : Statement) (test : Expr)
  /-- A loop with a beginning, a test that may be missing, and a step after each turn. -/
  | loop (start : Statement) (test : Option Expr) (step body : Statement)
  | forEach (name table : String) (body : Statement)
  | next
  | nextFile
  | exit (status : Option Expr)
  | giveBack (value : Option Expr)
  | leave
  | goOn
  | delete (table : String) (keys : Option (List Expr))

/-- The records that statements are for. -/
inductive Pattern where
  | first
  | last
  | always
  | condition (e : Expr)
  | range (number : Nat) (start stop : Expr)

/-- Statements for some records. -/
structure Rule where
  pattern : Pattern
  body : Statement

/-- A function of a program. -/
structure Function where
  params : List String
  body : Statement

/-- A program. -/
structure Program where
  rules : List Rule := []
  functions : List (String × Function) := []

/-- Whether something may be assigned to. -/
def Expr.isPlace : Expr → Bool
  | .variable _ | .field _ | .element _ _ => true
  | _ => false

/-- How many arguments a builtin function takes. -/
def builtinArity? (name : String) : Option (Nat × Nat) :=
  match name with
  | "length" => some (0, 1)
  | "index" => some (2, 2)
  | "substr" => some (2, 3)
  | "sprintf" => some (1, 255)
  | "sin" | "cos" | "exp" | "log" | "sqrt" | "int" => some (1, 1)
  | "atan2" => some (2, 2)
  | "rand" | "systime" => some (0, 0)
  | "srand" => some (0, 1)
  | "close" | "system" | "toupper" | "tolower" | "mktime" => some (1, 1)
  | "fflush" => some (0, 1)
  | "strftime" => some (0, 3)
  | "match" => some (2, 2)
  | "split" | "sub" | "gsub" => some (2, 3)
  | _ => none

/-- Why a pattern is refused. -/
def patternProblem : RegexError → String
  | .unmatchedOpen => "missing ')'"
  | .unmatchedClose => "missing '('"
  | .unmatchedBracket | .badPattern => "bad class -- [], [^] or ["
  | .badClass => "bad character class"
  | _ => "missing operand"

/-- Whether a choice or a group in a pattern has nothing in it. -/
def lacksOperand : Regex → Bool
  | .either a b => isNothing a || isNothing b || lacksOperand a || lacksOperand b
  | .group _ r => isNothing r || lacksOperand r
  | .both a b => lacksOperand a || lacksOperand b
  | .repeated r _ _ => lacksOperand r
  | _ => false
where
  /-- Whether an expression is empty. -/
  isNothing : Regex → Bool
    | .empty => true
    | _ => false

/-- The expression of a pattern, or why it is refused. -/
def patternOf (text : String) : Except String Regex :=
  let style : RegexStyle :=
    { extended := true, letters := true, inSets := true, bare := true }
  match Regex.ofText style text.toList with
  | .ok r => if lacksOperand r then .error "missing operand" else .ok r
  | .error e => .error (patternProblem e)

end Pipeline.Shell.Utility.Awk
