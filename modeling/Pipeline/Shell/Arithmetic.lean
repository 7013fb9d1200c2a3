import Pipeline.Shell.Token
import Pipeline.Text.Digit

/-!
# Shell arithmetic

Expressions on 64-bit whole numbers. A part that is not taken is read, but it assigns nothing and
divides by nothing.
-/

namespace Pipeline.Shell.Arithmetic

/-- The characters left and the values of variables. -/
structure Calculation where
  rest : List Char
  values : String → Option String
  assigned : List (String × Int) := []

/-- A reader of expressions; an error is a text. -/
abbrev Reader := StateT Calculation (Except String)

/-- The value in 64 bits. -/
def wrap (n : Int) : Int :=
  n.bmod (Nat.pow 2 64)

/-- The value of a number as it is written; a zero in front makes it octal. -/
def natOf? (cs : List Char) : Option Nat :=
  match cs with
  | '0' :: 'x' :: rest => Text.natIn? 16 rest
  | '0' :: 'X' :: rest => Text.natIn? 16 rest
  | '0' :: c :: rest => Text.natIn? 8 (c :: rest)
  | cs => Text.natIn? 10 cs

/-- The value of a number that may have a sign. -/
def intOf? (text : String) : Option Int :=
  match text.toList with
  | '-' :: rest => (natOf? rest).map fun n => -n
  | '+' :: rest => (natOf? rest).map Int.ofNat
  | cs => (natOf? cs).map Int.ofNat

/-- The next character that is no blank. -/
def peek : Reader (Option Char) := do
  modify fun s => { s with rest := s.rest.dropWhile fun c => c = ' ' ∨ c = '\t' ∨ c = '\n' }
  return (← get).rest.head?

/-- Reads `sign` if it comes next. -/
def takeSign (sign : String) : Reader Bool := do
  let _ ← peek
  let s ← get
  if sign.toList.isPrefixOf s.rest then
    set { s with rest := s.rest.drop sign.length }
    return true
  else return false

/-- The operators with two operands by how tightly they bind, the longest of each level first. -/
def operators : List (Nat × String) :=
  [(2, "||"), (3, "&&"), (4, "|"), (5, "^"), (6, "&"), (7, "=="), (7, "!="), (8, "<="), (8, ">="),
    (9, "<<"), (9, ">>"), (8, "<"), (8, ">"), (10, "+"), (10, "-"), (11, "*"), (11, "/"), (11, "%")]

/-- The operator that comes next, if it binds at least as tightly as `level`. -/
def peekOperator (level : Nat) : Reader (Option (Nat × String)) := do
  let _ ← peek
  let rest := (← get).rest
  let candidates := operators.filter fun op => op.2.toList.isPrefixOf rest
  let best := candidates.foldl (fun best op =>
    match best with
    | none => some op
    | some b => if b.2.length < op.2.length then some op else some b) none
  return best.filter fun op =>
    level ≤ op.1 &&
      !((rest.drop op.2.length).head? == some '=' &&
        !(["==", "!=", "<=", ">=", "<", ">", "&&", "||"].contains op.2))

/-- The value of two operands. -/
def apply (op : String) (a b : Int) : Except String Int :=
  let truth (c : Bool) : Except String Int := .ok (if c then 1 else 0)
  match op with
  | "||" => truth (a ≠ 0 ∨ b ≠ 0)
  | "&&" => truth (a ≠ 0 ∧ b ≠ 0)
  | "|" => .ok ((BitVec.ofInt 64 a ||| BitVec.ofInt 64 b).toInt)
  | "^" => .ok ((BitVec.ofInt 64 a ^^^ BitVec.ofInt 64 b).toInt)
  | "&" => .ok ((BitVec.ofInt 64 a &&& BitVec.ofInt 64 b).toInt)
  | "==" => truth (a = b)
  | "!=" => truth (a ≠ b)
  | "<=" => truth (a ≤ b)
  | ">=" => truth (b ≤ a)
  | "<" => truth (a < b)
  | ">" => truth (b < a)
  | "<<" => .ok (wrap (a * Nat.pow 2 (b % 64).toNat))
  | ">>" => .ok (a.fdiv (Nat.pow 2 (b % 64).toNat))
  | "+" => .ok (wrap (a + b))
  | "-" => .ok (wrap (a - b))
  | "*" => .ok (wrap (a * b))
  | "/" => if b = 0 then .error "division by zero" else .ok (wrap (a.tdiv b))
  | _ => if b = 0 then .error "division by zero" else .ok (a.tmod b)

/-- The value of a variable, zero if it has none. -/
def valueOf (name : String) : Reader Int := do
  let s ← get
  match s.assigned.lookup name with
  | some n => return n
  | none =>
    match s.values name with
    | none => return 0
    | some text =>
      if text.isEmpty then return 0
      else
        match intOf? text with
        | some n => return wrap n
        | none => throw ("Illegal number: " ++ text)

/-- The operator of an assignment that comes next. -/
def takeAssignment : Reader (Option String) := do
  let _ ← peek
  let rest := (← get).rest
  match rest with
  | '=' :: '=' :: _ => return none
  | '=' :: _ =>
    let _ ← takeSign "="
    return some ""
  | _ =>
    match ["<<", ">>", "+", "-", "*", "/", "%", "&", "|", "^"].find? fun op =>
      (op ++ "=").toList.isPrefixOf rest with
    | some op =>
      let _ ← takeSign (op ++ "=")
      return some op
    | none => return none

mutual

/-- A whole expression: a choice, or what binds more tightly. -/
def expression : Nat → Bool → Reader Int
  | 0, _ => throw "expecting EOF"
  | fuel + 1, taken => do
    let condition ← operation fuel taken 2 (← operand fuel taken)
    if ← takeSign "?" then
      let yes ← expression fuel (taken && condition != 0)
      if ← takeSign ":" then
        let no ← expression fuel (taken && condition == 0)
        return if condition ≠ 0 then yes else no
      else throw "expecting ':'"
    else return condition

/-- The operators after a first operand that bind at least as tightly as `level`. -/
def operation : Nat → Bool → Nat → Int → Reader Int
  | 0, _, _, a => return a
  | fuel + 1, taken, level, a => do
    match ← peekOperator level with
    | none => return a
    | some (strength, op) =>
      let _ ← takeSign op
      let taken' := taken && !(op == "||" && a != 0) && !(op == "&&" && a == 0)
      let b ← operation fuel taken' (strength + 1) (← operand fuel taken')
      let value ←
        match apply op a b with
        | .ok n => pure n
        | .error e => if taken' then throw e else pure 0
      operation fuel taken level value

/-- An operand: a number, a variable, or an expression in parentheses, with signs before it. -/
def operand : Nat → Bool → Reader Int
  | 0, _ => throw "expecting primary"
  | fuel + 1, taken => do
    match ← peek with
    | none => throw "expecting primary"
    | some c =>
      if c = '(' then
        let _ ← takeSign "("
        let n ← expression fuel taken
        if ← takeSign ")" then return n else throw "expecting ')'"
      else if c = '-' then
        let _ ← takeSign "-"
        return wrap (-(← operand fuel taken))
      else if c = '+' then
        let _ ← takeSign "+"
        operand fuel taken
      else if c = '!' then
        let _ ← takeSign "!"
        return if (← operand fuel taken) = 0 then 1 else 0
      else if c = '~' then
        let _ ← takeSign "~"
        return -(← operand fuel taken) - 1
      else if c.isDigit then
        let s ← get
        let digits := s.rest.takeWhile Char.isAlphanum
        set { s with rest := s.rest.drop digits.length }
        match natOf? digits with
        | some n => return wrap n
        | none => throw "expecting EOF"
      else if c.isAlpha ∨ c = '_' then
        let s ← get
        let name := s.rest.takeWhile fun c => c.isAlphanum || c == '_'
        set { s with rest := s.rest.drop name.length }
        let name := String.ofList name
        match ← takeAssignment with
        | none => valueOf name
        | some op =>
          let value ← expression fuel taken
          let value ←
            if op.isEmpty then pure value
            else
              match apply op (← valueOf name) value with
              | .ok n => pure n
              | .error e => if taken then throw e else pure 0
          if taken then modify fun s => { s with assigned := (name, value) :: s.assigned }
          return value
      else throw "expecting primary"

end

/-- The value of a text and the assignments that it makes, the last first. -/
def evaluate (values : String → Option String) (text : String) :
    Except String (Int × List (String × Int)) := do
  let cs := text.toList
  let start : Calculation := { rest := cs, values := values }
  let read : Reader Int := do
    if (← peek).isNone then return 0
    let n ← expression (8 * cs.length + 16) true
    if (← peek).isSome then throw "expecting EOF"
    return n
  match read.run start with
  | .ok (n, s) => .ok (n, s.assigned)
  | .error e =>
    if "Illegal number".toList.isPrefixOf e.toList then .error e
    else .error ("arithmetic expression: " ++ e ++ ": \"" ++ text ++ "\"")

end Pipeline.Shell.Arithmetic
