import Pipeline.Shell.Regex.OfText
import Pipeline.Shell.Utility.Order

/-!
# Expressions of arguments

The values of expressions whose operators and operands are arguments: numbers and texts are
compared, computed with, and matched.
-/

namespace Pipeline.Shell.Utility

/-- Why an expression has no value, and the status for it. -/
structure ExpressionError where
  text : String
  status : Nat := 2

/-- The arguments that are left. -/
abbrev ExpressionReader := StateT (List String × Option String) (Except ExpressionError)

namespace ExpressionReader

/-- The expression has no value. -/
def fail {α : Type} (text : String) : ExpressionReader α :=
  throw ⟨text, 2⟩

/-- The next argument is taken if it is one of these. -/
def takeOne (wanted : List String) : ExpressionReader (Option String) := do
  match ← get with
  | (arg :: rest, _) =>
    if wanted.contains arg then
      set (rest, some arg)
      return some arg
    else return none
  | ([], _) => return none

/-- The next argument. -/
def takeAny : ExpressionReader String := do
  match ← get with
  | (arg :: rest, _) =>
    set (rest, some arg)
    return arg
  | ([], last) =>
    fail ("syntax error: missing argument after " ++ quotedArgument (last.getD ""))

end ExpressionReader

/-- The number that a text is. -/
def integer? (text : String) : Option Int :=
  match text.toList with
  | '-' :: c :: cs =>
    if (c :: cs).all Char.isDigit then (String.ofList (c :: cs)).toNat?.map fun n => -(n : Int)
    else none
  | c :: cs => if (c :: cs).all Char.isDigit then (text.toNat?.map fun n => (n : Int)) else none
  | [] => none

/-- Whether a value counts as false: nothing, or zero. -/
def isNull (text : String) : Bool :=
  text.isEmpty || integer? text == some 0

/-- What a basic expression matches at the front of a text: its first group, or the number of octets
if there is none. -/
def matchFront (text pattern : String) : ExpressionReader String := do
  match Regex.ofText { extended := false, lenient := true } pattern.toList with
  | .error e => ExpressionReader.fail e.message
  | .ok r =>
    let cs := text.toList.toArray
    let found := r.matchAt? false cs 0
    if r.groupCount = 0 then return toString ((found.map Match.stop).getD 0)
    else
      match (found.map Match.groups).bind fun groups => Regex.groupOf groups 1 with
      | some (start, stop) => return String.ofList ((text.toList.take stop).drop start)
      | none => return ""

/-- The value of an operator between two numbers. -/
def computed (op a b : String) : ExpressionReader String := do
  match integer? a, integer? b with
  | some x, some y =>
    if (op = "/" ∨ op = "%") ∧ y = 0 then ExpressionReader.fail "division by zero"
    else
      return toString <|
        match op with
        | "+" => x + y
        | "-" => x - y
        | "*" => x * y
        | "/" => x.tdiv y
        | _ => x.tmod y
  | _, _ => ExpressionReader.fail "non-integer argument"

/-- The value of a comparison: of numbers if both are, of texts otherwise. -/
def compared (op a b : String) : String :=
  let order :=
    match integer? a, integer? b with
    | some x, some y => compare x y
    | _, _ => compareOctets a.toList b.toList
  let holds : Bool :=
    match op with
    | "<" => order == .lt
    | "<=" => order != .gt
    | "=" | "==" => order == .eq
    | "!=" => order != .eq
    | ">=" => order != .lt
    | _ => order == .gt
  if holds then "1" else "0"

mutual

/-- A single operand, or an operator written as a word. -/
def primary : Nat → Bool → ExpressionReader String
  | 0, _ => return ""
  | fuel + 1, counts => do
    match ← ExpressionReader.takeAny with
    | "+" => ExpressionReader.takeAny
    | "(" =>
      let value ← choice fuel counts
      match ← get with
      | (")" :: rest, _) =>
        set (rest, some ")")
        return value
      | (other :: _, _) =>
        ExpressionReader.fail ("syntax error: expecting ')' instead of " ++ quotedArgument other)
      | ([], last) =>
        ExpressionReader.fail ("syntax error: expecting ')' after " ++
          quotedArgument (last.getD ""))
    | ")" => ExpressionReader.fail "syntax error: unexpected ')'"
    | "match" =>
      let text ← primary fuel counts
      let pattern ← primary fuel counts
      if counts then matchFront text pattern else return ""
    | "index" =>
      let text ← primary fuel counts
      let wanted ← primary fuel counts
      return toString
        (((text.toList.findIdx? fun c => wanted.toList.contains c).map (· + 1)).getD 0)
    | "length" => return toString (← primary fuel counts).length
    | "substr" =>
      let text ← primary fuel counts
      let start ← primary fuel counts
      let size ← primary fuel counts
      match integer? start, integer? size with
      | some i, some n =>
        if i < 1 ∨ n < 1 then return ""
        else return String.ofList ((text.toList.drop (i.toNat - 1)).take n.toNat)
      | _, _ => return ""
    | text => return text

/-- Matches one after the other. -/
def matched : Nat → Bool → String → ExpressionReader String
  | 0, _, value => return value
  | fuel + 1, counts, value => do
    match ← ExpressionReader.takeOne [":"] with
    | none => return value
    | some _ =>
      let pattern ← primary fuel counts
      let next ← if counts then matchFront value pattern else pure ""
      matched fuel counts next

/-- Operators of a rank from the left; `rank` 0 stands for products, 1 for sums, 2 for
comparisons. -/
def ranked : Nat → Nat → Bool → ExpressionReader String
  | 0, _, _ => return ""
  | fuel + 1, rank, counts => do
    let operand : ExpressionReader String :=
      match rank with
      | 0 => do matched fuel counts (← primary fuel counts)
      | rank + 1 => ranked fuel rank counts
    rankedAfter fuel rank counts (← operand)

/-- The operators of a rank after a value. -/
def rankedAfter : Nat → Nat → Bool → String → ExpressionReader String
  | 0, _, _, value => return value
  | fuel + 1, rank, counts, value => do
    let operators :=
      match rank with
      | 0 => ["*", "/", "%"]
      | 1 => ["+", "-"]
      | _ => ["<", "<=", "=", "==", "!=", ">=", ">"]
    match ← ExpressionReader.takeOne operators with
    | none => return value
    | some op =>
      let other ←
        match rank with
        | 0 => do matched fuel counts (← primary fuel counts)
        | rank + 1 => ranked fuel rank counts
      let next ←
        if !counts then pure ""
        else if rank < 2 then computed op value other
        else pure (compared op value other)
      rankedAfter fuel rank counts next

/-- Values of which all have to count. -/
def conjunction : Nat → Bool → ExpressionReader String
  | 0, _ => return ""
  | fuel + 1, counts => do conjunctionAfter fuel counts (← ranked fuel 2 counts)

/-- What has to count besides a value. -/
def conjunctionAfter : Nat → Bool → String → ExpressionReader String
  | 0, _, value => return value
  | fuel + 1, counts, value => do
    match ← ExpressionReader.takeOne ["&"] with
    | none => return value
    | some _ =>
      let other ← ranked fuel 2 (counts && !isNull value)
      conjunctionAfter fuel counts (if isNull value || isNull other then "0" else value)

/-- Values of which the first that counts is taken. -/
def choice : Nat → Bool → ExpressionReader String
  | 0, _ => return ""
  | fuel + 1, counts => do choiceAfter fuel counts (← conjunction fuel counts)

/-- What is taken if a value does not count. -/
def choiceAfter : Nat → Bool → String → ExpressionReader String
  | 0, _, value => return value
  | fuel + 1, counts, value => do
    match ← ExpressionReader.takeOne ["|"] with
    | none => return value
    | some _ =>
      let other ← conjunction fuel (counts && isNull value)
      choiceAfter fuel counts
        (if !isNull value then value else if isNull other then "0" else other)

end

/-- Writes the value of an expression. -/
def expr (args : List String) : Act Nat := do
  let args := match args with | "--" :: rest => rest | args => args
  if args.isEmpty then reportUse "expr" "missing operand" 2
  else
    match (choice (8 * args.length + 16) true).run (args, none) with
    | .error e =>
      report "expr" e.text
      return e.status
    | .ok (_, (extra :: _, _)) =>
      report "expr" ("syntax error: unexpected argument " ++ quotedArgument extra)
      return 2
    | .ok (value, _) =>
      Act.say (value ++ "\n")
      return if isNull value then 1 else 0

end Pipeline.Shell.Utility
