import Pipeline.Shell.State

/-!
# Conditions of a shell

The expressions of `test`: conditions on files, texts and numbers, put together by negation, both
and either. An expression of three words with an operator in the middle is always that operator's.
-/

namespace Pipeline.Shell.Test

/-- Why an expression has no value. -/
abbrev Problem := String

/-- The words that are left. -/
abbrev Reader := StateT (List String) (Except Problem)

/-- The number of a word. -/
def numberOf (word : String) : Except Problem Int :=
  let bare := String.ofList ((word.toList.dropWhile (· = ' ')).reverse.dropWhile (· = ' ')).reverse
  let digits := match bare.toList with | '+' :: rest => String.ofList rest | _ => bare
  match digits.toInt? with
  | some n => .ok n
  | none => .error ("Illegal number: " ++ word)

/-- The operators between two words. -/
def binaryOperators : List String :=
  ["=", "!=", "<", ">", "-eq", "-ne", "-gt", "-ge", "-lt", "-le", "-nt", "-ot", "-ef"]

/-- The operators before a word. -/
def unaryOperators : List String :=
  ["-z", "-n", "-e", "-f", "-d", "-s", "-r", "-w", "-x", "-h", "-L", "-p", "-c", "-b", "-t", "-u",
    "-g", "-k", "-S", "-O", "-G"]

/-- The value of an operator between two words. -/
def binary (s : State) (op a b : String) : Except Problem Bool := do
  let isNewer (a b : String) : Bool := s.files.isNewer s.workingDir a b
  match op with
  | "=" => .ok (a = b)
  | "!=" => .ok (a ≠ b)
  | "<" => .ok (a < b)
  | ">" => .ok (b < a)
  | "-eq" => .ok ((← numberOf a) = (← numberOf b))
  | "-ne" => .ok ((← numberOf a) ≠ (← numberOf b))
  | "-gt" => .ok ((← numberOf b) < (← numberOf a))
  | "-ge" => .ok ((← numberOf b) ≤ (← numberOf a))
  | "-lt" => .ok ((← numberOf a) < (← numberOf b))
  | "-nt" => .ok (isNewer a b)
  | "-ot" => .ok (isNewer b a)
  | "-ef" => .ok (s.files.isSame s.workingDir a b)
  | _ => .ok ((← numberOf a) ≤ (← numberOf b))

/-- The value of an operator before a word. -/
def unary (s : State) (op word : String) : Bool :=
  let entry := s.files.at? s.workingDir word
  let allows (bits : Nat) : Bool :=
    match s.files.locate s.workingDir word with
    | .ok (place, _) => s.files.modeOf place &&& bits != 0
    | .error _ => false
  match op with
  | "-z" => word.isEmpty
  | "-n" => !word.isEmpty
  | "-e" | "-r" | "-w" | "-O" | "-G" => entry.isSome
  | "-f" => s.files.isFile s.workingDir word
  | "-d" => s.files.isDirectory s.workingDir word
  | "-x" => allows 0o111
  | "-u" => allows 0o4000
  | "-g" => allows 0o2000
  | "-k" => allows 0o1000
  | "-h" | "-L" =>
    match s.files.ownAt? s.workingDir word with
    | some (.link _) => true
    | _ => false
  | "-c" =>
    match entry with
    | some (.device _) => true
    | _ => false
  | "-s" =>
    match entry with
    | some (.file content) => !content.isEmpty
    | some .directory => true
    | _ => false
  | _ => false

mutual

/-- An expression: conditions of which one has to hold. -/
def expression (s : State) : Nat → Reader Bool
  | 0 => return false
  | fuel + 1 => do
    let a ← conjunction s fuel
    match ← get with
    | "-o" :: rest =>
      set rest
      let b ← expression s fuel
      return a || b
    | _ => return a

/-- Conditions that all have to hold. -/
def conjunction (s : State) : Nat → Reader Bool
  | 0 => return false
  | fuel + 1 => do
    let a ← negation s fuel
    match ← get with
    | "-a" :: rest =>
      set rest
      let b ← conjunction s fuel
      return a && b
    | _ => return a

/-- A condition, or its negation. -/
def negation (s : State) : Nat → Reader Bool
  | 0 => return false
  | fuel + 1 => do
    match ← get with
    | "!" :: b :: rest =>
      if binaryOperators.contains b && !rest.isEmpty then primary s fuel
      else
        set (b :: rest)
        return !(← negation s fuel)
    | _ => primary s fuel

/-- A condition without signs around it. -/
def primary (s : State) : Nat → Reader Bool
  | 0 => return false
  | fuel + 1 => do
    match ← get with
    | [] => return false
    | [a] =>
      set ([] : List String)
      return !a.isEmpty
    | a :: b :: rest =>
      match binaryOperators.contains b, rest with
      | true, c :: rest =>
        set rest
        binary s b a c
      | true, [] => throw (b ++ ": argument expected")
      | _, _ =>
        if a = "(" then
          set (b :: rest)
          let value ← expression s fuel
          match ← get with
          | ")" :: rest =>
            set rest
            return value
          | _ => throw "closing paren expected"
        else if unaryOperators.contains a then
          set rest
          return unary s a b
        else
          set (b :: rest)
          return !a.isEmpty

end

/-- The words without parentheses around two of them. -/
def withoutParentheses : List String → List String
  | ["(", a, b, ")"] => [a, b]
  | words => words

/-- The value of words; if one is left over, the word before it should have been an operator's. -/
def evaluate (s : State) (words : List String) : Except Problem Bool := do
  let words := withoutParentheses words
  if words.isEmpty then return false
  else
    match ← (expression s (4 * words.length + 4)).run words with
    | (value, []) => return value
    | (_, rest) =>
      let before := words.getD (words.length - rest.length - 1) ""
      throw ((if before.isEmpty then "" else before ++ ": ") ++ "unexpected operator")

end Pipeline.Shell.Test
