import Pipeline.Shell.Builtin.Arguments
import Pipeline.Shell.Pattern

/-!
# Builtins that read

A line of standard input is split among variables, and options are read from arguments one at a
time.
-/

namespace Pipeline.Shell

/-- Whether a character ends fields: a separator that is not quoted. -/
def isSeparator (separators : List Char) (c : Marked) : Bool :=
  !c.2 && separators.contains c.1

/-- Whether a character is a separator of which several count as one. -/
def isBlankSeparator (separators : List Char) (c : Marked) : Bool :=
  isSeparator separators c && (c.1 == ' ' || c.1 == '\t' || c.1 == '\n')

/-- The field at the front, and what comes after the separators that end it. -/
def takeField (separators : List Char) (cs : List Marked) : List Marked × List Marked :=
  let field := cs.takeWhile (!isSeparator separators ·)
  let rest := (cs.drop field.length).dropWhile (isBlankSeparator separators)
  match rest with
  | c :: more =>
    if isSeparator separators c then (field, more.dropWhile (isBlankSeparator separators))
    else (field, rest)
  | [] => (field, [])

/-- How far the last value has been read: where the separators start that may have to be cut from
its end, and whether they may still go on with one that is not blank. -/
structure LastValue where
  cut : Option Nat := none
  ended : Bool := false
  afterBlank : Bool := false

/-- The last value after one more character, which is at an index. Quoted characters change
nothing. -/
def LastValue.add (separators : List Char) (v : LastValue) (c : Marked × Nat) : LastValue :=
  let separates := isSeparator separators c.1
  let blank := isBlankSeparator separators c.1
  if c.1.2 then v
  else if !v.ended then
    if separates then { cut := some c.2, ended := true, afterBlank := blank } else v
  else if blank then { v with cut := v.cut <|> some c.2 }
  else { v with cut := if separates && v.afterBlank then v.cut else none, afterBlank := false }

/-- All that is left of a line as one value: without the separators after a single field, otherwise
without blanks at its end. -/
def lastValue (separators : List Char) (cs : List Marked) : List Marked :=
  match (cs.zipIdx.foldl (LastValue.add separators) {}).cut with
  | some n => cs.take n
  | none => cs

/-- A line as a number of values: the last takes all that is left. -/
def splitLine (separators : List Char) : Nat → List Marked → List String
  | 0, _ => []
  | 1, cs => [plainText (lastValue separators cs)]
  | n + 2, cs =>
    let (field, rest) := takeField separators cs
    plainText field :: splitLine separators (n + 1) rest

/-- The characters of a line whose backslashes protect what comes after them, and whether it goes on
in the next line. -/
def markLine : List Char → List Marked × Bool
  | ['\\'] => ([], true)
  | '\\' :: c :: rest =>
    let (cs, more) := markLine rest
    ((c, true) :: cs, more)
  | c :: rest =>
    let (cs, more) := markLine rest
    ((c, false) :: cs, more)
  | [] => ([], false)

/-- The next line of standard input, joined with those that it goes on in, and whether it has an
end; `fuel` exceeds the number of lines. -/
def takeLine (raw : Bool) : Nat → Act (List Marked × Bool)
  | 0 => return ([], false)
  | fuel + 1 => do
    let (line, whole) ← Act.readLine
    let line := line.filter (· ≠ '\x00')
    if raw then return (line.map fun c => (c, false), whole)
    else
      let (cs, more) := markLine line
      if more && whole then
        let (rest, whole) ← takeLine raw fuel
        return (cs ++ rest, whole)
      else return (cs, whole)

namespace Builtin

/-- Reads a line into variables. -/
def read (args : List String) : Act Nat := do
  let (options, names) ← takeOptions "read" "p:r" (args.length + 1) args
  if names.isEmpty then abort "read" "arg count"
  let raw := options.any fun o => o.1 == 'r'
  let (line, whole) ← takeLine raw (← Act.inputSize)
  let separators := (← get).separators
  let start := line.dropWhile (isBlankSeparator separators)
  for (name, value) in names.zip (splitLine separators names.length start) do
    if !isName name then abort "read" (name ++ ": bad variable name")
    Act.assign name value
  return if whole then 0 else 1

/-- Whether a letter is known, and whether it takes a value. -/
def letterUse? (known : List Char) (c : Char) : Option Bool :=
  match known.dropWhile (· ≠ c) with
  | _ :: ':' :: _ => some true
  | _ :: _ => some false
  | [] => none

/-- The letters of options that are left to read at an index, and the index after their argument. -/
def lettersAt (words : List String) (index taken : Nat) : List Char × Nat :=
  match if taken = 0 ∨ index < 2 then [] else (words.getD (index - 2) "").toList.drop taken with
  | c :: cs => (c :: cs, index)
  | [] =>
    match (words[index - 1]?).map String.toList with
    | some ['-', '-'] => ([], index + 1)
    | some ('-' :: c :: cs) => (c :: cs, index + 1)
    | _ => ([], index)

/-- Reads the next option of the arguments into a variable, and its value into `OPTARG`. -/
def getopts (args : List String) : Act Nat := do
  match args with
  | known :: name :: rest =>
    let s ← get
    let words := if rest.isEmpty then s.positions else rest
    let (index, taken) :=
      if words.length + 1 < s.optionIndex then (1, 0) else (s.optionIndex, s.lettersTaken)
    let silent := known.toList.head? = some ':'
    let (letters, index) := lettersAt words index taken
    let finish (letter : Char) (index : Nat) (left : Option (List Char)) : Act Unit := do
      Act.assign "OPTIND" (toString index)
      if !isName name then abort "getopts" (name ++ ": bad variable name")
      Act.assign name letter.toString
      let size := (words.getD (index - 2) "").length
      modify fun s => { s with lettersTaken := left.elim 0 fun cs => size - cs.length }
    let complain (letter : Char) (c : Char) (text : String) : Act Char := do
      if silent then
        Act.assign "OPTARG" c.toString
        return letter
      else
        Act.warn text
        modify fun s => s.withoutVariable "OPTARG"
        return '?'
    match letters with
    | [] =>
      finish '?' index none
      return 1
    | c :: cs =>
      match letterUse? known.toList c, cs, words[index - 1]? with
      | none, cs, _ =>
        let letter ← complain '?' c ("Illegal option -" ++ c.toString ++ "\n")
        finish letter index (some cs)
      | some false, cs, _ =>
        Act.assign "OPTARG" ""
        finish c index (some cs)
      | some true, [], none =>
        let letter ← complain ':' c ("No arg for -" ++ c.toString ++ " option\n")
        finish letter index none
      | some true, [], some value =>
        Act.assign "OPTARG" value
        finish c (index + 1) none
      | some true, cs, _ =>
        Act.assign "OPTARG" (String.ofList cs)
        finish c index none
      return 0
  | _ => abort "getopts" "Usage: getopts optstring var [arg...]"

end Builtin

end Pipeline.Shell
