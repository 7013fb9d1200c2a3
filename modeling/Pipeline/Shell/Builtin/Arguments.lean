import Pipeline.Shell.State

/-!
# Arguments of builtins

How a builtin reads its options and numbers, and how it tells what is wrong. An error of a builtin
ends the shell where the builtin is a special one.
-/

namespace Pipeline.Shell.Builtin

/-- Writes an error of a builtin. -/
def report (name text : String) : Act Unit :=
  Act.complainFor (some name) text

/-- Ends what is under way with an error of a builtin. -/
def abort {α : Type} (name text : String) : Act α := do
  report name text
  Act.setStatus 2
  throw .failure

/-- The number that an argument writes with digits alone. -/
def number (name text : String) : Act Nat := do
  if !text.isEmpty && text.toList.all Char.isDigit then return text.toNat?.getD 0
  else abort name ("Illegal number: " ++ text)

/-- The letters of one argument, each with its value: a letter before a colon in `known` takes the
rest of the argument or the next one. -/
def takeLetters (name : String) (known : List Char) :
    List Char → List String → Act (List (Char × String) × List String)
  | [], rest => return ([], rest)
  | c :: cs, rest => do
    match known.dropWhile (· ≠ c) with
    | _ :: ':' :: _ =>
      match cs, rest with
      | [], [] => abort name ("No arg for -" ++ c.toString ++ " option")
      | [], value :: rest => return ([(c, value)], rest)
      | cs, rest => return ([(c, String.ofList cs)], rest)
    | _ :: _ =>
      let (more, rest) ← takeLetters name known cs rest
      return ((c, "") :: more, rest)
    | [] => abort name ("Illegal option -" ++ c.toString)

/-- The options at the front of arguments, and the arguments after them; `fuel` exceeds the number
of arguments. -/
def takeOptions (name known : String) :
    Nat → List String → Act (List (Char × String) × List String)
  | 0, args => return ([], args)
  | fuel + 1, args =>
    match args with
    | [] => return ([], [])
    | arg :: rest => do
      match arg.toList with
      | ['-', '-'] => return ([], rest)
      | '-' :: c :: cs =>
        let (found, rest) ← takeLetters name known.toList (c :: cs) rest
        let (more, rest) ← takeOptions name known fuel rest
        return (found ++ more, rest)
      | _ => return ([], args)

/-- A value as a shell reads it back: single quotes around what has none, double quotes around
quotes. -/
def quotedValue (value : String) : String :=
  String.ofList (go (value.length + 1) value.toList)
where
  /-- A stretch without quotes, the quotes after it, and what comes after them. -/
  go : Nat → List Char → List Char
    | 0, _ => []
    | fuel + 1, cs =>
      let bare := cs.takeWhile (· ≠ '\'')
      let rest := cs.drop bare.length
      let quotes := rest.takeWhile (· = '\'')
      let after := rest.drop quotes.length
      ['\''] ++ bare ++ ['\''] ++
        (if quotes.isEmpty then [] else ['"'] ++ quotes ++ ['"']) ++
        if after.isEmpty then [] else go fuel after

/-- The part of an assignment before its sign, and the value after it if there is a sign. -/
def splitAtEquals (arg : String) : String × Option String :=
  let name := arg.toList.takeWhile (· ≠ '=')
  match arg.toList.drop name.length with
  | _ :: value => (String.ofList name, some (String.ofList value))
  | [] => (arg, none)

end Pipeline.Shell.Builtin
