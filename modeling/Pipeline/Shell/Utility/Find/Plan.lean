import Pipeline.Shell.Mode
import Pipeline.Shell.Regex.OfText
import Pipeline.Shell.Utility.Arguments
import Pipeline.Shell.Utility.Date
import Pipeline.Shell.Utility.Find.Term

/-!
# Plans for going through trees

How the arguments of `find` are read: first operands, then words for conditions and actions, some of
which take arguments of their own or say how trees are gone through.
-/

namespace Pipeline.Shell.Utility.Find

/-- Which links are followed. -/
inductive Follow where
  | none
  | operands
  | all
  deriving DecidableEq, Repr

/-- How regular expressions are written. -/
inductive RegexSyntax where
  /-- Only parentheses and bars need a backslash to be operators. -/
  | mixed
  | basic
  | extended
  deriving DecidableEq, Repr

/-- What is to be done on the way through trees. -/
structure Plan where
  signs : List Sign := []
  /-- The word of the last condition or action. -/
  lastWord : Option String := none
  least : Nat := 0
  most : Option Nat := none
  /-- Directories come after what is in them. -/
  inward : Bool := false
  inwardAsked : Bool := false
  follow : Follow := .none
  style : RegexSyntax := .mixed
  /-- Whether it is said what to do with files that were found. -/
  acts : Bool := false
  deletes : Bool := false
  prunes : Bool := false
  outputs : List String := []
  warnings : List String := []
  gathered : Nat := 0

/-- The plan with another sign. -/
def Plan.withSign (p : Plan) (sign : Sign) : Plan :=
  { p with signs := addSign p.signs sign }

/-- The plan with another condition. -/
def Plan.withCondition (p : Plan) (c : Condition) : Plan :=
  p.withSign (.leaf (.condition c))

/-- The plan with another action. -/
def Plan.withAction (p : Plan) (a : Action) : Plan :=
  { p.withSign (.leaf (.action a)) with acts := true }

/-- The way that regular expressions are written by its name. -/
def RegexSyntax.ofName? (name : String) : Option RegexSyntax :=
  match name with
  | "findutils-default" | "emacs" => some .mixed
  | "ed" | "grep" | "posix-basic" | "posix-minimal-basic" | "sed" => some .basic
  | "gnu-awk" | "posix-awk" | "awk" | "posix-egrep" | "egrep" | "posix-extended" => some .extended
  | _ => Option.none

/-- A mixed expression in the extended style; `inSet` says that a bracket is open. -/
def extendedOf : Bool → List Char → List Char
  | _, [] => []
  | true, c :: cs => c :: extendedOf (c ≠ ']') cs
  | false, '[' :: '^' :: ']' :: cs => '[' :: '^' :: ']' :: extendedOf true cs
  | false, '[' :: ']' :: cs => '[' :: ']' :: extendedOf true cs
  | false, '[' :: cs => '[' :: extendedOf true cs
  | false, '\\' :: c :: cs =>
    if c = '(' ∨ c = ')' ∨ c = '|' then c :: extendedOf false cs
    else '\\' :: c :: extendedOf false cs
  | false, c :: cs =>
    if c = '(' ∨ c = ')' ∨ c = '|' ∨ c = '\x7b' then '\\' :: c :: extendedOf false cs
    else c :: extendedOf false cs

/-- The expression of a text that is written in some way. -/
def RegexSyntax.regex (style : RegexSyntax) (text : String) : Except RegexError Regex :=
  match style with
  | .mixed => Regex.ofText { extended := true, lenient := true } (extendedOf false text.toList)
  | .basic => Regex.ofText {} text.toList
  | .extended => Regex.ofText { extended := true } text.toList

/-- The letters of kinds, with commas between them. -/
def kindsOf (word text : String) : Except String (List Char) := do
  let known := "bcdpflsD".toList
  let check (letters : List Char) (c : Char) : Except String (List Char) :=
    if !known.contains c then .error ("Unknown argument to " ++ word ++ ": " ++ c.toString)
    else if letters.contains c then
      .error ("Duplicate file type '" ++ c.toString ++ "' in the argument list to " ++ word ++ ".")
    else .ok (letters ++ [c])
  let rec go (letters : List Char) : List Char → Except String (List Char)
    | [] => .error ("Arguments to " ++ word ++ " should contain at least one letter")
    | [c] => check letters c
    | [c, ','] => do
      let _ ← check letters c
      .error ("Last file type in list argument to " ++ word ++
        " is missing, i.e., list is ending on: ','")
    | c :: ',' :: cs => do
      let letters ← check letters c
      go letters cs
    | c :: _ => do
      let _ ← check letters c
      .error ("Must separate multiple arguments to " ++ word ++ " using: ','")
  go [] text.toList

/-- The size that a text asks for, and its unit. -/
def sizeCondition (text : String) : Except String Condition :=
  match text.toList.getLast? with
  | none => .error "invalid null argument to -size"
  | some c =>
    let unit? : Option Nat :=
      match c with
      | 'b' => some 512
      | 'c' => some 1
      | 'w' => some 2
      | 'k' => some 1024
      | 'M' => some 1048576
      | 'G' => some 1073741824
      | c => if c.isDigit then some 512 else none
    match unit? with
    | none => .error ("invalid -size type \x60" ++ c.toString ++ "'")
    | some unit =>
      let bare := if c.isDigit then text else String.ofList text.toList.dropLast
      match Amount.ofText? bare with
      | some amount => .ok (.size amount unit)
      | none => .error ("Invalid argument \x60" ++ text ++ "' to -size")

/-- The permissions that a text asks for. -/
def modeCondition (text : String) : Except String Condition :=
  let (use, bare) : ModeUse × String :=
    match text.toList with
    | '-' :: cs => (.every, String.ofList cs)
    | '/' :: cs => (.some, String.ofList cs)
    | _ => (.exactly, text)
  match if bare.isEmpty then none else changedMode? 0 false bare 0 with
  | some 0 =>
    .ok (.permissions (if use = .some then .every else use) 0)
  | some bits => .ok (.permissions use bits)
  | none => .error ("invalid mode " ++ quotedArgument text)

/-- The pieces of a format, what is to be warned of, and whether it ends in the middle of a field;
`fuel` exceeds its length. -/
def piecesOf : Nat → List Char → Except String (List Piece × List String)
  | 0, _ => .ok ([], [])
  | _, [] => .ok ([], [])
  | fuel + 1, '\\' :: cs => do
    let more (piece : Piece) (rest : List Char) (warnings : List String := []) :
        Except String (List Piece × List String) := do
      let (pieces, others) ← piecesOf fuel rest
      return (piece :: pieces, warnings ++ others)
    match cs with
    | [] => more (.text ['\\']) [] ["escape \x60\\' followed by nothing at all"]
    | 'c' :: _ => return ([.stop], [])
    | c :: rest =>
      let digits := (cs.takeWhile Escape.isOctal).take 3
      if !digits.isEmpty then more (.text [Escape.octalOctet digits]) (cs.drop digits.length)
      else
        match if c = 'e' then none else Escape.letterOctet? c with
        | some octet => more (.text [octet]) rest
        | none =>
          more (.text ['\\', c]) rest ["unrecognized escape \x60\\" ++ c.toString ++ "'"]
  | fuel + 1, '%' :: cs => do
    let more (piece : Piece) (rest : List Char) (warnings : List String := []) :
        Except String (List Piece × List String) := do
      let (pieces, others) ← piecesOf fuel rest
      return (piece :: pieces, warnings ++ others)
    let (v, rest, _) := takeConversion cs []
    let written := '%' :: cs.take (cs.length - rest.length)
    match rest with
    | [] => throw "error: % at end of format string"
    | '%' :: rest => more (.text ['%']) rest
    | c :: rest =>
      if "ABCT".toList.contains c then
        match rest with
        | [] =>
          more (.text (written ++ [c])) []
            ["format directive \x60%" ++ c.toString ++ "' should be followed by another character"]
        | d :: rest => more (.field v c d) rest
      else if "abcdDfFgGhHiklmMnpPsStuUyY".toList.contains c then more (.field v c ' ') rest
      else
        more (.text (written ++ [c])) rest
          ["unrecognized format directive \x60%" ++ c.toString ++ "'"]
  | fuel + 1, cs => do
    let text := cs.takeWhile fun c => c != '\\' && c != '%'
    let (pieces, warnings) ← piecesOf fuel (cs.drop text.length)
    return (.text text :: pieces, warnings)

/-- The command at the front of arguments and what comes after its end, `true` if it is one for many
files. -/
def commandOf (word : String) (many : Bool) (args : List String) :
    Except String (List String × Bool × List String) := do
  let mark := "\x7b\x7d"
  let holdsMark (arg : String) : Bool := 1 < (arg.splitOn mark).length
  let rec go (acc : List String) : List String → Except String (List String × Bool × List String)
    | [] => .error ("missing argument to \x60" ++ word ++ "'")
    | ";" :: rest =>
      if acc.isEmpty then .error ("invalid argument \x60;' to \x60" ++ word ++ "'")
      else .ok (acc.reverse, false, rest)
    | arg :: rest =>
      if arg = "+" ∧ many ∧ acc.head?.any holdsMark then .ok (acc.reverse, true, rest)
      else go (arg :: acc) rest
  let (command, gathers, rest) ← go [] args
  if gathers then
    let marked := command.filter holdsMark
    if 1 < marked.length then
      throw ("Only one instance of \x7b\x7d is supported with " ++ word ++ " ... +")
    if let some arg := marked.find? (· ≠ mark) then
      throw ("In '" ++ word ++ " ... \x7b\x7d +' the '\x7b\x7d' must appear by itself, " ++
        "but you specified " ++ quotedArgument arg)
  return (command, gathers, rest)

/-- The words that are only there to be there. -/
def idleWords : List String :=
  ["-noleaf", "-mount", "-xdev", "-warn", "-nowarn", "-daystart", "-ignore_readdir_race",
    "-noignore_readdir_race"]

/-- What a file is compared with. -/
def placeOfOperand (s : State) (operand : String) : Except String Place :=
  match s.files.locate s.workingDir operand with
  | .ok (place, _) => .ok place
  | .error e => .error (quotedArgument operand ++ ": " ++ e.reason)

/-- A condition of a word with an argument; `none` if it is no such word. -/
def conditionOf? (s : State) (p : Plan) (word value : String) :
    Option (Except String Condition) :=
  let pattern (fold : Bool) : Pattern :=
    patternOfText (if fold then String.ofList (value.toList.map Char.toLower) else value)
  let invalid : String := "invalid argument \x60" ++ value ++ "' to \x60" ++ word ++ "'"
  let amount (f : Amount → Condition) : Except String Condition :=
    match Amount.ofText? value with
    | some a => .ok (f a)
    | none => .error invalid
  let regex (fold : Bool) : Except String Condition :=
    match p.style.regex value with
    | .ok r => .ok (.regex r fold)
    | .error e =>
      .error ("failed to compile regular expression '" ++ value ++ "': " ++ e.message)
  let time : Except String Condition :=
    match timeOfDate? (presentOf s) value with
    | some t => .ok (.newerThanTime t)
    | none =>
      .error ("I cannot figure out how to interpret " ++ quotedArgument value ++
        " as a date or time")
  let owner (name ending : String) : Except String Condition :=
    if value = name then .ok (.owner (.exactly 0))
    else
      match value.toNat? with
      | some n => .ok (.owner (.exactly n))
      | none => .error (quotedArgument value ++ " is not the name of " ++ ending)
  let newer : Except String Condition := (placeOfOperand s value).map .newerThan
  match word with
  | "-name" => some (.ok (.name (pattern false) false))
  | "-iname" => some (.ok (.name (pattern true) true))
  | "-path" | "-wholename" => some (.ok (.path (pattern false) false))
  | "-ipath" | "-iwholename" => some (.ok (.path (pattern true) true))
  | "-lname" => some (.ok (.target (pattern false) false))
  | "-ilname" => some (.ok (.target (pattern true) true))
  | "-regex" => some (regex false)
  | "-iregex" => some (regex true)
  | "-type" => some ((kindsOf word value).map fun letters => .kind letters false)
  | "-xtype" => some ((kindsOf word value).map fun letters => .kind letters true)
  | "-size" => some (sizeCondition value)
  | "-perm" => some (modeCondition value)
  | "-links" => some (amount .links)
  | "-inum" => some (amount .serial)
  | "-uid" | "-gid" => some (amount .owner)
  | "-user" => some (owner "root" "a known user")
  | "-group" => some (owner "root" "an existing group")
  | "-mtime" | "-atime" | "-ctime" => some (amount fun a => .age a 86400 true)
  | "-mmin" | "-amin" | "-cmin" => some (amount fun a => .age a 60 false)
  | "-used" => some (amount fun _ => .constant false)
  | "-newer" | "-anewer" | "-cnewer" => some newer
  | "-samefile" => some ((placeOfOperand s value).map .same)
  | "-fstype" => some (.ok (.constant (value == "ext4" || value == "overlay")))
  | _ =>
    match word.toList with
    | ['-', 'n', 'e', 'w', 'e', 'r', x, y] =>
      if !"acmB".toList.contains x || !"acmBt".toList.contains y then none
      else if y = 't' then some time
      else some newer
    | _ => none

/-- A condition or an action of a word without arguments, or a way to go through trees. -/
def plainWord? (p : Plan) (word : String) : Option Plan :=
  let shown (what : Shown) : Option Plan := some (p.withAction (.write what none))
  match word with
  | "-print" => shown (.path "\n")
  | "-print0" => shown (.path "\x00")
  | "-ls" => shown .long
  | "-delete" => some { p.withAction .delete with inward := true, deletes := true }
  | "-prune" => some { p.withSign (.leaf (.action .prune)) with prunes := true }
  | "-quit" => some (p.withAction .quit)
  | "-true" | "-readable" | "-writable" => some (p.withCondition (.constant true))
  | "-false" | "-nouser" | "-nogroup" => some (p.withCondition (.constant false))
  | "-empty" => some (p.withCondition .empty)
  | "-executable" => some (p.withCondition .executable)
  | "-depth" | "-d" => some { p.withCondition (.constant true) with
      inward := true, inwardAsked := true }
  | "-follow" => some { p.withCondition (.constant true) with follow := .all }
  | "(" => some (p.withSign (.opening true word))
  | ")" => some (p.withSign (.closing true word))
  | "!" | "-not" => some (p.withSign (.negation word))
  | "-a" | "-and" => some (p.withSign (.joint .both word))
  | "-o" | "-or" => some (p.withSign (.joint .either word))
  | "," => some (p.withSign (.joint .next word))
  | _ => if idleWords.contains word then some (p.withCondition (.constant true)) else none

/-- The plan with what a word and the arguments after it ask for, and the arguments that are
left. -/
def readWord (s : State) (p : Plan) (word : String) (args : List String) :
    Except String (Plan × List String) := do
  let missing : String := "missing argument to \x60" ++ word ++ "'"
  let depth (f : Nat → Plan) : Except String (Plan × List String) :=
    match args with
    | [] => .error missing
    | value :: rest =>
      match value.toNat? with
      | some n => .ok ((f n).withCondition (.constant true), rest)
      | none =>
        .error ("Expected a positive decimal integer argument to " ++ word ++ ", but got " ++
          quotedArgument value)
  let format (file : Option String) (args : List String) : Except String (Plan × List String) :=
    match args with
    | [] => .error missing
    | text :: rest => do
      let (pieces, warnings) ← piecesOf (text.length + 1) text.toList
      let p := p.withAction (.write (.format pieces) file)
      return ({ p with
        warnings := p.warnings ++ warnings, outputs := p.outputs ++ file.toList }, rest)
  let file (what : Shown) : Except String (Plan × List String) :=
    match args with
    | [] => .error missing
    | name :: rest =>
      .ok ({ p.withAction (.write what (some name)) with outputs := p.outputs ++ [name] }, rest)
  let command (inPlace asks : Bool) : Except String (Plan × List String) := do
    let (command, gathers, rest) ← commandOf word (!asks) args
    if gathers then
      let p := p.withAction (.gather p.gathered command inPlace)
      return ({ p with gathered := p.gathered + 1 }, rest)
    else return (p.withAction (.run command inPlace asks), rest)
  match word with
  | "-maxdepth" => depth fun n => { p with most := some n }
  | "-mindepth" => depth fun n => { p with least := n }
  | "-printf" => format none args
  | "-fprintf" =>
    match args with
    | [] => throw missing
    | name :: rest => format (some name) rest
  | "-fprint" => file (.path "\n")
  | "-fprint0" => file (.path "\x00")
  | "-fls" => file .long
  | "-exec" => command false false
  | "-execdir" => command true false
  | "-ok" => command false true
  | "-okdir" => command true true
  | "-context" => throw "invalid predicate -context: SELinux is not enabled."
  | "-regextype" =>
    match args with
    | [] => throw missing
    | name :: rest =>
      match RegexSyntax.ofName? name with
      | some style => return ({ p with style := style }.withCondition (.constant true), rest)
      | none =>
        throw ("Unknown regular expression type " ++ quotedArgument name ++
          "; valid types are 'findutils-default', 'ed', 'emacs', 'gnu-awk', " ++
          "'grep', 'posix-awk', " ++
          "'awk', 'posix-basic', 'posix-egrep', 'egrep', " ++
          "'posix-extended', 'posix-minimal-basic', " ++
          "'sed'.")
  | _ =>
    if let some p := plainWord? p word then return (p, args)
    match conditionOf? s p word (args.headD "") with
    | none =>
      if "-newer".toList.isPrefixOf word.toList then throw ("invalid predicate \x60" ++ word ++ "'")
      else throw ("unknown predicate \x60" ++ word ++ "'")
    | some found =>
      match args with
      | [] => throw missing
      | _ :: rest =>
        let c ← found
        return (p.withCondition c, rest)

/-- Whether an argument belongs to a term and not to the operands before it. -/
def isWord (first : Bool) (arg : String) : Bool :=
  match arg.toList with
  | ['-'] => false
  | '-' :: _ | ['('] | ['!'] => true
  | [')'] | [','] => !first
  | _ => false

/-- The plan of the words of a term; an error comes with lines of advice. -/
def readWords (s : State) : Nat → Plan → List String → Except (List String) Plan
  | 0, p, _ => .ok p
  | _, p, [] => .ok p
  | fuel + 1, p, word :: rest =>
    if !isWord false word then
      let advice := p.lastWord.filter fun _ => (s.files.at? s.workingDir word).isSome
      .error (("paths must precede expression: \x60" ++ word ++ "'") :: (advice.map fun last =>
        "possible unquoted pattern after predicate \x60" ++ last ++ "'?").toList)
    else
      match readWord s p word rest with
      | .error problem => .error [problem]
      | .ok (p, rest) => readWords s fuel { p with lastWord := some word } rest

/-- The options before the operands, and the arguments after them. -/
def takeOptions : Nat → Plan → List String → Plan × List String
  | fuel + 1, p, "-H" :: rest => takeOptions fuel { p with follow := .operands } rest
  | fuel + 1, p, "-L" :: rest => takeOptions fuel { p with follow := .all } rest
  | fuel + 1, p, "-P" :: rest => takeOptions fuel { p with follow := .none } rest
  | fuel + 1, p, "-D" :: _ :: rest => takeOptions fuel p rest
  | _, p, "--" :: rest => (p, rest)
  | fuel + 1, p, arg :: rest =>
    match arg.toList with
    | '-' :: 'O' :: _ => takeOptions fuel p rest
    | _ => (p, arg :: rest)
  | _, p, args => (p, args)

/-- The operands, the plan, and the term of arguments. -/
def readArguments (s : State) (args : List String) :
    Except (List String) (List String × Plan × Term) := do
  let (p, args) := takeOptions (args.length + 1) {} args
  let operands := args.takeWhile fun arg => !isWord true arg
  let p ← readWords s (args.length + 1) p (args.drop operands.length)
  let shown : Term := .action (.write (.path "\n") none)
  let whole : Except SignError Term :=
    if p.signs.isEmpty then .ok shown
    else if p.acts then termOf p.signs
    else
      (termOf ([.opening false "("] ++ p.signs ++ [.closing false ")"])).map fun t => .both t shown
  match whole with
  | .error e => throw [e.message]
  | .ok t =>
    if p.deletes && p.prunes && !p.inwardAsked then
      throw ["The -delete action automatically turns on -depth, but -prune does nothing when " ++
        "-depth is in effect.  If you want to carry on anyway, just explicitly use the -depth " ++
        "option."]
    return (if operands.isEmpty then ["."] else operands, p, t)

end Pipeline.Shell.Utility.Find
