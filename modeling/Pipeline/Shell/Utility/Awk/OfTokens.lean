import Pipeline.Shell.Utility.Awk.Syntax
import Pipeline.Shell.Utility.Awk.Token

/-!
# Programs on records from tokens

How a program is put together from its tokens. Expressions have levels, each of which joins parts of
tighter levels; within the arguments of a statement for output, some signs have another meaning.
-/

namespace Pipeline.Shell.Utility.Awk

/-- What a name stands for. -/
inductive NameUse where
  | value
  | table
  deriving DecidableEq, Repr

/-- What is known while a program is read. -/
structure Parsing where
  rest : List PlacedToken
  line : Nat := 1
  /-- How many parentheses and braces are open. -/
  nesting : Nesting := {}
  names : List (String × NameUse) := []
  /-- The parameters of the function that is read, with what they are known to stand for. -/
  own : Option (List (String × Option NameUse)) := none
  /-- How many loops are open. -/
  loops : Nat := 0
  /-- Whether the statements are for records. -/
  onRecords : Bool := false
  functions : List (String × Function) := []
  calls : List (String × Nat) := []
  rules : List Rule := []
  ranges : Nat := 0

/-- A reader of programs; a problem comes with its line. -/
abbrev Parser := StateT Parsing (Except (Problem × Nat))

/-- Gives up. -/
def refuse {α : Type} (p : Problem) : Parser α := do
  throw (p, (← get).line)

/-- The next token, which is left. -/
def peek : Parser Token := do
  match (← get).rest with
  | [] => return .finish
  | t :: _ =>
    modify fun s => { s with line := t.line }
    if let .bad p := t.token then refuse p
    return t.token

/-- The token after the next one. -/
def peekSecond : Parser Token := do
  match (← get).rest with
  | _ :: t :: _ => return t.token
  | _ => return .finish

/-- Goes on behind the next token. -/
def advance : Parser Unit :=
  modify fun s =>
    match s.rest with
    | [] => s
    | t :: rest =>
      let nesting :=
        match t.token with
        | .sign c => (s.nesting.after? c).getD s.nesting
        | _ => s.nesting
      { s with rest := rest, nesting := nesting }

/-- Gives up at the next token. -/
def unexpected {α : Type} : Parser α := do
  let t ← peek
  let s ← get
  let closes : Bool :=
    match t with
    | .sign c => c = "\x7d" || c = ";"
    | .newline | .finish => true
    | _ => false
  if closes && s.nesting.parentheses != 0 then refuse (.missing ')' t.shown)
  match t with
  | .finish => refuse (.missing '\x7d' t.shown)
  | _ => refuse (.near t.shown)

/-- Whether the next token is a sign. -/
def isSign (sign : String) : Parser Bool := do
  match ← peek with
  | .sign s => return s == sign
  | _ => return false

/-- Whether the next token is a word. -/
def isWord (word : String) : Parser Bool := do
  match ← peek with
  | .word s => return s == word
  | _ => return false

/-- Goes on behind a sign if it is there; tells whether it was. -/
def accept (sign : String) : Parser Bool := do
  let found ← isSign sign
  if found then advance
  return found

/-- Goes on behind a word if it is there; tells whether it was. -/
def acceptWord (word : String) : Parser Bool := do
  let found ← isWord word
  if found then advance
  return found

/-- Goes on behind a sign, which has to be there. -/
def expect (sign : String) : Parser Unit := do
  if !(← accept sign) then unexpected

/-- Goes on behind ends of lines, `fuel` of them at most. -/
def skipNewlinesFrom : Nat → Parser Unit
  | 0 => return
  | fuel + 1 => do
    if let .newline := ← peek then
      advance
      skipNewlinesFrom fuel

/-- Goes on behind ends of lines. -/
def skipNewlines : Parser Unit := do
  skipNewlinesFrom (← get).rest.length

/-- Goes on behind ends of statements, `fuel` of them at most. -/
def skipSeparatorsFrom : Nat → Parser Unit
  | 0 => return
  | fuel + 1 => do
    match ← peek with
    | .newline | .sign ";" =>
      advance
      skipSeparatorsFrom fuel
    | _ => return

/-- Goes on behind ends of statements. -/
def skipSeparators : Parser Unit := do
  skipSeparatorsFrom (← get).rest.length

/-- Notes what a name stands for; it cannot stand for something else later. -/
def useName (name : String) (use : NameUse) : Parser Unit := do
  let s ← get
  let clash : Problem :=
    match use with
    | .value => .illegalTable name
    | .table => .illegalVariable name
  match (s.own.getD []).lookup name with
  | some (some known) => if known != use then refuse clash
  | some none =>
    let noted := (s.own.getD []).map fun (n, u) => if n = name then (n, some use) else (n, u)
    set { s with own := some noted }
  | none =>
    match s.names.lookup name with
    | some known => if known != use then refuse clash
    | none => set { s with names := (name, use) :: s.names }

/-- The expression of a pattern, which has to be one. -/
def takeRegex (text : String) : Parser Regex :=
  match patternOf text with
  | .ok r => return r
  | .error reason => refuse (.badPattern text reason)

/-- The levels of expressions, the loosest first. -/
inductive Level where
  | choice
  | either
  | both
  | member
  | fits
  | comparison
  | joined
  | sum
  | product
  | signed
  | piped
  | power
  | stepped
  | simple
  deriving DecidableEq, Repr

/-- The operation that a sign of assignment carries out before. -/
def assignment? (sign : String) : Option (Option NumberOp) :=
  match sign with
  | "=" => some none
  | "+=" => some (some .add)
  | "-=" => some (some .subtract)
  | "*=" => some (some .multiply)
  | "/=" => some (some .divide)
  | "%=" => some (some .remainder)
  | "^=" => some (some .power)
  | _ => none

/-- How a sign joins two parts of a level from left to right. -/
def joint? (level : Level) (greater : Bool) (sign : String) : Option (Expr → Expr → Expr) :=
  match level, sign with
  | .either, "||" => some .either
  | .both, "&&" => some .both
  | .fits, "~" => some (.fits false)
  | .fits, "!~" => some (.fits true)
  | .comparison, "<" => some (.compare .less)
  | .comparison, "<=" => some (.compare .lessEqual)
  | .comparison, "==" => some (.compare .equal)
  | .comparison, "!=" => some (.compare .notEqual)
  | .comparison, ">" => if greater then some (.compare .greater) else none
  | .comparison, ">=" => some (.compare .greaterEqual)
  | .sum, "+" => some (.arithmetic .add)
  | .sum, "-" => some (.arithmetic .subtract)
  | .product, "*" => some (.arithmetic .multiply)
  | .product, "/" => some (.arithmetic .divide)
  | .product, "%" => some (.arithmetic .remainder)
  | _, _ => none

/-- A part that is a pattern: a text that stands there is one at once. -/
def asPattern (e : Expr) : Parser Expr := do
  match e with
  | .text s => return .regex (← takeRegex s)
  | e => return e

/-- Joins parts from left to right; `fuel` exceeds the number of tokens. -/
def leftward (operand : Parser Expr) (joint : String → Option (Expr → Expr → Expr)) :
    Nat → Expr → Parser Expr
  | 0, a => return a
  | fuel + 1, a => do
    let .sign s := ← peek | return a
    let some join := joint s | return a
    advance
    if s = "&&" || s = "||" then skipNewlines
    let b ← operand
    let b ← if s = "~" || s = "!~" then asPattern b else pure b
    leftward operand joint fuel (join a b)

/-- Whether a token can begin a text that is put after another one. -/
def Token.begins : Token → Bool
  | .number _ _ | .text _ | .regex _ | .name _ | .call _ | .builtin _ => true
  | .sign s => ["$", "(", "!", "++", "--"].contains s
  | _ => false

/-- Puts parts one after the other; `fuel` exceeds the number of tokens. -/
def joinedOn (operand : Parser Expr) : Nat → Expr → Parser Expr
  | 0, a => return a
  | fuel + 1, a => do
    if (← peek).begins then joinedOn operand fuel (.joined a (← operand)) else return a

/-- Asks for members of tables, after each of which an expression goes on; `fuel` exceeds the number
of tokens. -/
def membersOn (onward : Expr → Parser Expr) : Nat → Expr → Parser Expr
  | 0, a => return a
  | fuel + 1, a => do
    if ← acceptWord "in" then
      let .name table := ← peek | unexpected
      advance
      useName table .table
      membersOn onward fuel (← onward (.member [a] table))
    else return a

/-- Expressions with commas between them; `fuel` exceeds the number of tokens. -/
def listOn (item : Parser Expr) : Nat → List Expr → Parser (List Expr)
  | 0, acc => return acc.reverse
  | fuel + 1, acc => do
    if ← accept "," then
      skipNewlines
      listOn item fuel ((← item) :: acc)
    else return acc.reverse

/-- Expressions with commas between them. -/
def takeList (item : Parser Expr) : Parser (List Expr) := do
  let first ← item
  listOn item (← get).rest.length [first]

/-- The arguments of a call, up to the closing parenthesis. A name alone may stand for a table. -/
def takeArguments (item : Parser Expr) : Parser (List Expr) := do
  if ← accept ")" then return []
  let args ← takeList do
    match ← peek, ← peekSecond with
    | .name name, .sign s =>
      if s = "," || s = ")" then
        advance
        return .variable name
      else item
    | _, _ => item
  expect ")"
  return args

/-- The keys of an element, up to the closing bracket. -/
def takeKeys (whole : Parser Expr) : Parser (List Expr) := do
  let keys ← takeList whole
  expect "]"
  return keys

/-- A variable or an element of a table. -/
def takeNamed (whole : Parser Expr) (name : String) : Parser Expr := do
  if ← accept "[" then
    useName name .table
    return .element name (← takeKeys whole)
  useName name .value
  return .variable name

/-- What a line is read into, if it is said. -/
def takeTarget? (self : Level → Bool → Parser Expr) : Parser (Option Expr) := do
  match ← peek with
  | .name name =>
    advance
    return some (← takeNamed (self .choice true) name)
  | .sign "$" => return some (← self .simple true)
  | _ => return none

/-- A call of a builtin function. -/
def takeBuiltin (self : Level → Bool → Parser Expr) (name : String) : Parser Expr := do
  if name = "length" && !(← isSign "(") then return .builtin name []
  expect "("
  let whole := self .choice true
  let args ← takeArguments whole
  match name, args with
  | "split", _ :: .variable table :: _ => useName table .table
  | "length", _ => pure ()
  | _, _ =>
    for arg in args do
      if let .variable name := arg then useName name .value
  let count := args.length
  match builtinArity? name with
  | some (least, most) =>
    if count < least && ["sub", "gsub", "split"].contains name then refuse (.near ")")
    else if count < least || most < count then refuse (.wrongCount name)
  | none => pure ()
  match name, args with
  | "match", [subject, pattern] => return .builtin name [subject, ← asPattern pattern]
  | "sub", pattern :: rest | "gsub", pattern :: rest =>
    return .builtin name ((← asPattern pattern) :: rest)
  | _, _ => return .builtin name args

/-- A part that stands for itself. -/
def takeSimple (self : Level → Bool → Parser Expr) : Parser Expr := do
  let whole := self .choice true
  match ← peek with
  | .number x _ =>
    advance
    return .number x
  | .text s =>
    advance
    return .text s
  | .regex s =>
    let r ← takeRegex s
    advance
    return .regex r
  | .name name =>
    advance
    takeNamed whole name
  | .call name =>
    let line := (← get).line
    advance
    expect "("
    let args ← takeArguments whole
    modify fun s => { s with calls := (name, line) :: s.calls }
    if let some f := (← get).functions.lookup name then
      if f.params.length < args.length then refuse (.tooManyArguments name)
    return .call name args
  | .builtin name =>
    advance
    takeBuiltin self name
  | .word "getline" =>
    advance
    let target ← takeTarget? self
    if ← accept "<" then return .getLine (.file (← self .power true)) target
    return .getLine .main target
  | .sign "$" =>
    advance
    match ← peek with
    | .sign "-" =>
      advance
      return .field (.negate (← self .simple true))
    | .sign "++" | .sign "--" => return .field (← self .stepped true)
    | _ => return .field (← self .simple true)
  | .sign "-" =>
    advance
    return .negate (← self .signed true)
  | .sign "+" =>
    advance
    return .plus (← self .signed true)
  | .sign "!" =>
    advance
    return .not (← self .signed true)
  | .sign "(" =>
    advance
    let items ← takeList whole
    expect ")"
    match items with
    | [item] => return .grouped item
    | _ =>
      if !(← acceptWord "in") then unexpected
      let .name table := ← peek | unexpected
      advance
      useName table .table
      return .member items table
  | _ => unexpected

/-- Reads lines from commands; `fuel` exceeds the number of tokens. -/
def linesOn (self : Level → Bool → Parser Expr) : Nat → Expr → Parser Expr
  | 0, a => return a
  | fuel + 1, a => do
    if ← isSign "|" then
      if let .word "getline" := ← peekSecond then
        advance
        advance
        return ← linesOn self fuel (.getLine (.command a) (← takeTarget? self))
    return a

/-- An expression of a level, where `self` reads one that is nested; `greater` says that a sign for
greater numbers compares. -/
def expressionStep (self : Level → Bool → Parser Expr) (level : Level) (greater : Bool) :
    Parser Expr := do
  let size := (← get).rest.length + 1
  let leftFrom (tighter level : Level) (a : Expr) : Parser Expr :=
    leftward (self tighter greater) (joint? level greater) size a
  let leftOf (tighter : Level) : Parser Expr := do
    leftFrom tighter level (← self tighter greater)
  match level with
  | .choice =>
    let test ← self .either greater
    if !(← accept "?") then return test
    skipNewlines
    let yes ← self .choice greater
    skipNewlines
    expect ":"
    skipNewlines
    return .choice test yes (← self .choice greater)
  | .either => leftOf .both
  | .both => leftOf .member
  | .member =>
    let onward (a : Expr) : Parser Expr := do
      leftFrom .comparison .fits (← leftFrom .joined .comparison a)
    membersOn onward size (← self .fits greater)
  | .fits => leftOf .comparison
  | .comparison => leftOf .joined
  | .joined => joinedOn (self .sum greater) size (← self .sum greater)
  | .sum => leftOf .product
  | .product => leftOf .signed
  | .signed =>
    match ← peek with
    | .sign "-" =>
      advance
      return .negate (← self .signed greater)
    | .sign "+" =>
      advance
      return .plus (← self .signed greater)
    | .sign "!" =>
      advance
      return .not (← self .signed greater)
    | _ =>
      let place ← self .piped greater
      let .sign s := ← peek | return place
      match if place.isPlace then assignment? s else none with
      | none => return place
      | some op =>
        advance
        skipNewlines
        let value ← self .choice greater
        return op.elim (.assign place value) fun op => .assignOp op place value
  | .piped => linesOn self size (← self .power greater)
  | .power =>
    let base ← self .stepped greater
    if ← accept "^" then
      let exponent ←
        match ← peek with
        | .sign "-" | .sign "+" | .sign "!" => self .simple greater
        | _ => self .power greater
      return .arithmetic .power base exponent
    return base
  | .stepped =>
    let before? : Option Float ←
      match ← peek with
      | .sign "++" => pure (some 1)
      | .sign "--" => pure (some (-1))
      | _ => pure none
    match before? with
    | some amount =>
      advance
      let place ← self .simple greater
      if !place.isPlace then unexpected
      return .step amount true place
    | none =>
      let place ← self .simple greater
      if place.isPlace then
        if ← accept "++" then return .step 1 false place
        if ← accept "--" then return .step (-1) false place
      return place
  | .simple => takeSimple self

/-- An expression of a level; `fuel` exceeds the depth of the nesting. -/
def expression : Nat → Level → Bool → Parser Expr
  | 0, _, _ => unexpected
  | fuel + 1, level, greater => expressionStep (expression fuel) level greater

/-- How deep expressions are nested at most. -/
def depthLimit : Nat := 100000

/-- A whole expression. -/
def takeExpression (greater : Bool) : Parser Expr :=
  expression depthLimit .choice greater

/-- The token after the parenthesis that closes the one at the front. -/
def afterGroup : Nat → List PlacedToken → Token
  | _, [] => .finish
  | depth, t :: rest =>
    match t.token with
    | .sign "(" => afterGroup (depth + 1) rest
    | .sign ")" =>
      if depth ≤ 1 then
        match rest with
        | next :: more =>
          match next.token, more.head?.map PlacedToken.token with
          | .sign "|", some (.word "getline") => .word "getline"
          | token, _ => token
        | [] => .finish
      else afterGroup (depth - 1) rest
    | _ => afterGroup depth rest

/-- Whether a token ends what a statement writes. -/
def Token.endsOutput : Token → Bool
  | .newline | .finish => true
  | .sign s => [";", "\x7d", ">", ">>", "|"].contains s
  | _ => false

/-- What a statement writes, and where. -/
def takeOutput : Parser (List Expr × Destination) := do
  let items ←
    if (← peek).endsOutput then pure []
    else if (← isSign "(") && (afterGroup 0 (← get).rest).endsOutput then
      advance
      let items ← takeList (takeExpression true)
      expect ")"
      pure items
    else takeList (takeExpression false)
  if ← accept ">" then return (items, .file (← takeExpression true))
  if ← accept ">>" then return (items, .appended (← takeExpression true))
  if ← accept "|" then return (items, .command (← takeExpression true))
  return (items, .output)

/-- The end of a statement. -/
def takeStatementEnd : Parser Unit := do
  match ← peek with
  | .newline | .sign ";" =>
    advance
    skipNewlines
  | .sign "\x7d" => return
  | _ => unexpected

/-- A statement that takes no others in, without its end. -/
def takeSimpleStatement : Parser Statement := do
  let optional : Parser (Option Expr) := do
    match ← peek with
    | .newline | .sign ";" | .sign "\x7d" => return none
    | _ => return some (← takeExpression true)
  match ← peek with
  | .word "print" =>
    advance
    let (items, target) ← takeOutput
    return .print items target
  | .word "printf" =>
    advance
    let (items, target) ← takeOutput
    if items.isEmpty then unexpected
    return .format items target
  | .word "next" =>
    advance
    if !(← get).onRecords then refuse .misplacedNext
    return .next
  | .word "nextfile" =>
    advance
    if !(← get).onRecords then refuse .misplacedNext
    return .nextFile
  | .word "exit" =>
    advance
    return .exit (← optional)
  | .word "return" =>
    advance
    if (← get).own.isNone then refuse .returnOutside
    return .giveBack (← optional)
  | .word "break" =>
    advance
    if (← get).loops = 0 then refuse (.outsideLoop "break")
    return .leave
  | .word "continue" =>
    advance
    if (← get).loops = 0 then refuse (.outsideLoop "continue")
    return .goOn
  | .word "delete" =>
    advance
    let .name table := ← peek | unexpected
    advance
    useName table .table
    if ← accept "[" then return .delete table (some (← takeKeys (takeExpression true)))
    return .delete table none
  | _ => return .expression (← takeExpression true)

/-- Reads the body of a loop. -/
def inLoop (body : Parser Statement) : Parser Statement := do
  modify fun s => { s with loops := s.loops + 1 }
  let statement ← body
  modify fun s => { s with loops := s.loops - 1 }
  return statement

/-- Statements up to the closing brace; `fuel` exceeds the number of tokens. -/
def statementsOn (statement : Parser Statement) : Nat → List Statement → Parser (List Statement)
  | 0, acc => return acc.reverse
  | fuel + 1, acc => do
    skipSeparators
    if ← accept "\x7d" then return acc.reverse
    statementsOn statement fuel ((← statement) :: acc)

/-- Statements in braces. -/
def takeBlock (statement : Parser Statement) : Parser Statement := do
  expect "\x7b"
  return .block (← statementsOn statement (← get).rest.length [])

/-- A loop over the keys of a table if there is one, or over steps. -/
def takeFor (statement : Parser Statement) : Parser Statement := do
  expect "("
  let overKeys : Option (String × String) :=
    match (← get).rest.map PlacedToken.token with
    | .name key :: .word "in" :: .name table :: .sign ")" :: _ => some (key, table)
    | _ => none
  let body : Parser Statement := do
    skipNewlines
    inLoop statement
  match overKeys with
  | some (key, table) =>
    useName key .value
    useName table .table
    for _ in List.range 4 do advance
    return .forEach key table (← body)
  | none =>
    let start ← if ← isSign ";" then pure (.block []) else takeSimpleStatement
    expect ";"
    skipNewlines
    let test ← if ← isSign ";" then pure none else some <$> takeExpression true
    expect ";"
    skipNewlines
    let step ← if ← isSign ")" then pure (.block []) else takeSimpleStatement
    expect ")"
    return .loop start test step (← body)

/-- A statement, where `self` reads one that is nested. -/
def statementStep (self : Parser Statement) : Parser Statement := do
  let test : Parser Expr := do
    expect "("
    let e ← takeExpression true
    expect ")"
    return e
  match ← peek with
  | .sign "\x7b" => takeBlock self
  | .sign ";" =>
    advance
    skipNewlines
    return .block []
  | .sign "\x7d" => return .block []
  | .word "if" =>
    advance
    let e ← test
    skipNewlines
    let yes ← self
    skipSeparators
    if ← acceptWord "else" then
      skipNewlines
      return .choice e yes (← self)
    return .choice e yes (.block [])
  | .word "while" =>
    advance
    let e ← test
    if ← accept ";" then return .whileLoop e (.block [])
    skipNewlines
    return .whileLoop e (← inLoop self)
  | .word "do" =>
    advance
    skipNewlines
    let body ← inLoop self
    skipSeparators
    if !(← acceptWord "while") then unexpected
    let e ← test
    takeStatementEnd
    return .doWhile body e
  | .word "for" =>
    advance
    takeFor self
  | _ =>
    let statement ← takeSimpleStatement
    takeStatementEnd
    return statement

/-- A statement; `fuel` exceeds the depth of the nesting. -/
def statement : Nat → Parser Statement
  | 0 => unexpected
  | fuel + 1 => statementStep (statement fuel)

/-- The names of parameters with commas between them, up to the closing parenthesis. -/
def paramsOn : Nat → List String → Parser (List String)
  | 0, acc => return acc.reverse
  | fuel + 1, acc => do
    let .name name := ← peek | unexpected
    if acc.contains name then refuse (.duplicateParameter name)
    advance
    if ← accept "," then
      skipNewlines
      paramsOn fuel (name :: acc)
    else
      expect ")"
      return (name :: acc).reverse

/-- A function. -/
def takeFunction : Parser Unit := do
  let name ←
    match ← peek with
    | .name name | .call name => pure name
    | _ => unexpected
  if ((← get).functions.lookup name).isSome then refuse (.redefined name)
  advance
  expect "("
  let params ← if ← accept ")" then pure [] else paramsOn (← get).rest.length []
  skipNewlines
  modify fun s => { s with
    own := some (params.map fun p => (p, none)), onRecords := false
    functions := (name, ⟨params, .block []⟩) :: s.functions }
  let body ← takeBlock (statement depthLimit)
  modify fun s => { s with own := none, functions := (name, ⟨params, body⟩) :: s.functions }

/-- The statements of a rule. -/
def takeBody (onRecords : Bool) : Parser Statement := do
  modify fun s => { s with onRecords := onRecords }
  takeBlock (statement depthLimit)

/-- A rule. -/
def takeRule : Parser Unit := do
  let rule : Rule ←
    if ← acceptWord "BEGIN" then pure ⟨.first, ← takeBody false⟩
    else if ← acceptWord "END" then pure ⟨.last, ← takeBody false⟩
    else if ← isSign "\x7b" then pure ⟨.always, ← takeBody true⟩
    else
      let first ← takeExpression true
      let pattern ←
        if ← accept "," then
          skipNewlines
          let second ← takeExpression true
          let number := (← get).ranges
          modify fun s => { s with ranges := number + 1 }
          pure (.range number first second)
        else pure (.condition first)
      let body ←
        if ← isSign "\x7b" then takeBody true
        else
          match ← peek with
          | .newline | .finish | .sign ";" => pure (.print [] .output)
          | _ => unexpected
      pure ⟨pattern, body⟩
  modify fun s => { s with rules := rule :: s.rules }

/-- The parts of a program; `fuel` exceeds the number of tokens. -/
def partsOn : Nat → Parser Unit
  | 0 => return
  | fuel + 1 => do
    skipSeparators
    match ← peek with
    | .finish => return
    | .word "function" =>
      advance
      takeFunction
      partsOn fuel
    | _ =>
      takeRule
      partsOn fuel

/-- A whole program. -/
def takeProgram : Parser Program := do
  partsOn ((← get).rest.length + 1)
  let s ← get
  for (name, _) in s.calls.reverse do
    if (s.functions.lookup name).isNone then refuse (.neverDefined name)
  return { rules := s.rules.reverse, functions := s.functions }

/-- The program of a text, or what is wrong with it and in which line. -/
def Program.ofText (text : List Char) : Except (Problem × Nat) Program :=
  (takeProgram.run { rest := tokens text }).map Prod.fst

end Pipeline.Shell.Utility.Awk
