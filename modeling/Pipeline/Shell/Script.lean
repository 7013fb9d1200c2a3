import Pipeline.Shell.Source

/-!
# Reading shell scripts

A script is read one command line at a time, so that the lines before an error are there. All
readers share one measure that exceeds the number of steps that the text allows.
-/

namespace Pipeline.Shell

namespace Reader

mutual

/-- The segments up to the end of their context. -/
def readSegments : Nat → Context → Reader Word
  | 0, _ => return []
  | fuel + 1, ctx => do
    match ← peek with
    | none =>
      match ctx.endError? with
      | none => return []
      | some text => fail text
    | some c =>
      let continueWith (w : Word) : Reader Word := return w ++ (← readSegments fuel ctx)
      if ctx = .bare ∧ endsWord c then return []
      else if (ctx = .quoted ∧ c = '"') ∨ (c = '\x7d' ∧ (ctx = .braces true ∨ ctx = .braces false))
      then
        take
        return []
      else if c = '\\' then
        take
        match ← peekRaw with
        | none => continueWith [.text "\\" true]
        | some d =>
          if ctx.protects d then
            take
            continueWith [.text d.toString true]
          else continueWith [.text "\\" true]
      else if c = '\'' ∧ !ctx.isQuoted then
        take
        let quoted ← takeQuoted ((← get).rest.length + 1)
        continueWith [.text (String.ofList quoted) true]
      else if c = '"' ∧ (!ctx.isQuoted ∨ ctx = .braces true) then
        take
        let quoted ← readSegments fuel .quoted
        continueWith (.text "" true :: quoted)
      else if c = '$' then
        take
        continueWith (← readDollar fuel ctx.isQuoted)
      else if c = '\x60' then
        take
        let line := (← get).line
        let body ← takeGrave ctx.isQuoted ((← get).rest.length + 1)
        let lines ← readNested fuel line body
        continueWith [.substitution lines ctx.isQuoted]
      else
        match ctx, c with
        | .expression depth, '(' =>
          take
          return .text "(" true :: (← readSegments fuel (.expression (depth + 1)))
        | .expression 0, ')' =>
          take
          if ← takeIf ')' then return [] else continueWith [.text ")" true]
        | .expression (depth + 1), ')' =>
          take
          return .text ")" true :: (← readSegments fuel (.expression depth))
        | ctx, c =>
          take
          return .text c.toString ctx.isQuoted :: (← readSegments fuel ctx)

/-- The script of a text inside of the script. -/
def readNested : Nat → Nat → List Char → Reader (List Command)
  | 0, _, _ => return []
  | fuel + 1, line, body => do
    match (readLines fuel).run { rest := body, line := line, aliases := (← get).aliases } with
    | .ok (lines, _) => return lines
    | .error e => throw e

/-- What a dollar sign stands for. -/
def readDollar : Nat → Bool → Reader Word
  | 0, _ => return []
  | fuel + 1, quoted => do
    match ← peek with
    | none => return [.text "$" quoted]
    | some c =>
      if c = '(' then
        take
        if ← takeIf '(' then
          return [.arithmetic (← readSegments fuel (.expression 0)).merge quoted]
        else
          let body ← readList fuel false true .nothing
          let t ← readToken fuel true .reserved
          if t.isSign ")" then return [.substitution [body] quoted]
          else fail (unexpectedFor t (.sign ")"))
      else if c = '\x7b' then
        take
        return [← readBraces fuel quoted]
      else if startsName c then
        let name ← takeUntil (fun c => !isWordChar c) ((← get).rest.length + 1)
        return [.parameter (String.ofList name) .value [] quoted]
      else if c.isDigit ∨ isSpecialParameter c then
        take
        return [.parameter c.toString .value [] quoted]
      else return [.text "$" quoted]

/-- A parameter between braces. -/
def readBraces : Nat → Bool → Reader Segment
  | 0, quoted => return .text "" quoted
  | fuel + 1, quoted => do
    let size := (← get).rest.length + 1
    let malformed : Reader Segment := do
      skipBraces size
      return .parameter "" .malformed [] quoted
    let name ← takeParameterName size
    if name.isEmpty then malformed
    else if ← takeIf '\x7d' then return .parameter name .value [] quoted
    else if name = "#" then
      let name ← takeParameterName size
      if !name.isEmpty && (← takeIf '\x7d') then return .parameter name .length [] quoted
      else malformed
    else
      let colon ← takeIf ':'
      match ← peek with
      | none => fail "Missing '\x7d'"
      | some c =>
        match formOf colon c with
        | none => malformed
        | some form =>
          take
          let form ←
            match form with
            | .cutFront _ => pure (.cutFront (← takeIf '#'))
            | .cutBack _ => pure (.cutBack (← takeIf '%'))
            | form => pure form
          let inQuotes :=
            match form with
            | .cutFront _ | .cutBack _ => false
            | _ => quoted
          return .parameter name form (← readSegments fuel (.braces inQuotes)).merge quoted

/-- The next token; newlines may be skipped, and a bare word may be a keyword or an alias. -/
def readToken : Nat → Bool → WordUse → Reader Token
  | 0, _, _ => return .endOfFile
  | fuel + 1, skipNewlines, use => do
    modify Source.skipBlanks
    let (s, goesOn) := (← get).closeAliases
    set { s with pushed := none }
    let t ← s.pushed.elim (readFreshToken fuel) pure
    match t with
    | .newline =>
      if skipNewlines then readToken fuel skipNewlines use else return t
    | .word w =>
      let t := if use = .reserved then t.asKeyword else t
      let mayBeAlias := s.pushed.isNone && t.isWord && (use != .argument || goesOn)
      match if mayBeAlias then w.bareText?.bind s.aliasText? else none with
      | some (name, text) =>
        modify fun s => s.openAlias name text
        readToken fuel skipNewlines use
      | none => return t
    | t => return t

/-- The next token of the text. -/
def readFreshToken : Nat → Reader Token
  | 0 => return .endOfFile
  | fuel + 1 => do
    match ← peek with
    | none => return .endOfFile
    | some c =>
      if c = ' ' ∨ c = '\t' then
        take
        readFreshToken fuel
      else if c = '#' then
        modify fun s => { s with rest := s.rest.dropWhile (· ≠ '\n') }
        readFreshToken fuel
      else if c = '\n' then
        take
        return .newline
      else if c = '<' ∨ c = '>' then
        take
        takeRedirection none c
      else if endsWord c then
        take
        takeSign c
      else
        let w := (← readSegments fuel .bare).merge
        match ← peek with
        | some d =>
          match w.bareText?.map String.toList with
          | some [digit] =>
            if digit.isDigit ∧ (d = '<' ∨ d = '>') then
              take
              takeRedirection (some (digit.toNat - 48)) d
            else return .word w
          | _ => return .word w
        | none => return .word w

/-- The operand of a redirection. -/
def readRedirect : Nat → Nat → RedirectKind → Bool → Reader Redirect
  | 0, d, kind, _ => return .mk d kind []
  | fuel + 1, d, kind, indented => do
    match ← readToken fuel false .argument with
    | .word w =>
      if kind = .document then
        let (delimiter, literal) := delimiterOf w
        let body ← takeDocument delimiter indented
        if literal then return .mk d kind [.text (String.ofList body) true]
        else
          match (readSegments fuel .document).run { rest := body, line := (← get).line } with
          | .ok (segments, _) => return .mk d kind segments.merge
          | .error e => throw e
      else if kind = .duplicate ∧ w.bareText?.any fun text => !namesDescriptor text then
        fail "Bad fd number"
      else return .mk d kind w
    | t => fail (unexpected t)

/-- The redirections after a command. -/
def readRedirects : Nat → Reader (List Redirect)
  | 0 => return []
  | fuel + 1 => do
    match ← readToken fuel false .argument with
    | .redirection d kind indented =>
      let r ← readRedirect fuel d kind indented
      return r :: (← readRedirects fuel)
    | t =>
      pushBack t
      return []

/-- The words, assignments and redirections of a simple command from here on. -/
def readSimple : Nat → Nat → List (String × Word) → List Word → List Redirect → Reader Command
  | 0, line, assignments, words, redirects => return .simple line assignments words redirects
  | fuel + 1, line, assignments, words, redirects => do
    let finish (t : Token) : Reader Command := do
      pushBack t
      return .simple line assignments words redirects
    match ← readToken fuel false (if words.isEmpty then .command else .argument) with
    | .word w =>
      match if words.isEmpty then splitAssignment w else none with
      | some a => readSimple fuel line (assignments ++ [a]) words redirects
      | none => readSimple fuel line assignments (words ++ [w]) redirects
    | .redirection d kind indented =>
      let r ← readRedirect fuel d kind indented
      readSimple fuel line assignments words (redirects ++ [r])
    | .sign "(" =>
      match words, assignments, redirects with
      | [w], [], [] =>
        let t ← readToken fuel false .argument
        if !t.isSign ")" then fail (unexpectedFor t (.sign ")"))
        else
          let name := w.bareText?.getD ""
          if !isName name || specialBuiltins.contains name then fail "Bad function name"
          else return .function name (← readCommand fuel true)
      | _, _, _ => finish (.sign "(")
    | t => finish t

/-- The list up to a closing keyword or sign, which is read too. -/
def readBody : Nat → Token → Reader Command
  | 0, _ => return .nothing
  | fuel + 1, closing => do
    let body ← readList fuel false true .nothing
    let t ← readToken fuel false .reserved
    if t.describe = closing.describe then return body else fail (unexpectedFor t closing)

/-- What follows the condition of a conditional, its end included. -/
def readBranches : Nat → Reader Command
  | 0 => return .nothing
  | fuel + 1 => do
    let condition ← readBody fuel (.keyword "then")
    let yes ← readList fuel false true .nothing
    let t ← readToken fuel false .reserved
    if t.isKeyword "elif" then return .conditional condition yes (← readBranches fuel)
    else if t.isKeyword "else" then
      return .conditional condition yes (← readBody fuel (.keyword "fi"))
    else if t.isKeyword "fi" then return .conditional condition yes .nothing
    else fail (unexpectedFor t (.keyword "fi"))

/-- The words that a loop goes through. -/
def readWords : Nat → Reader (List Word)
  | 0 => return []
  | fuel + 1 => do
    match ← readToken fuel false .argument with
    | .word w => return w :: (← readWords fuel)
    | .newline => return []
    | .sign ";" => return []
    | t => fail (unexpected t)

/-- A loop over words, after its keyword. -/
def readForEach : Nat → Reader Command
  | 0 => return .nothing
  | fuel + 1 => do
    let name ←
      match ← readToken fuel false .argument with
      | .word w => pure (w.bareText?.getD "")
      | _ => pure ""
    if !isName name then fail "Bad for loop variable"
    else
      let t ← readToken fuel true .reserved
      let words ←
        if t.isKeyword "in" then readWords fuel
        else do
          if !t.isSign ";" then pushBack t
          pure [allPositions]
      let t ← readToken fuel true .reserved
      if t.isKeyword "do" then
        return .forEach name words (← readBody fuel (.keyword "done"))
      else fail (unexpectedFor t (.keyword "do"))

/-- The patterns of an arm, the first token being read. -/
def readPatterns : Nat → Token → Reader (List Word)
  | 0, _ => return []
  | fuel + 1, t => do
    match t with
    | .word w =>
      let t ← readToken fuel false .argument
      if t.isSign "|" then return w :: (← readPatterns fuel (← readToken fuel false .argument))
      else if t.isSign ")" then return [w]
      else fail (unexpectedFor t (.sign ")"))
    | t => fail (unexpectedFor t (.sign ")"))

/-- The arms of a choice from here on, and its end. -/
def readArms : Nat → Reader (List (List Word × Command))
  | 0 => return []
  | fuel + 1 => do
    let t ← readToken fuel true .reserved
    if t.isKeyword "esac" then return []
    else
      let t ← if t.isSign "(" then readToken fuel false .argument else pure t
      let t := match t with | .keyword text => .word (.plain text) | t => t
      let patterns ← readPatterns fuel t
      let body ← readList fuel true true .nothing
      let t ← readToken fuel true .reserved
      if t.isKeyword "esac" then return [(patterns, body)]
      else if t.isSign ";;" then return (patterns, body) :: (← readArms fuel)
      else fail (unexpectedFor t (.sign ";;"))

/-- A choice between patterns, after its keyword. -/
def readChoice : Nat → Reader Command
  | 0 => return .nothing
  | fuel + 1 => do
    match ← readToken fuel false .argument with
    | .word subject =>
      let t ← readToken fuel true .reserved
      if t.isKeyword "in" then return .choice subject (← readArms fuel)
      else fail (unexpectedFor t (.keyword "in"))
    | t => fail (unexpectedFor t (.word []))

/-- A command that is no pipeline. -/
def readCommand : Nat → Bool → Reader Command
  | 0, _ => return .nothing
  | fuel + 1, skipNewlines => do
    let t ← readToken fuel skipNewlines .reserved
    let line := (← get).line
    let compound (body : Command) : Reader Command := do
      let redirects ← readRedirects fuel
      return if redirects.isEmpty then body else .redirected line body redirects
    match t with
    | .word _ =>
      pushBack t
      readSimple fuel line [] [] []
    | .redirection _ _ _ =>
      pushBack t
      readSimple fuel line [] [] []
    | .sign "(" => compound (.subshell (← readBody fuel (.sign ")")))
    | .keyword "\x7b" => compound (← readBody fuel (.keyword "\x7d"))
    | .keyword "if" => compound (← readBranches fuel)
    | .keyword "while" =>
      let condition ← readBody fuel (.keyword "do")
      compound (.loop false condition (← readBody fuel (.keyword "done")))
    | .keyword "until" =>
      let condition ← readBody fuel (.keyword "do")
      compound (.loop true condition (← readBody fuel (.keyword "done")))
    | .keyword "for" => compound (← readForEach fuel)
    | .keyword "case" => compound (← readChoice fuel)
    | t => fail (unexpected t)

/-- The stages of a pipeline after the first. -/
def readStages : Nat → Reader (List Command)
  | 0 => return []
  | fuel + 1 => do
    let t ← readToken fuel false .reserved
    if t.isSign "|" then
      let stage ← readCommand fuel true
      return stage :: (← readStages fuel)
    else
      pushBack t
      return []

/-- A pipeline. -/
def readPipeline : Nat → Bool → Reader Command
  | 0, _ => return .nothing
  | fuel + 1, skipNewlines => do
    let t ← readToken fuel skipNewlines .reserved
    let negated := t.isKeyword "!"
    if !negated then pushBack t
    let first ← readCommand fuel false
    let stages ← readStages fuel
    let pipeline := if stages.isEmpty then first else .pipe (first :: stages)
    return if negated then .negation pipeline else pipeline

/-- Pipelines with the signs for both and either between them, the first one being read. -/
def readAndOr : Nat → Command → Reader Command
  | 0, first => return first
  | fuel + 1, first => do
    let t ← readToken fuel false .reserved
    if t.isSign "&&" then readAndOr fuel (.both first (← readPipeline fuel true))
    else if t.isSign "||" then readAndOr fuel (.either first (← readPipeline fuel true))
    else
      pushBack t
      return first

/-- The list from here on after `before`; it may end here only if `mayEnd`. -/
def readList : Nat → Bool → Bool → Command → Reader Command
  | 0, _, _, before => return before
  | fuel + 1, mayEnd, nested, before => do
    let t ← readToken fuel nested .reserved
    let done : Reader Command := do
      pushBack t
      return before
    match t with
    | .newline => return before
    | .endOfFile => done
    | t =>
      if mayEnd && t.endsList then done
      else
        pushBack t
        let next ← readAndOr fuel (← readPipeline fuel false)
        let t ← readToken fuel false .reserved
        let next := if t.isSign "&" then .background next else next
        let all :=
          match before with
          | .nothing => next
          | before => .sequence before next
        if t.isSign ";" || t.isSign "&" then readList fuel nested nested all
        else
          match t with
          | .newline | .endOfFile =>
            pushBack t
            readList fuel nested nested all
          | t =>
            if nested then
              pushBack t
              return all
            else fail (unexpected t)

/-- The command lines up to the end of the text. -/
def readLines : Nat → Reader (List Command)
  | 0 => return []
  | fuel + 1 => do
    let t ← readToken fuel true .reserved
    match t with
    | .endOfFile => return []
    | t =>
      pushBack t
      let line ← readList fuel false false .nothing
      return line :: (← readLines fuel)

end

end Reader

/-- The next command line of a text, if there is one, and the text after it. -/
def Source.next (s : Source) : Except ScriptError (Option Command × Source) := do
  let size := 24 * s.rest.length + 64
  match ← (Reader.readToken size true .reserved).run s with
  | (.endOfFile, s) => .ok (none, s)
  | (t, s) =>
    let (line, s) ← (Reader.readList size false false .nothing).run { s with pushed := some t }
    .ok (some line, s)

end Pipeline.Shell
