import Pipeline.Number.Scan
import Pipeline.Shell.Utility.Edit.Script
import Pipeline.Text.Blank

/-!
# Scripts as texts

How the text of a script is read: addresses, the letter of a command, and what belongs to it. A
script may come in several parts, and a text for output may go on from one part to the next.
-/

namespace Pipeline.Shell.Utility.Edit

/-- Where a script is read. -/
structure Reading where
  rest : List Char
  /-- How many characters of the part were read. -/
  taken : Nat := 0
  line : Nat := 1
  script : Script := {}
  /-- The blocks that are open, the last first: their commands and the lines where they start. -/
  opens : List (Nat × Nat) := []
  /-- A text that goes on in the next part. -/
  pending : Option (List Char → Deed) := none
  pendingText : List Char := []
  /-- The lines that the command of this text is for. -/
  pendingFor : Selection := {}
  isFirst : Bool := true
  extended : Bool := false
  restricted : Bool := false

/-- An error, with how many characters were read and in which line. -/
structure PlacedError where
  error : ScriptError
  taken : Nat
  line : Nat

/-- A reader of scripts. -/
abbrev Reader := StateT Reading (Except PlacedError)

/-- Gives up at the place that is read. -/
def fail {α : Type} (e : ScriptError) : Reader α := do
  let s ← get
  throw ⟨e, s.taken, s.line⟩

/-- The next character, which is left. -/
def peek : Reader (Option Char) := do
  return (← get).rest.head?

/-- The next character. -/
def take : Reader (Option Char) := do
  match (← get).rest with
  | [] => return none
  | c :: rest =>
    modify fun s =>
      { s with rest := rest, taken := s.taken + 1, line := s.line + if c = '\n' then 1 else 0 }
    return some c

/-- Goes on behind some characters. -/
def skip (count : Nat) : Reader Unit :=
  modify fun s =>
    let gone := s.rest.take count
    { s with
      rest := s.rest.drop count, taken := s.taken + gone.length
      line := s.line + (gone.filter (· = '\n')).length }

/-- Goes on behind characters of a kind, and gives them. -/
def takeWhile (test : Char → Bool) : Reader (List Char) := do
  let cs := (← get).rest.takeWhile test
  skip cs.length
  return cs

/-- Goes on behind blanks. -/
def skipGaps : Reader Unit := do
  let _ ← takeWhile Text.isGap

/-- A number; without digits it is zero. -/
def takeNumber : Reader Nat := do
  return Number.digitsValue 10 (← takeWhile Char.isDigit)

/-- The end of a command. -/
def takeEnd : Reader Unit := do
  skipGaps
  match ← peek with
  | none | some '\x7d' | some '#' => return
  | some c =>
    skip 1
    if c != '\n' && c != ';' then fail .extraCharacters

/-- The rest of a line, which names a file. -/
def takeFileName : Reader String := do
  skipGaps
  let name ← takeWhile (· != '\n')
  skip 1
  if name.isEmpty then fail .fileMissing
  return String.ofList name

/-- A label. -/
def takeLabel : Reader String := do
  skipGaps
  let label ← takeWhile fun c => !(Text.isGap c || c == '\n' || c == ';' || c == '\x7d')
  return String.ofList label

/-- What is left of a set of characters after its opening bracket: how much of the text it takes. -/
def setSize : Nat → List Char → Nat
  | 0, _ => 0
  | _, [] => 0
  | _, ']' :: _ => 1
  | fuel + 1, '[' :: sign :: cs =>
    if sign = ':' ∨ sign = '.' ∨ sign = '=' then
      match Regex.takeNamed sign (cs.length + 1) [] cs with
      | some (name, _) => 4 + name.length + setSize fuel (cs.drop (name.length + 2))
      | none => 1 + setSize fuel (sign :: cs)
    else 1 + setSize fuel (sign :: cs)
  | fuel + 1, '\\' :: '\\' :: cs => 2 + setSize fuel cs
  | fuel + 1, _ :: cs => 1 + setSize fuel cs

/-- A set of characters from its opening bracket on, with line ends for their escapes. -/
def unescapeEnds : List Char → List Char
  | '\\' :: '\\' :: cs => '\\' :: '\\' :: unescapeEnds cs
  | '\\' :: 'n' :: cs => '\n' :: unescapeEnds cs
  | c :: cs => c :: unescapeEnds cs
  | [] => []

/-- The text up to a delimiter, collected in reverse, which a backslash protects; `none` if there is
no delimiter in the line. In a pattern a set of characters is taken as a whole. -/
def takeDelimited (delimiter : Char) (isPattern : Bool) :
    Nat → List Char → Reader (Option (List Char))
  | 0, _ => return none
  | fuel + 1, acc => do
    match (← get).rest with
    | [] => return none
    | c :: rest =>
      if c = '\n' then return none
      else if c = delimiter then
        skip 1
        return some acc.reverse
      else if c = '\\' then
        match rest with
        | [] =>
          skip 1
          return none
        | d :: _ =>
          skip 2
          if d = 'n' ∧ isPattern then takeDelimited delimiter isPattern fuel ('\n' :: acc)
          else if d = '\n' ∨ (d = delimiter ∧ (isPattern ∨ d ≠ '&')) then
            takeDelimited delimiter isPattern fuel (d :: acc)
          else takeDelimited delimiter isPattern fuel (d :: '\\' :: acc)
      else if c = '[' ∧ isPattern then
        let lead := match rest with
          | '^' :: ']' :: _ => 2
          | '^' :: _ | ']' :: _ => 1
          | _ => 0
        let size := 1 + lead + setSize (rest.length + 1) (rest.drop lead)
        let set := (c :: rest).take size
        skip size
        takeDelimited delimiter isPattern fuel ((unescapeEnds set).reverse ++ acc)
      else
        skip 1
        takeDelimited delimiter isPattern fuel (c :: acc)

/-- The text up to a delimiter; an error if there is none. -/
def takeUpTo (delimiter : Option Char) (isPattern : Bool) (e : ScriptError) :
    Reader (List Char) := do
  match delimiter with
  | none | some '\n' | some '\\' => fail e
  | some c =>
    match ← takeDelimited c isPattern ((← get).rest.length + 1) [] with
    | some text => return text
    | none => fail e

/-- The character of a code after a backslash, and the text after it. -/
def codeOf? (c : Char) (cs : List Char) : Option (Char × List Char) :=
  let coded (base width : Nat) : Option (Char × List Char) :=
    let digits := (cs.takeWhile fun d => (Text.digitIn? base d).isSome).take width
    if digits.isEmpty then none
    else some (Char.ofNat (Number.digitsValue base digits % 256), cs.drop digits.length)
  match c with
  | 'd' => coded 10 3
  | 'o' => coded 8 3
  | 'x' => coded 16 2
  | 'c' =>
    match cs with
    | d :: rest => some (Char.ofNat ((d.toUpper.toNat + 64) % 128), rest)
    | [] => none
  | _ => none

/-- A text with characters for their codes; `fuel` exceeds its length. -/
def resolveCodes : Nat → List Char → List Char
  | 0, cs => cs
  | fuel + 1, '\\' :: c :: cs =>
    match codeOf? c cs with
    | some (d, rest) => d :: resolveCodes fuel rest
    | none => '\\' :: c :: resolveCodes fuel cs
  | fuel + 1, c :: cs => c :: resolveCodes fuel cs
  | _, [] => []

/-- The pattern of a text. -/
def patternOf (cs : List Char) (fold rows : Bool) : Reader LinePattern := do
  if cs.isEmpty then
    if fold || rows then fail .emptyPatternOptions
    return ⟨none, false⟩
  let style : RegexStyle := { extended := (← get).extended, letters := true, rows := rows }
  match Regex.ofText style (resolveCodes (cs.length + 1) cs) with
  | .ok r => return ⟨some r, fold⟩
  | .error e => fail (.regex e)

/-- The letters after a pattern that tells lines. -/
def takePatternFlags : Nat → Bool → Bool → Reader (Bool × Bool)
  | 0, fold, rows => return (fold, rows)
  | fuel + 1, fold, rows => do
    skipGaps
    match ← peek with
    | some 'I' =>
      skip 1
      takePatternFlags fuel true rows
    | some 'M' =>
      skip 1
      takePatternFlags fuel fold true
    | _ => return (fold, rows)

/-- An address, or the end of a range, if there is one. -/
def takeAddress? : Reader (Option RangeEnd) := do
  match ← peek with
  | some '$' =>
    skip 1
    return some (.address .last)
  | some '+' =>
    skip 1
    return some (.count (← takeNumber))
  | some '~' =>
    skip 1
    return some (.multiple (← takeNumber))
  | some c =>
    if c.isDigit then
      let n ← takeNumber
      skipGaps
      if (← peek) = some '~' then
        skip 1
        let step ← takeNumber
        return some (.address (if step = 0 then .line n else .step n step))
      else return some (.address (.line n))
    else if c = '/' ∨ c = '\\' then
      skip 1
      let delimiter ← if c = '/' then pure (some '/') else take
      let text ← takeUpTo delimiter true .addressUnterminated
      let (fold, rows) ← takePatternFlags ((← get).rest.length + 1) false false
      return some (.address (.pattern (← patternOf text fold rows)))
    else return none
  | none => return none

/-- The lines that a command is for. -/
def takeSelection : Reader Selection := do
  let mut selection : Selection := {}
  match ← takeAddress? with
  | none => pure ()
  | some (.address a) =>
    selection := { selection with first := some a }
    skipGaps
    if (← peek) = some ',' then
      skip 1
      skipGaps
      match ← takeAddress? with
      | some stop => selection := { selection with stop := some stop }
      | none =>
        skip 1
        fail .commaExpected
      skipGaps
    if let .line 0 := a then
      match selection.stop with
      | some (.address (.pattern _)) => pure ()
      | _ =>
        skip 1
        fail .lineZero
  | some _ => fail .badFirstAddress
  if (← peek) = some '!' then
    skip 1
    skipGaps
    if (← peek) = some '!' then
      skip 1
      fail .severalBangs
    return { selection with negated := true }
  return selection

/-- The text of output at the front, and what comes after it; `false` if it goes on in the next
part. A backslash protects the next character. -/
def outputText : Nat → List Char → List Char → List Char × List Char × Bool
  | 0, acc, cs => (acc.reverse, cs, true)
  | _, acc, [] => (('\n' :: acc).reverse, [], true)
  | _, acc, ['\\'] => (('\n' :: acc).reverse, [], false)
  | fuel + 1, acc, '\\' :: c :: cs =>
    match codeOf? c cs with
    | some (d, rest) => outputText fuel (d :: acc) rest
    | none => outputText fuel ((Regex.controlOf? c).getD c :: acc) cs
  | _, acc, '\n' :: cs => (('\n' :: acc).reverse, cs, true)
  | fuel + 1, acc, c :: cs => outputText fuel (c :: acc) cs

/-- Adds a command to the script. -/
def addCommand (selection : Selection) (deed : Deed) : Reader Unit :=
  modify fun s =>
    { s with script := { s.script with commands := s.script.commands.push ⟨selection, deed⟩ } }

/-- Reads a text for output and adds the command for it. -/
def takeOutput (selection : Selection) (before : List Char) (deed : List Char → Deed) :
    Reader Unit := do
  let rest := (← get).rest
  let (text, after, whole) := outputText (rest.length + 1) [] rest
  skip (rest.length - after.length)
  if whole then addCommand selection (deed (before ++ text))
  else
    modify fun s =>
      { s with pending := some deed, pendingText := before ++ text, pendingFor := selection }

/-- Reads the text of a command that writes it. -/
def takeTextCommand (selection : Selection) (deed : List Char → Deed) : Reader Unit := do
  skipGaps
  match (← get).rest with
  | [] => fail .textMissing
  | ['\\'] =>
    skip 1
    modify fun s => { s with pending := some deed, pendingText := [], pendingFor := selection }
  | '\\' :: '\n' :: _ =>
    skip 2
    if (← get).rest.isEmpty then
      modify fun s => { s with pending := some deed, pendingText := [], pendingFor := selection }
    else takeOutput selection [] deed
  | '\\' :: _ =>
    skip 1
    takeOutput selection [] deed
  | _ => takeOutput selection [] deed

/-- Plain characters at the front of what is put in for a match. -/
def plainPart (c : Char) (parts : List ReplacePart) : List ReplacePart :=
  match parts with
  | .text cs :: rest => .text (c :: cs) :: rest
  | parts => .text [c] :: parts

/-- The change of case that a letter stands for. -/
def caseChange? (c : Char) : Option CaseChange :=
  match c with
  | 'U' => some .upper
  | 'L' => some .lower
  | 'u' => some .upperNext
  | 'l' => some .lowerNext
  | 'E' => some .none
  | _ => Option.none

/-- The parts of what is put in for a match; `fuel` exceeds the length of the text. -/
def replaceParts : Nat → List Char → List ReplacePart
  | 0, _ => []
  | fuel + 1, '\\' :: c :: cs =>
    if c.isDigit then .group (c.toNat - 48) :: replaceParts fuel cs
    else
      match caseChange? c, codeOf? c cs with
      | some change, _ => .case change :: replaceParts fuel cs
      | Option.none, some (d, rest) => plainPart d (replaceParts fuel rest)
      | Option.none, Option.none =>
        plainPart ((Regex.controlOf? c).getD c) (replaceParts fuel cs)
  | fuel + 1, '&' :: cs => .group 0 :: replaceParts fuel cs
  | fuel + 1, c :: cs => plainPart c (replaceParts fuel cs)
  | _, [] => []

/-- The options after a replacement. -/
structure ReplaceOptions where
  fold : Bool := false
  rows : Bool := false
  number : Option Nat := none
  all : Bool := false
  prints : Bool := false
  runs : Bool := false
  file : Option String := none

/-- Reads the options after a replacement. -/
def takeReplaceOptions : Nat → ReplaceOptions → Reader ReplaceOptions
  | 0, o => return o
  | fuel + 1, o => do
    skipGaps
    match ← peek with
    | none | some '\x7d' | some '#' => return o
    | some c =>
      if c.isDigit then
        let n ← takeNumber
        if o.number.isSome then fail .severalNumbers
        if n = 0 then fail .numberZero
        takeReplaceOptions fuel { o with number := some n }
      else
        skip 1
        match c with
        | '\n' | ';' => return o
        | 'i' | 'I' => takeReplaceOptions fuel { o with fold := true }
        | 'm' | 'M' => takeReplaceOptions fuel { o with rows := true }
        | 'e' => takeReplaceOptions fuel { o with runs := true }
        | 'p' =>
          if o.prints then fail .severalPrints
          takeReplaceOptions fuel { o with prints := true }
        | 'g' =>
          if o.all then fail .severalGlobals
          takeReplaceOptions fuel { o with all := true }
        | 'w' =>
          if (← get).restricted then fail .restricted
          return { o with file := some (← takeFileName) }
        | _ => fail .unknownReplaceOption

/-- A file that is written counts as an output of the script. -/
def noteOutput (name : String) : Reader Unit :=
  modify fun s => { s with script := { s.script with outputs := s.script.outputs ++ [name] } }

/-- A replacement after its letter. -/
def takeReplace : Reader Substitution := do
  let delimiter ← take
  let pattern ← takeUpTo delimiter true .replaceUnterminated
  let text ← takeUpTo delimiter false .replaceUnterminated
  let parts := replaceParts (text.length + 1) text
  let o ← takeReplaceOptions ((← get).rest.length + 1) {}
  let p ← patternOf pattern o.fold o.rows
  let greatest := parts.foldl (fun n part =>
    match part with
    | .group m => max n m
    | _ => n) 0
  if p.regex.any fun r => r.groupCount < greatest then fail (.badReference greatest)
  if o.runs && (← get).restricted then fail .restricted
  if let some name := o.file then noteOutput name
  return {
    pattern := p, parts := parts, occurrence := o.number.getD 1, all := o.all
    prints := if o.prints then 1 else 0, runs := o.runs, file := o.file }

/-- Characters with their escapes put in. -/
def unescaped : Nat → List Char → List Char
  | 0, _ => []
  | fuel + 1, '\\' :: c :: cs =>
    match codeOf? c cs with
    | some (d, rest) => d :: unescaped fuel rest
    | none => (Regex.controlOf? c).getD c :: unescaped fuel cs
  | fuel + 1, c :: cs => c :: unescaped fuel cs
  | _, [] => []

/-- The pairs of characters that a command exchanges, after its letter. -/
def takePairs : Reader (List (Char × Char)) := do
  let delimiter ← take
  let source ← takeUpTo delimiter false .exchangeUnterminated
  let target ← takeUpTo delimiter false .exchangeUnterminated
  let plain (cs : List Char) : List Char := unescaped (cs.length + 1) cs
  let (source, target) := (plain source, plain target)
  if source.length ≠ target.length then fail .differentLengths
  takeEnd
  return source.zip target

/-- The number after a command, if there is one, and the end of the command. -/
def takeNumberEnd : Reader (Option Nat) := do
  skipGaps
  let digits ← takeWhile Char.isDigit
  takeEnd
  return if digits.isEmpty then none else some (Number.digitsValue 10 digits)

/-- The command of a letter that takes nothing. -/
def simpleDeed? (c : Char) : Option Deed :=
  match c with
  | '=' => some .tellNumber
  | 'F' => some .tellName
  | 'd' => some .delete
  | 'D' => some .deleteFirst
  | 'g' => some .takeHeld
  | 'G' => some .addHeld
  | 'h' => some .hold
  | 'H' => some .addToHeld
  | 'x' => some .exchange
  | 'n' => some .nextLine
  | 'N' => some .addLine
  | 'p' => some .print
  | 'P' => some .printFirst
  | 'z' => some .clear
  | _ => none

/-- A comment; the first one may say that lines are not written by themselves. -/
def takeComment : Reader Unit := do
  let s ← get
  let quiet := s.isFirst && s.taken == 1 && s.rest.head? == some 'n'
  let _ ← takeWhile (· != '\n')
  if quiet then modify fun s => { s with script := { s.script with quiet := true } }

/-- Reads one command after its addresses. -/
def takeCommand (selection : Selection) : Reader Unit := do
  let c? ← take
  let add (deed : Deed) : Reader Unit := addCommand selection deed
  let output (make : String → Deed) : Reader Unit := do
    if (← get).restricted then fail .restricted
    let name ← takeFileName
    noteOutput name
    add (make name)
  let input (make : String → Deed) : Reader Unit := do
    if (← get).restricted then fail .restricted
    add (make (← takeFileName))
  let quit (silent : Bool) : Reader Unit := do
    if selection.stop.isSome then fail .oneAddress
    add (.quit ((← takeNumberEnd).getD 0) silent)
  match c? with
  | none => fail .commandMissing
  | some '#' =>
    if selection.first.isSome then fail .commentAddress
    takeComment
  | some '\x7b' =>
    modify fun s => { s with opens := (s.script.commands.size, s.line) :: s.opens }
    add (.block 0)
  | some '\x7d' =>
    match (← get).opens with
    | [] => fail .closeBrace
    | (index, _) :: opens =>
      if selection.first.isSome then fail .closeBraceAddress
      takeEnd
      modify fun s =>
        let stop := s.script.commands.size
        let commands := s.script.commands.modify index fun command =>
          { command with deed := .block stop }
        { s with opens := opens, script := { s.script with commands := commands } }
  | some ':' =>
    if selection.first.isSome then fail .labelAddress
    let label ← takeLabel
    if label.isEmpty then fail .labelMissing
    modify fun s =>
      let labels := s.script.labels ++ [(label, s.script.commands.size)]
      { s with script := { s.script with labels := labels } }
  | some 'a' => takeTextCommand selection .append
  | some 'i' => takeTextCommand selection .insert
  | some 'c' => takeTextCommand selection .change
  | some 'b' => add (.jump (← takeLabel))
  | some 't' => add (.jumpIfReplaced (← takeLabel))
  | some 'T' => add (.jumpUnlessReplaced (← takeLabel))
  | some 'e' =>
    if (← get).restricted then fail .restricted
    skipGaps
    let command ← takeWhile (· != '\n')
    add (.run command)
  | some 'l' => add (.reveal (← takeNumberEnd))
  | some 'q' => quit false
  | some 'Q' => quit true
  | some 'r' => input .readFile
  | some 'R' => input .readLine
  | some 'w' => output .write
  | some 'W' => output .writeFirst
  | some 's' => add (.replace (← takeReplace))
  | some 'y' => add (.exchangeCharacters (← takePairs))
  | some 'v' =>
    let version ← takeLabel
    let major := version.toList.takeWhile Char.isDigit
    if 4 < Number.digitsValue 10 major then fail .newerVersion
    takeEnd
  | some c =>
    match simpleDeed? c with
    | some deed =>
      takeEnd
      add deed
    | none => fail (.unknownCommand c)

/-- Reads the commands of a part. -/
def takeCommands : Nat → Reader Unit
  | 0 => return
  | fuel + 1 => do
    let _ ← takeWhile fun c => c == ';' || c.isWhitespace || c == '\x0b' || c == '\x0c'
    if (← get).rest.isEmpty then return
    takeCommand (← takeSelection)
    takeCommands fuel

/-- Reads one part of a script. -/
def takePart (text : List Char) : Reader Unit := do
  modify fun s => { s with rest := text, taken := 0, line := 1 }
  let s ← get
  if let some deed := s.pending then
    modify fun s => { s with pending := none }
    takeOutput s.pendingFor s.pendingText deed
  takeCommands (text.length + 1)
  modify fun s => { s with isFirst := false }

/-- The end of a script: no block is open, and a text does not go on. -/
def takeLast : Reader Script := do
  let s ← get
  if let (_, line) :: _ := s.opens then throw ⟨.openBrace, 0, line⟩
  if let some deed := s.pending then addCommand s.pendingFor (deed s.pendingText)
  return (← get).script

end Pipeline.Shell.Utility.Edit
