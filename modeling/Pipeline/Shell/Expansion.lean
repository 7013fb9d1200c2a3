import Pipeline.Shell.Arithmetic
import Pipeline.Shell.Field
import Pipeline.Shell.Option
import Pipeline.Shell.State

/-!
# Expansion of words

Parameters, command substitutions and arithmetic in a word are replaced by their values. How
commands run is not known here: whoever expands a word says what a substitution writes.
-/

namespace Pipeline.Shell

/-- What commands write to standard output. -/
abbrev Capture := List Command → Act String

/-- The text without the line ends at its end. -/
def withoutLineEnds (text : String) : String :=
  String.ofList (text.toList.reverse.dropWhile (· = '\n')).reverse

/-- The end of a name after a tilde: a slash, or a colon where texts are put together with
colons. -/
def endsTilde (colons : Bool) (c : Char) : Bool :=
  c == '/' || (colons && c == ':')

/-- The home directory that a name after a tilde stands for. -/
def homeOf? (own : Option String) (name : List Char) : Option String :=
  if name.isEmpty then own else if name = "root".toList then some "/root" else none

/-- The word with tildes at its start, and after its colons if it has `colons`, replaced by home
directories. -/
def expandTildes (own : Option String) (colons : Bool) : Nat → Word → Word
  | 0, w => w
  | fuel + 1, .text text false :: rest =>
    let after (cs : List Char) : Word :=
      if !colons then .text (String.ofList cs) false :: rest
      else
        let before := cs.takeWhile (· ≠ ':')
        match cs.drop before.length with
        | [] => .text (String.ofList cs) false :: rest
        | colon :: more =>
          .text (String.ofList (before ++ [colon])) false ::
            expandTildes own colons fuel (.text (String.ofList more) false :: rest)
    match text.toList with
    | '~' :: cs =>
      let name := cs.takeWhile (!endsTilde colons ·)
      let left := cs.drop name.length
      if left.isEmpty && !rest.isEmpty then .text text false :: rest
      else
        match homeOf? own name with
        | some home => .text home true :: after left
        | none => after ('~' :: cs)
    | cs => after cs
  | _, w => w

namespace Act

/-- The value of a parameter, if it has one. -/
def parameter? (name : String) : Act (Option String) := do
  let s ← get
  match name with
  | "?" => return some (toString s.status)
  | "#" => return some (toString s.positions.length)
  | "$" => return some (toString s.shell)
  | "!" => return s.background.map toString
  | "-" => return some (String.ofList (optionLetters.filter s.hasOption))
  | "0" => return some s.name
  | name =>
    match name.toNat? with
    | some n => return s.positions[n - 1]?
    | none => return s.value? name

/-- The glyphs of a value. -/
def shown (quoted : Bool) (text : String) : List Glyph :=
  (if quoted then [.presence] else []) ++ glyphsOf text quoted (!quoted)

/-- The glyphs of all positions, each a field of its own; `joint` stands between them where there
are no fields. -/
def allPositions (joint : String) (quoted : Bool) : Act (List Glyph) := do
  let s ← get
  if s.positions.isEmpty then return if quoted then [.absence] else []
  else return [Glyph.boundary joint].intercalate (s.positions.map (shown quoted))

/-- The glyphs of a parameter in a form, given how its operand is expanded. -/
def parameterAs (name : String) (form : ParameterForm) (bare : Bool)
    (operand : Act (List Glyph)) (quoted : Bool) : Act (List Glyph) := do
  let s ← get
  if form = .malformed then Act.abort "Bad substitution"
  else if form = .value ∧ name = "@" then allPositions " " quoted
  else if form = .value ∧ name = "*" ∧ !quoted then allPositions s.joint quoted
  else
    let value? ←
      if name = "*" ∨ name = "@" then
        let joint := if name = "*" then s.joint else " "
        pure (if s.positions.isEmpty then none else some (String.intercalate joint s.positions))
      else parameter? name
    let value := value?.getD ""
    let counts (colon : Bool) : Bool := value?.any fun v => !colon || !v.isEmpty
    let orUnset (gs : Act (List Glyph)) : Act (List Glyph) :=
      if value?.isNone && s.hasOption 'u' && name != "@" && name != "*" then
        Act.abort (name ++ ": parameter not set")
      else gs
    let fallback : Act (List Glyph) := do
      let gs ← operand
      return if quoted then .presence :: glyphsOf (textOf gs) true false else gs
    let cutBy (cut : Pattern → String → String) : Act (List Glyph) :=
      orUnset do return shown quoted (cut (patternOf (markedOf (← operand))) value)
    match form with
    | .value | .malformed => orUnset do return shown quoted value
    | .length =>
      orUnset do
        return shown quoted
          (toString (if name = "*" ∨ name = "@" then s.positions.length else value.length))
    | .orDefault colon => if counts colon then return shown quoted value else fallback
    | .instead colon => if counts colon then fallback else return shown quoted ""
    | .orAssign colon =>
      if counts colon then return shown quoted value
      else
        let text := textOf (← operand)
        Act.assign name text
        return shown quoted text
    | .orFail colon =>
      if counts colon then return shown quoted value
      else
        let text := textOf (← operand)
        Act.abort (name ++ ": " ++
          if bare then "parameter not set" ++ (if colon then " or null" else "") else text)
    | .cutFront longest => cutBy fun p text => p.cutFront longest text
    | .cutBack longest => cutBy fun p text => p.cutBack longest text

end Act

mutual

/-- The glyphs of a segment. -/
def Segment.expand (capture : Capture) : Segment → Act (List Glyph)
  | .text text quoted =>
    return if text.isEmpty && quoted then [.presence] else glyphsOf text quoted false
  | .substitution lines quoted => do
    return glyphsOf (withoutLineEnds (← capture lines)) quoted (!quoted)
  | .arithmetic expression quoted => do
    let text := textOf (← expandSegments capture expression)
    let s ← get
    match Arithmetic.evaluate s.value? text with
    | .error e => Act.abort e
    | .ok (n, assigned) =>
      for (name, value) in assigned.reverse do Act.assign name (toString value)
      return glyphsOf (toString n) quoted (!quoted)
  | .parameter name form operand quoted =>
    Act.parameterAs name form operand.isEmpty (expandSegments capture operand) quoted

/-- The glyphs of segments. -/
def expandSegments (capture : Capture) : List Segment → Act (List Glyph)
  | [] => return []
  | segment :: rest => do
    let first ← segment.expand capture
    return first ++ (← expandSegments capture rest)

end

/-- The glyphs of a word. -/
def Word.expand (capture : Capture) (w : Word) (colons : Bool) : Act (List Glyph) := do
  let own := (← get).value? "HOME"
  let size :=
    (w.map fun s => match s with | .text text _ => text.length + 1 | _ => 1).foldl (· + ·) 1
  expandSegments capture (expandTildes own colons size w)

/-- The text of a word. -/
def Word.expandText (capture : Capture) (w : Word) : Act String := do
  return textOf (← w.expand capture false)

/-- Whether the command of these words takes assignments as arguments. -/
def declares (fields : List String) : Bool :=
  ((fields.dropWhile (· = "command")).head?).any declaringBuiltins.contains

/-- The fields of words after those of `before`, file names put in for patterns. -/
def expandFieldsAfter (capture : Capture) (before : List String) :
    List Word → Act (List String)
  | [] => return before
  | w :: ws => do
    match if declares before then splitAssignment w else none with
    | some (name, value) =>
      let gs ← value.expand capture true
      expandFieldsAfter capture (before ++ [name ++ "=" ++ textOf gs]) ws
    | none =>
      let gs ← w.expand capture false
      let s ← get
      let fields := (fieldsOf s.separators gs).flatMap fun field =>
        if s.hasOption 'f' then [plainText field] else matchPaths s.files s.workingDir field
      expandFieldsAfter capture (before ++ fields) ws

/-- The fields of words. -/
def expandFields (capture : Capture) (words : List Word) : Act (List String) :=
  expandFieldsAfter capture [] words

/-- Assignments one after the other; each is shown as it is made. -/
def assignAll (capture : Capture) (assignments : List (String × Word)) :
    Act (List String) :=
  assignments.mapM fun (name, w) => do
    let value := textOf (← w.expand capture true)
    Act.assign name value
    return name ++ "=" ++ value

/-- Whether the text has the form of one of the patterns. -/
def anyAccepts (capture : Capture) (text : String) : List Word → Act Bool
  | [] => return false
  | w :: ws => do
    if (patternOf (markedOf (← w.expand capture false))).acceptsText text then return true
    else anyAccepts capture text ws

end Pipeline.Shell
