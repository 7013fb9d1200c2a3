/-!
# Command line arguments

What a command line asks for (specification, section 15). There are two levels, before and after the
name of a command. An option with a value waits for the next argument; it is settled when another
option comes or when its level ends, and only then is its value looked at. Of an option that is
given at both levels the later one counts.
-/

namespace Pipeline.Cli

/-- Where options stand: before the name of a command, or after it. -/
inductive Level where
  | top
  | run
  | validate
  deriving DecidableEq, Repr

/-- Why a command line is not carried out. -/
inductive UsageError where
  | displayHelp (level : Level)
  | displayHelpOnMissingArgumentOrSubcommand
  | displayVersion
  | invalidSubcommand
  | missingSubcommand
  | unknownArgument
  | argumentConflict
  | invalidValue
  | valueValidation
  | tooManyValues
  deriving DecidableEq, Repr

/-- What is to be done. -/
inductive Command where
  | run (json : Bool) (maxOutputLines : Option Nat)
  | validate (json : Bool)
  deriving DecidableEq, Repr

/-- A command line that can be carried out. -/
structure Arguments where
  command : Command
  verbose : Bool := false
  config : Option String := none
  directory : Option String := none
  deriving DecidableEq, Repr

/-- The level after the name of a command. -/
def Level.ofName? (name : String) : Option Level :=
  if name = "run" then some .run
  else if name = "validate" then some .validate
  else none

/-- An option without a value. -/
inductive Flag where
  | verbose
  | json
  | help
  | version
  deriving DecidableEq, Repr

/-- An option with a value. -/
inductive Setting where
  | config
  | directory
  | maxOutputLines
  deriving DecidableEq, Repr

/-- The option of a long name. -/
def Level.long? (level : Level) (name : String) : Option (Flag ⊕ Setting) :=
  match name with
  | "verbose" => some (.inl .verbose)
  | "config" => some (.inr .config)
  | "directory" => some (.inr .directory)
  | "help" => some (.inl .help)
  | "version" => if level = .top then some (.inl .version) else none
  | "json" => if level = .top then none else some (.inl .json)
  | "max-output-lines" => if level = .run then some (.inr .maxOutputLines) else none
  | _ => none

/-- The option of a letter. -/
def Level.short? (level : Level) (letter : Char) : Option (Flag ⊕ Setting) :=
  match letter with
  | 'v' => some (.inl .verbose)
  | 'C' => some (.inr .directory)
  | 'h' => some (.inl .help)
  | 'V' => if level = .top then some (.inl .version) else none
  | _ => none

/-- The options that are given at one level. -/
structure Given where
  verbose : Bool := false
  json : Bool := false
  config : Option String := none
  directory : Option String := none
  maxOutputLines : Option Nat := none
  /-- The option that is not settled yet, with its value if it has one. -/
  waiting : Option (Setting × Option String) := none
  deriving DecidableEq, Repr

namespace Given

/-- Whether nothing at all is given. -/
def isEmpty (g : Given) : Bool :=
  !g.verbose && !g.json && g.config.isNone && g.directory.isNone && g.maxOutputLines.isNone

/-- Whether an option waits for its value. -/
def expectsValue (g : Given) : Bool :=
  match g.waiting with
  | some (_, none) => true
  | _ => false

/-- The count of a text: digits, perhaps after a plus sign, that fit into 64 bits. -/
def count? (text : String) : Option Nat :=
  let ds := match text.toList with | '+' :: rest => rest | cs => cs
  if ds.isEmpty || !ds.all Char.isDigit then none
  else
    let n := ds.foldl (fun n c => n * 10 + (c.toNat - 48)) 0
    if n < Nat.pow 2 64 then some n else none

/-- The options with a setting that has the given value. -/
def assign (g : Given) (s : Setting) (value : Option String) : Except UsageError Given :=
  match value with
  | none => .error .invalidValue
  | some value =>
    let path (old : Option String) (set : Option String → Given) : Except UsageError Given :=
      if old.isSome then .error .argumentConflict
      else if value.isEmpty then .error .invalidValue
      else .ok (set (some value))
    match s with
    | .config => path g.config fun v => { g with config := v }
    | .directory => path g.directory fun v => { g with directory := v }
    | .maxOutputLines =>
      if g.maxOutputLines.isSome then .error .argumentConflict
      else
        match count? value with
        | some n => .ok { g with maxOutputLines := some n }
        | none => .error .valueValidation

/-- The options with nothing left to settle. -/
def settle (g : Given) : Except UsageError Given :=
  match g.waiting with
  | none => .ok g
  | some (s, value) => { g with waiting := none }.assign s value

/-- The options with one more flag. -/
def raise (level : Level) (g : Given) (f : Flag) : Except UsageError Given := do
  let g ← g.settle
  match f with
  | .verbose => if g.verbose then .error .argumentConflict else .ok { g with verbose := true }
  | .json => if g.json then .error .argumentConflict else .ok { g with json := true }
  | .help => .error (.displayHelp level)
  | .version => .error .displayVersion

/-- The options with one more setting, whose value may be attached to it. -/
def meet (g : Given) (s : Setting) (attached : Option String) : Except UsageError Given := do
  let g ← g.settle
  match attached with
  | some value => g.assign s (some value)
  | none => .ok { g with waiting := some (s, none) }

/-- A long option in two parts: its name, and the value attached to it. -/
def splitLong (cs : List Char) : String × Option String :=
  let name := String.ofList (cs.takeWhile (· ≠ '='))
  match cs.dropWhile (· ≠ '=') with
  | _ :: value => (name, some (String.ofList value))
  | [] => (name, none)

/-- The options after an argument with two hyphens before it. -/
def readLong (level : Level) (g : Given) (cs : List Char) : Except UsageError Given :=
  let (name, attached) := splitLong cs
  match level.long? name with
  | none => .error .unknownArgument
  | some (.inl flag) => if attached.isSome then .error .tooManyValues else g.raise level flag
  | some (.inr setting) => g.meet setting attached

/-- The options after an argument of letters with a hyphen before it. -/
def readShort (level : Level) (g : Given) : List Char → Except UsageError Given
  | [] => .ok g
  | letter :: rest =>
    match level.short? letter with
    | none => .error .unknownArgument
    | some (.inl flag) => do readShort level (← g.raise level flag) rest
    | some (.inr setting) =>
      g.meet setting <|
        match rest with
        | [] => none
        | '=' :: value => some (String.ofList value)
        | value => some (String.ofList value)

/-- The options of a later level, and of an earlier one where the later says nothing. -/
def completedBy (later earlier : Given) : Given :=
  { verbose := later.verbose || earlier.verbose
    json := later.json
    config := later.config.or earlier.config
    directory := later.directory.or earlier.directory
    maxOutputLines := later.maxOutputLines }

end Given

/-- The answer to a request for help about commands. -/
def helpFor : List String → UsageError
  | [] => .displayHelp .top
  | name :: more =>
    if more.isEmpty && ((Level.ofName? name).isSome || name == "help") then
      .displayHelp ((Level.ofName? name).getD .top)
    else .invalidSubcommand

/-- The error of an argument that has no place; `escaped` says that a double hyphen came before. -/
def stray (level : Level) (escaped : Bool) (arg : String) : UsageError :=
  if level ≠ .top then .unknownArgument
  else if escaped && ((Level.ofName? arg).isSome || arg == "help") then .unknownArgument
  else .invalidSubcommand

/-- The arguments of one level: its options, and the name of a command with the arguments after
it. -/
def readLevel (level : Level) (escaped : Bool) (g : Given) :
    List String → Except UsageError (Given × Option (Level × List String))
  | [] => .ok (g, none)
  | arg :: rest =>
    if escaped then .error (stray level true arg)
    else
      let named := if level = .top && !g.expectsValue then Level.ofName? arg else none
      match named with
      | some next => .ok (g, some (next, rest))
      | none =>
        if level = .top && !g.expectsValue && arg == "help" then .error (helpFor rest)
        else
          let plain : Except UsageError (Given × Option (Level × List String)) :=
            match g.waiting with
            | some (s, none) => readLevel level false { g with waiting := some (s, some arg) } rest
            | _ => .error (stray level false arg)
          match arg.toList with
          | ['-', '-'] => readLevel level true g rest
          | '-' :: '-' :: cs => do readLevel level false (← g.readLong level cs) rest
          | '-' :: c :: cs => do readLevel level false (← g.readShort level (c :: cs)) rest
          | _ => plain

/-- The command line of the arguments after the name of the program. -/
def Arguments.parse (args : List String) : Except UsageError Arguments := do
  let (top, next) ← readLevel .top false {} args
  match next with
  | none =>
    let top ← top.settle
    .error (if top.isEmpty then .displayHelpOnMissingArgumentOrSubcommand else .missingSubcommand)
  | some (level, rest) =>
    let (inner, _) ← readLevel level false {} rest
    let inner ← inner.settle
    let g := inner.completedBy (← top.settle)
    let command :=
      if level = .validate then Command.validate g.json else .run g.json g.maxOutputLines
    .ok ⟨command, g.verbose, g.config, g.directory⟩

end Pipeline.Cli
