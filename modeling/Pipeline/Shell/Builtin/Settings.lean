import Pipeline.Shell.Builtin.Variables
import Pipeline.Shell.Option
import Pipeline.Shell.Signal

/-!
# Builtins for settings

The options and positions of a shell, its aliases, and what it does when a signal comes or when it
ends.
-/

namespace Pipeline.Shell.Builtin

/-- Sets or clears an option. -/
def setOption (on : Bool) (c : Char) : Act Unit :=
  modify fun s =>
    { s with options := if on then c :: s.options.filter (· ≠ c) else s.options.filter (· ≠ c) }

/-- Writes the options, in columns or as commands. -/
def listOptions (columns : Bool) : Act Unit := do
  let s ← get
  let isOn (letter : Option Char) : Bool := letter.any s.hasOption
  if columns then Act.say "Current option settings\n"
  for (name, letter) in shellOptions do
    Act.say <|
      if columns then
        name ++ String.ofList (List.replicate (16 - name.length) ' ') ++
          (if isOn letter then "on\n" else "off\n")
      else "set " ++ (if isOn letter then "-o " else "+o ") ++ name ++ "\n"

/-- Sets or clears an option by its name, or lists all without a name. -/
def setNamed (command : String) (on : Bool) (name : Option String) : Act Unit :=
  match name with
  | none => listOptions on
  | some name =>
    match shellOptions.lookup name with
    | some letter => letter.elim (pure ()) (setOption on)
    | none => abort command ("Illegal option " ++ (if on then "-o " else "+o ") ++ name)

/-- The letters of one argument; an `o` takes the next argument as a name. -/
def setLetters (command : String) (on : Bool) : List Char → List String → Act (List String)
  | [], rest => return rest
  | c :: cs, rest => do
    if c = 'o' then
      setNamed command on rest.head?
      setLetters command on cs (rest.drop 1)
    else if optionLetters.contains c then
      setOption on c
      setLetters command on cs rest
    else abort command ("Illegal option -" ++ c.toString)

/-- The options that the arguments set, and the positions if they give any; `fuel` exceeds the
number of arguments. -/
def setArguments : Nat → List String → Act Unit
  | 0, _ => return
  | fuel + 1, args => do
    let positions (args : List String) : Act Unit := modify fun s => { s with positions := args }
    match args with
    | [] => return
    | arg :: rest =>
      match arg.toList with
      | ['-', '-'] => positions rest
      | ['-'] =>
        setOption false 'x'
        setOption false 'v'
        if !rest.isEmpty then positions rest
      | '-' :: cs => setArguments fuel (← setLetters "set" true cs rest)
      | '+' :: cs => setArguments fuel (← setLetters "set" false cs rest)
      | _ => positions args

/-- Changes options and positions, or lists the variables. -/
def set (args : List String) : Act Nat := do
  if args.isEmpty then listVariables "" fun v => v.value.isSome
  else
    setArguments (args.length + 1) args
    return 0

/-- Drops positions at the front. -/
def shift (args : List String) : Act Nat := do
  let count ← (args.head?.map (number "shift")).getD (pure 1)
  let s ← get
  if s.positions.length < count then abort "shift" "can't shift that many"
  else
    modify fun s => { s with positions := s.positions.drop count }
    return 0

/-- Sets or shows aliases. -/
def setAliases (args : List String) : Act Nat := do
  let show1 (name value : String) : Act Unit :=
    Act.say (name ++ "=" ++ quotedValue value ++ "\n")
  let s ← get
  if args.isEmpty then
    for (name, value) in s.aliases.mergeSort fun a b => tableKey a.1 ≤ tableKey b.1 do
      show1 name value
  let mut status := 0
  for arg in args do
    match splitAtEquals arg with
    | (name, some value) =>
      modify fun s =>
        { s with
          aliases :=
            if s.aliases.any fun a => a.1 == name then
              s.aliases.map fun a => if a.1 == name then (name, value) else a
            else s.aliases ++ [(name, value)] }
    | (name, none) =>
      match (← get).aliases.lookup name with
      | some value => show1 name value
      | none =>
        Act.warn ("alias: " ++ name ++ " not found\n")
        status := 1
  return status

/-- Forgets aliases. -/
def forgetAliases (args : List String) : Act Nat := do
  let (options, args) ← takeOptions "unalias" "a" (args.length + 1) args
  if !options.isEmpty then modify fun s => { s with aliases := [] }
  let mut status := 0
  for name in args do
    if ((← get).aliases.lookup name).isSome then
      modify fun s => { s with aliases := s.aliases.filter fun a => a.1 != name }
    else
      Act.warn ("unalias: " ++ name ++ " not found\n")
      status := 1
  return status

/-- Writes the actions for conditions, in the order of their numbers. -/
def listTraps : Act Nat := do
  let s ← get
  for name in "EXIT" :: Signal.all.map Signal.name do
    if let some action := s.traps.lookup name then
      Act.say ("trap -- " ++ quotedValue action ++ " " ++ name ++ "\n")
  return 0

/-- Sets the action for conditions, or clears it where there is none. -/
def setTraps (action : Option String) : List String → Act Nat
  | [] => return 0
  | c :: rest => do
    match conditionOf c with
    | some name =>
      modify fun s =>
        let others := s.traps.filter fun t => t.1 != name
        { s with traps := action.elim others fun a => (name, a) :: others }
      setTraps action rest
    | none =>
      Act.warn ("trap: " ++ c ++ ": bad trap\n")
      return 1

/-- Sets, clears or shows the actions for conditions. -/
def trap (args : List String) : Act Nat := do
  let (_, args) ← takeOptions "trap" "" 2 args
  match args with
  | [] => listTraps
  | [c] => setTraps none [c]
  | action :: rest =>
    if action.toNat?.any fun n => n < 65 then setTraps none args
    else if action = "-" then setTraps none rest
    else setTraps (some action) rest

end Pipeline.Shell.Builtin
