import Pipeline.Shell.Builtin.Arguments

/-!
# Builtins for variables

Variables are exported, protected, forgotten, or hidden until a function returns.
-/

namespace Pipeline.Shell.Builtin

/-- A variable with a value that a shell reads back. -/
def assignmentText (name : String) (v : Variable) : String :=
  name ++ v.value.elim "" fun value => "=" ++ quotedValue value

/-- Writes the variables that are `shown`, in order, with a text before each. -/
def listVariables (before : String) (shown : Variable → Bool) : Act Nat := do
  let chosen := ((← get).bindings.filter fun v => shown v.2).mergeSort fun a b => decide (a.1 ≤ b.1)
  Act.say (String.join (chosen.map fun (name, v) => before ++ assignmentText name v ++ "\n"))
  return 0

/-- Changes variables that arguments name, with new values for those that have one. -/
def markVariables (mark : Variable → Variable) (command : String) (args : List String) :
    Act Nat := do
  for arg in args do
    let (name, value) := splitAtEquals arg
    if !isName name then abort command (name ++ ": bad variable name")
    if let some value := value then Act.assign name value
    modify fun s =>
      s.withVariable name (mark ((s.bindings.lookup name).getD ⟨none, false, false⟩))
  return 0

/-- Marks the variables that are named, or lists those that are marked. -/
def markOrList (command : String) (mark : Variable → Variable) (marked : Variable → Bool)
    (args : List String) : Act Nat := do
  let (options, args) ← takeOptions command "p" (args.length + 1) args
  if args.isEmpty || !options.isEmpty then listVariables (command ++ " ") marked
  else markVariables mark command args

/-- Exports variables. -/
def exportNames : List String → Act Nat :=
  markOrList "export" (fun v => { v with exported := true }) Variable.exported

/-- Protects variables from changes. -/
def readonlyNames : List String → Act Nat :=
  markOrList "readonly" (fun v => { v with fixed := true }) Variable.fixed

/-- Forgets variables or functions. -/
def unset (args : List String) : Act Nat := do
  let (options, args) ← takeOptions "unset" "vf" (args.length + 1) args
  let functions := options.getLast?.any fun o => o.1 == 'f'
  for name in args do
    let s ← get
    if functions then set { s with functions := s.functions.filter fun f => f.1 != name }
    else if !isName name then abort "unset" (name ++ ": bad variable name")
    else if (s.bindings.lookup name).any Variable.fixed then
      abort "unset" (name ++ ": is read only")
    else set (s.withoutVariable name)
  return 0

/-- Hides variables until the function under way returns; a hyphen hides the options. -/
def localNames (args : List String) : Act Nat := do
  for arg in args do
    let (name, value) := splitAtEquals arg
    let s ← get
    match s.hidden with
    | [] => abort "local" "not in a function"
    | names :: outer =>
      if arg = "-" then
        let letters : Variable := ⟨some (String.ofList s.options), false, false⟩
        set { s with hidden := (("-", some letters) :: names) :: outer }
      else if !isName name then abort "local" (name ++ ": bad variable name")
      else
        let saved := if names.any fun h => h.1 == name then names
          else (name, s.bindings.lookup name) :: names
        set { s with hidden := saved :: outer }
        if let some value := value then Act.assign name value
  if (← get).hidden.isEmpty then abort "local" "not in a function"
  return 0

end Pipeline.Shell.Builtin
