import Pipeline.Shell.Expansion

/-!
# Redirections

A redirection makes a descriptor lead somewhere else, or tells what is wrong with its operand.
-/

namespace Pipeline.Shell

/-- What is said of a file that cannot be opened or made. -/
def openReason (create : Bool) (e : FileError) : String :=
  if e = .noSuchFile ∨ e = .notDirectory then
    if create then "Directory nonexistent" else "No such file"
  else e.reason

namespace Act

/-- A descriptor leads to a new stream. -/
def lead (descriptor : Nat) (stream : Stream) : Act (Option String) := do
  let n ← newStream stream
  modify fun s => s.withDescriptor descriptor n
  return none

/-- A descriptor leads where another one leads. -/
def duplicate (descriptor source : Nat) : Act (Option String) := do
  let s ← get
  match s.descriptors.lookup source with
  | some stream =>
    set (s.withDescriptor descriptor stream)
    return none
  | none => return some (toString source ++ ": Bad file descriptor")

/-- A descriptor leads to a file that a change of the files prepares. -/
def leadToFile (descriptor : Nat) (path : String) (prepare : Files → Except FileError Files) :
    Act (Option String) := do
  let s ← get
  match prepare s.files with
  | .error e => return some ("cannot create " ++ path ++ ": " ++ openReason true e)
  | .ok _ =>
    let _ ← changeFiles prepare
    let files := (← get).files
    match files.locate s.workingDir path with
    | .ok (place, .file _) => lead descriptor (.file place)
    | _ => lead descriptor .sink

/-- The descriptor that the name of a device stands for. -/
def deviceDescriptor? (path : String) : Option Nat :=
  match path with
  | "/dev/stdin" => some 0
  | "/dev/stdout" => some 1
  | "/dev/stderr" => some 2
  | path =>
    let start := "/dev/fd/".toList
    if start.isPrefixOf path.toList then (String.ofList (path.toList.drop start.length)).toNat?
    else none

/-- A descriptor leads to a file that is written anew, unless it is there and must not be. -/
def leadToNew (descriptor : Nat) (path : String) (forced : Bool) : Act (Option String) := do
  let s ← get
  if !forced && s.hasOption 'C' && s.files.isFile s.workingDir path then
    return some ("cannot create " ++ path ++ ": " ++ FileError.exists.reason)
  else leadToFile descriptor path fun f => f.write s.workingDir path []

/-- A descriptor leads to the content of a file, which is made if `create` says so. -/
def leadToContent (descriptor : Nat) (path : String) (create : Bool) : Act (Option String) := do
  let s ← get
  match s.files.locate s.workingDir path with
  | .ok (_, .file content) => lead descriptor (.remaining (Text.ofOctets content) true)
  | .ok (_, .directory) => lead descriptor .directory
  | .ok (_, .device d) => lead descriptor (.remaining (Text.ofOctets d.content) false)
  | .ok (_, .link _) => lead descriptor (.remaining [] false)
  | .error e =>
    if create then leadToFile descriptor path fun f => f.append s.workingDir path []
    else return some ("cannot open " ++ path ++ ": " ++ openReason false e)

/-- A descriptor leads where a redirection wants it, or what is wrong. -/
def redirectTo (descriptor : Nat) (kind : RedirectKind) (operand : String) :
    Act (Option String) := do
  let s ← get
  match kind with
  | .duplicate =>
    match operand.toList with
    | ['-'] =>
      set { s with descriptors := s.descriptors.filter fun d => d.1 != descriptor }
      return none
    | [c] =>
      if c.isDigit then duplicate descriptor (c.toNat - 48)
      else Act.abort "Syntax error: Bad fd number"
    | _ => Act.abort "Syntax error: Bad fd number"
  | .document => lead descriptor (.remaining operand.toList false)
  | kind =>
    match deviceDescriptor? operand, kind with
    | some source, _ => duplicate descriptor source
    | none, .append => leadToFile descriptor operand fun f => f.append s.workingDir operand []
    | none, .input => leadToContent descriptor operand false
    | none, .readWrite => leadToContent descriptor operand true
    | none, kind => leadToNew descriptor operand (kind == .overwrite)

end Act

/-- Redirections one after the other, or what is wrong with the first that fails. -/
def redirectAll (capture : Capture) : List Redirect → Act (Option String)
  | [] => return none
  | .mk descriptor kind operand :: rest => do
    match ← Act.redirectTo descriptor kind (← Word.expandText capture operand) with
    | some problem => return some problem
    | none => redirectAll capture rest

end Pipeline.Shell
