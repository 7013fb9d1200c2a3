import Pipeline.Shell.Builtin.Arguments
import Pipeline.Shell.Mode

/-!
# Builtins for directories and permissions

The working directory is known by the path by which it was reached, so a step up leads back over a
link. The mask says which permissions new files do not get.
-/

namespace Pipeline.Shell

/-- The path that another path leads to from an absolute one, as texts: a step up drops a name. -/
def reachedBy (base path : String) : String :=
  let names (p : String) : List String := (Path.components p).filter fun c => c != "" && c != "."
  let start := if Path.isAbsolute path then [] else names base
  let reached := (names path).foldl
      (fun acc c => if c = ".." then acc.dropLast else acc ++ [c]) start
  "/" ++ String.intercalate "/" reached

namespace Builtin

/-- The directories in which `cd` looks for a path, and whether it says where it found it. -/
def searched (path : String) (listed : Option String) : List (String × Bool) :=
  match listed, path.toList.head? with
  | some text, some c =>
    if c = '/' ∨ path = "." ∨ path = ".." ∨ "./".toList.isPrefixOf path.toList ∨
        "../".toList.isPrefixOf path.toList then [(path, false)]
    else
      (text.splitOn ":").map (fun dir =>
        if dir.isEmpty then (path, false) else (Path.join dir path, true)) ++ [(path, false)]
  | _, _ => [(path, false)]

/-- Changes the working directory. -/
def cd (args : List String) : Act Nat := do
  let (options, args) ← takeOptions "cd" "LP" (args.length + 1) args
  let physical := (options.getLast?.map Prod.fst) = some 'P'
  let s ← get
  let back := args.head? = some "-"
  let goal :=
    match args with
    | [] => (s.value? "HOME").getD ""
    | "-" :: _ => (s.value? "OLDPWD").getD ""
    | path :: _ => path
  let candidates := if back then [(goal, true)] else searched goal (s.value? "CDPATH")
  let found := candidates.findSome? fun (path, told) =>
    let path := if path.isEmpty then "." else path
    let path := if physical then path else reachedBy s.reached path
    match s.files.locate s.workingDir path with
    | .ok (place, .directory) => some (place, if physical then place.toPath else path, told)
    | _ => none
  match found with
  | some (place, reached, told) =>
    let s := s.withVariable "OLDPWD" ⟨some s.reached, true, false⟩
    let s := s.withVariable "PWD" ⟨some reached, true, false⟩
    set { s with workingDir := place, reached := reached }
    if told then Act.say (reached ++ "\n")
    return 0
  | none =>
    report "cd" ("can't cd to " ++ goal)
    return 2

/-- Writes the working directory. -/
def pwd (args : List String) : Act Nat := do
  let (options, _) ← takeOptions "pwd" "LP" (args.length + 1) args
  let s ← get
  let physical := (options.getLast?.map Prod.fst) = some 'P'
  Act.say ((if physical then s.workingDir.toPath else s.reached) ++ "\n")
  return 0

/-- Shows or changes the permissions that new files do not get. -/
def umask (args : List String) : Act Nat := do
  let (options, args) ← takeOptions "umask" "S" (args.length + 1) args
  let s ← get
  match args with
  | [] =>
    Act.say ((if options.isEmpty then octalMode s.mask else clausesOfMode (0o777 - s.mask)) ++ "\n")
    return 0
  | text :: _ =>
    if text.toList.head?.any Char.isDigit then
      if text.toList.all fun c => '0' ≤ c && c ≤ '7' then
        let n := text.toList.foldl (fun (n : Nat) (c : Char) => n * 8 + (c.toNat - 48)) 0
        set { s with mask := n % 0o1000 }
        return 0
      else abort "umask" ("Illegal number: " ++ text)
    else
      match changedMode? 0 false text (0o777 - s.mask) with
      | some mode =>
        set { s with mask := 0o777 - mode &&& 0o777 }
        return 0
      | none => abort "umask" ("Illegal mode: " ++ text)

end Builtin

end Pipeline.Shell
