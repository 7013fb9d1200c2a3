/-!
# Paths

A path is a text of components between slashes. Joining keeps both parts as they are written; an
absolute second part stands alone.
-/

namespace Pipeline.Path

/-- Whether the path starts at the root of the file tree. -/
def isAbsolute (path : String) : Bool :=
  path.toList.head? == some '/'

/-- `part` below `base`. -/
def join (base part : String) : String :=
  if isAbsolute part then part
  else
    match base.toList.getLast? with
    | none => part
    | some '/' => base ++ part
    | some _ => base ++ "/" ++ part

/-- The parts of `cs` between slashes, the one under way collected in reverse. -/
def splitSlashes (acc : List Char) : List Char → List (List Char)
  | [] => [acc.reverse]
  | c :: cs => if c = '/' then acc.reverse :: splitSlashes [] cs else splitSlashes (c :: acc) cs

/-- The components of a path, empty ones included: the last is empty after a final slash. -/
def components (path : String) : List String :=
  (splitSlashes [] path.toList).map String.ofList

end Pipeline.Path
