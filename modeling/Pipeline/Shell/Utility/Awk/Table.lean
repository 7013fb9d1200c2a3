import Pipeline.Shell.Utility.Awk.Value

/-!
# Tables of programs on records

Values by keys. A table gives its keys in the order of their sums, and keys of one sum with the one
that was asked for last before the others. Keys that are whole numbers count as asked for when a key
of another kind first is, or when all keys are.
-/

namespace Pipeline.Shell.Utility.Awk

/-- A table. -/
structure Table where
  /-- The values by keys, the one that was asked for last in front. -/
  named : List (String × Value) := []
  /-- The values by whole numbers that are not among the others yet. -/
  counted : List (Int × Value) := []
  /-- Whether the table has keys other than whole numbers. -/
  isNamed : Bool := false
  /-- The whole numbers whose keys keep their places when they are asked for. -/
  known : List Int := []
  /-- How many sums are told apart. -/
  width : Nat := 64

/-- A key. -/
inductive Key where
  | whole (n : Int)
  | name (s : String)

/-- The text of a key. -/
def Key.text : Key → String
  | whole n => toString n
  | name s => s

/-- The key that a value stands for. -/
def Key.ofValue (format : Float → String) : Value → Key
  | .number x =>
    match whole? x with
    | some n => if n.natAbs < Nat.pow 2 53 then .whole n else .name (numberText format x)
    | none => .name (numberText format x)
  | a => .name (a.toText format)

/-- The sum of a key. -/
def keySum (s : String) : Nat :=
  s.toList.foldl (fun n c => (n ^^^ c.toNat) * 16777619 % Nat.pow 2 32) 2166136261

namespace Table

/-- How many keys there are. -/
def size (t : Table) : Nat :=
  t.named.length + t.counted.length

/-- The whole numbers of a list in the order of what is left of them, those of one such number as
they are. -/
def byRemainder (width : Nat) (items : List (Int × Value)) : List (Int × Value) :=
  items.mergeSort fun a b => a.1.emod width ≤ b.1.emod width

/-- The table with all keys by name. -/
def asNamed (t : Table) : Table :=
  if t.isNamed then t
  else
    let items := byRemainder t.width t.counted
    { t with
      named := (items.map fun (n, a) => (toString n, a)).reverse
      counted := [], isNamed := true, known := t.known ++ items.map Prod.fst }

/-- The table with room for its keys. -/
def fitted (t : Table) : Table :=
  if t.width * 12 < t.size then { t with width := t.width * 2 } else t

/-- The item of a key with the list in which it comes first; a missing one is made if `create` says
so. -/
def toFront {κ : Type} [BEq κ] (create : Bool) (key : κ) (items : List (κ × Value)) :
    Option Value × List (κ × Value) :=
  match items.lookup key with
  | some a => (some a, (key, a) :: items.filter fun x => !(x.1 == key))
  | none => if create then (some .unset, (key, .unset) :: items) else (none, items)

/-- The value of a key; a missing one is made if `create` says so. -/
def find (t : Table) (create : Bool) : Key → Option Value × Table
  | .name s =>
    let t := t.asNamed
    let (found, items) := toFront create s t.named
    (found, { t with named := items }.fitted)
  | .whole n =>
    if !t.isNamed then
      let (found, items) := toFront create n t.counted
      (found, { t with counted := items }.fitted)
    else if t.known.contains n then (t.named.lookup (toString n), t)
    else
      let (found, items) := toFront create (toString n) t.named
      (found,
        { t with named := items, known := if found.isSome then n :: t.known else t.known }.fitted)

/-- The table with another value for a key that it has. -/
def put (t : Table) (key : Key) (a : Value) : Table :=
  match key with
  | .whole n =>
    if t.isNamed then putNamed t (toString n) a
    else { t with counted := t.counted.map fun x => if x.1 = n then (n, a) else x }
  | .name s => putNamed t.asNamed s a
where
  /-- The table with another value for a name that it has. -/
  putNamed (t : Table) (s : String) (a : Value) : Table :=
    { t with named := t.named.map fun x => if x.1 = s then (s, a) else x }

/-- The table without a key. -/
def erase (t : Table) (key : Key) : Table :=
  let s := key.text
  let rest : Table :=
    { t with
      named := t.named.filter fun x => x.1 != s
      counted := t.counted.filter fun x => toString x.1 != s
      known := t.known.filter fun n => toString n != s }
  if rest.size = 0 then {} else rest

/-- The keys in order. -/
def keys (t : Table) : List String :=
  let sum (s : String) : Nat := keySum s % t.width
  (t.named.map Prod.fst).mergeSort fun a b => sum a ≤ sum b

/-- The table of values with numbers from one on. -/
def ofList (values : List Value) : Table :=
  { counted := values.mapIdx fun i a => ((i + 1 : Nat), a) }

end Table

end Pipeline.Shell.Utility.Awk
