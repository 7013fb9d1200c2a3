import Pipeline.Yaml.Node.OfTokens
import Pipeline.Yaml.Scalar

/-!
# Decoding YAML nodes

A decoder goes through the nodes of a document in the order of the text. It follows aliases, up to a
hundred for each node that the document has, and stops at the first thing that is not what is wanted
or where the text stops being YAML.
-/

namespace Pipeline.Yaml

/-- A reading of a document that counts the aliases it follows. -/
abbrev Decode := ReaderT Document (StateT Nat (Except Error))

namespace Decode

/-- The value at `place` is not what is wanted. -/
def refuse {α : Type} (place : List Part) (m : Mismatch) : Decode α :=
  throw (.mismatch place m)

/-- The text stopped being YAML here. -/
def broken {α : Type} : Decode α := do
  throw ((← read).failure.getD (.badSyntax .missingContent))

/-- One more alias is followed. -/
def follow : Decode Unit := do
  let followed ← getModify (· + 1)
  if (← read).weight * 100 < followed + 1 then throw .tooManyAliases

/-- The node itself, or the one that an alias stands for. -/
def resolve (n : Node) : Decode Node := do
  match n with
  | .alias slot =>
    follow
    return ((← read).anchoredAt? slot).getD .broken
  | n => return n

/-- The place where a tag of the value at `place` is reported: what the value belongs to, but the
value itself when it is an alias. -/
def tagPlace (place : List Part) : Node → List Part
  | .alias _ => place
  | _ => place.dropLast

/-- The text of a scalar, however it is written. -/
def text (expected : String) (place : List Part) (n : Node) : Decode String := do
  match ← resolve n with
  | .scalar s => return s.text
  | .sequence _ _ => refuse place (.invalidType .sequence expected)
  | .mapping _ _ => refuse place (.invalidType .map expected)
  | _ => broken

/-- A truth value, which is written plain or as a tagged block. -/
def bool (place : List Part) (n : Node) : Decode Bool := do
  match ← resolve n with
  | .scalar s =>
    let readable := s.style = .plain ∨ (s.style = .literal ∧ s.tag = some (Tag.core "bool"))
    match boolWord? s.text with
    | some b => if readable then return b else refuse place (s.mismatch "a boolean")
    | none => refuse place (s.mismatch "a boolean")
  | .sequence _ _ => refuse place (.invalidType .sequence "a boolean")
  | .mapping _ _ => refuse place (.invalidType .map "a boolean")
  | _ => broken

/-- A value that a plain word for nothing leaves out. A wrong tag for nothing is reported where the
value belongs to. -/
def option {α : Type} (decode : List Part → Node → Decode α) (place : List Part) (n : Node) :
    Decode (Option α) := do
  let n ← resolve n
  let present : Decode (Option α) := some <$> decode place n
  match n with
  | .scalar s =>
    if s.style ≠ .plain then present
    else
      match s.tag with
      | none => if s.text.isEmpty ∨ isNullWord s.text then return none else present
      | some tag =>
        if tag ≠ Tag.core "null" then present
        else if isNullWord s.text then return none
        else refuse place.dropLast (.invalidValue (.text s.text) "null")
  | _ => present

/-- The items of a list, numbered from `index` on. -/
def items {α : Type} (decode : List Part → Node → Decode α) (place : List Part) :
    Nat → List Node → Decode (List α)
  | _, [] => return []
  | index, n :: ns => do
    let x ← decode (place ++ [.item index]) n
    return x :: (← items decode place (index + 1) ns)

/-- A list; where nothing is written there are no items. -/
def list {α : Type} (decode : List Part → Node → Decode α) (place : List Part) (n : Node) :
    Decode (List α) := do
  match ← resolve n with
  | .sequence _ ns => items decode place 0 ns
  | .mapping _ _ => refuse place (.invalidType .map "a sequence")
  | .scalar s => if s.isVoid then return [] else refuse place (s.mismatch "a sequence")
  | _ => broken

/-- The way from a mapping to the value of a key. -/
def keyPart : Node → Part
  | .scalar s => .field s.text
  | _ => .unnamed

/-- The entries applied to a record one after the other. A known field that comes again is refused,
and the value of an unknown one has to be YAML. -/
def entries {ρ : Type} (known : List String) (apply : ρ → String → List Part → Node → Decode ρ)
    (place : List Part) : List String → ρ → List (Node × Node) → Decode ρ
  | _, acc, [] => return acc
  | seen, acc, (k, v) :: es => do
    let key ← text "field identifier" place k
    if !known.contains key then
      if v.isCut then broken else entries known apply place seen acc es
    else if seen.contains key then refuse place (.duplicateField key)
    else
      let acc ← apply acc key (place ++ [keyPart k]) v
      entries known apply place (key :: seen) acc es

/-- A record from a mapping; where nothing is written there are no entries. -/
def record {ρ : Type} (expected : String) (known : List String)
    (apply : ρ → String → List Part → Node → Decode ρ) (start : ρ) (place : List Part) (n : Node) :
    Decode ρ := do
  match ← resolve n with
  | .mapping _ es => entries known apply place [] start es
  | .sequence _ _ => refuse place (.invalidType .sequence expected)
  | .scalar s => if s.isVoid then return start else refuse place (s.mismatch expected)
  | _ => broken

end Decode

/-- The value of the only document of a text; `absent` is the value of a text with no document. -/
def decodeText {α : Type} (decode : List Part → Node → Decode α) (absent : α) (text : String) :
    Except Error α := do
  let d := Document.ofText text
  let x ←
    match d.root with
    | none => .ok absent
    | some n => ((decode [] n).run d).run' 0
  match d.failure with
  | some e => .error e
  | none => if d.hasMore then .error .manyDocuments else .ok x

end Pipeline.Yaml
