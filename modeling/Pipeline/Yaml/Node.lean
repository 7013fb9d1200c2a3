import Pipeline.Yaml.Error
import Pipeline.Yaml.Token

/-!
# YAML documents

A document is a tree of nodes. An alias names the slot of an anchored node. Where a text stops being
YAML the tree has a broken node, and everything before it in the text is there; so a reader that
goes through the tree in order meets a mismatch before it meets the end of what could be read.
-/

namespace Pipeline.Yaml

/-- A text with the way it is written and its tag. -/
structure Scalar where
  text : String
  style : ScalarStyle
  tag : Option Tag
  deriving DecidableEq, Repr

/-- A node of a document. -/
inductive Node where
  | scalar (s : Scalar)
  | sequence (tag : Option Tag) (items : List Node)
  | mapping (tag : Option Tag) (entries : List (Node × Node))
  | alias (slot : Nat)
  /-- The place where the text stops being YAML. -/
  | broken
  deriving Repr, Inhabited

/-- A plain scalar with nothing in it. -/
def Node.empty (tag : Option Tag) : Node :=
  .scalar ⟨"", .plain, tag⟩

/-- An anchored node: its slot, and how many anchored nodes began before it. -/
structure Anchored where
  slot : Nat
  order : Nat
  node : Node
  deriving Repr

/-- A document. -/
structure Document where
  /-- The top of the tree, if there is anything in the text. -/
  root : Option Node
  anchored : List Anchored
  /-- What ended the text before the document did. -/
  failure : Option Error
  /-- Whether the text goes on after the document. -/
  hasMore : Bool
  deriving Repr

mutual

/-- Whether the text stops being YAML inside a node. -/
def Node.isCut : Node → Bool
  | .scalar _ => false
  | .sequence _ items => anyCut items
  | .mapping _ entries => anyEntryCut entries
  | .alias _ => false
  | .broken => true

/-- Whether the text stops being YAML inside one of the nodes. -/
def anyCut : List Node → Bool
  | [] => false
  | n :: ns => n.isCut || anyCut ns

/-- Whether the text stops being YAML inside a key or a value. -/
def anyEntryCut : List (Node × Node) → Bool
  | [] => false
  | (k, v) :: es => k.isCut || v.isCut || anyEntryCut es

end

mutual

/-- The weight of a node: one for a scalar or an alias, two for the ends of a collection. -/
def Node.weight : Node → Nat
  | .scalar _ => 1
  | .sequence _ items => 2 + weightOf items
  | .mapping _ entries => 2 + weightOfEntries entries
  | .alias _ => 1
  | .broken => 0

/-- The weight of some nodes. -/
def weightOf : List Node → Nat
  | [] => 0
  | n :: ns => n.weight + weightOf ns

/-- The weight of some entries. -/
def weightOfEntries : List (Node × Node) → Nat
  | [] => 0
  | (k, v) :: es => k.weight + v.weight + weightOfEntries es

end

namespace Document

/-- The weight of all nodes. -/
def weight (d : Document) : Nat :=
  d.root.elim 1 Node.weight

/-- The last node to begin that has a slot. -/
def anchoredAt? (d : Document) (slot : Nat) : Option Node :=
  let found := d.anchored.filter fun a => a.slot == slot
  (found.foldl (fun best a =>
    match best with
    | none => some a
    | some b => if b.order ≤ a.order then some a else some b) (none : Option Anchored)).map
    Anchored.node

end Document

end Pipeline.Yaml
