import Pipeline.Step

/-!
# Step graphs

A compiled pipeline (specification, section 12): numbered nodes, each with an edge for success and
one for failure. An edge leads to a node, given by its position, or to a terminal that ends the
pipeline with a result.
-/

namespace Pipeline

/-- The end of a pipeline. -/
structure Terminal where
  name : String
  result : Bool
  deriving DecidableEq, Repr

/-- The end of a pipeline that no step names, with the result of the edge that leads to it (section
12, synthesized terminals). -/
def Terminal.byDefault (result : Bool) : Terminal :=
  ⟨"Default End", result⟩

/-- Where an edge leads. -/
inductive Target where
  | step (position : Nat)
  | terminal (t : Terminal)
  deriving DecidableEq, Repr

/-- A step of a compiled pipeline. -/
structure StepNode where
  /-- The place in the order of visits, from one on. -/
  sequence : Nat
  name : String
  kind : StepKind
  onSuccess : Target
  onFailure : Target
  deriving DecidableEq, Repr

/-- The edge to follow after a success or a failure. -/
def StepNode.next (n : StepNode) (success : Bool) : Target :=
  if success then n.onSuccess else n.onFailure

/-- A compiled pipeline. -/
structure Graph where
  nodes : List StepNode
  root : Target
  deriving DecidableEq, Repr

namespace Graph

/-- The node at a position. -/
def node? (g : Graph) (position : Nat) : Option StepNode :=
  g.nodes[position]?

/-- The node of a step. -/
def find? (g : Graph) (name : String) : Option StepNode :=
  g.nodes.find? fun n => n.name == name

/-- The number of steps. -/
def size (g : Graph) : Nat :=
  g.nodes.length

/-- Whether there are no steps, so that the root is a terminal. -/
def isEmpty (g : Graph) : Bool :=
  g.nodes.isEmpty

/-- The name of what a target leads to. -/
def targetName (g : Graph) : Target → String
  | .step position => (g.node? position).elim "" StepNode.name
  | .terminal t => t.name

/-- The sequence number of what a target leads to; a terminal has none and counts as -1. -/
def targetSequence (g : Graph) : Target → Int
  | .step position => (g.node? position).elim (-1) fun n => n.sequence
  | .terminal _ => -1

/-- The targets seen from `start` on when the choices are followed until they or the steps end. -/
def walk (g : Graph) (start : Target) : List Bool → List Target
  | [] => [start]
  | success :: choices =>
    match start with
    | .terminal _ => [start]
    | .step position =>
      match g.node? position with
      | none => [start]
      | some n => start :: walk g (n.next success) choices

end Graph

end Pipeline
