import Pipeline.Graph.Edge

/-!
# Compiling a registry into a graph

The steps that the root leads to are bound in the order of a depth-first visit, success edges first,
and a step that several edges lead to is bound once (specification, sections 4.1, 9 and 12). The
visit is a machine with a stack of frames: a frame is a node whose edges are still being resolved,
and the target of an edge is handed to the top frame in a register. Each round either looks up the
next edge of the top frame, or stores the target of its success edge, or finishes it.

Every round lowers `State.potential`, so as many rounds as that are enough to come to the end.
-/

namespace Pipeline.Compile

/-- A node whose edges are still being resolved. -/
structure Frame where
  position : Nat
  record : StepRecord
  /-- The target of the success edge, once it is known; the failure edge is next. -/
  onSuccess : Option Target
  deriving DecidableEq, Repr

/-- The machine between two rounds. -/
structure State where
  nodes : List StepNode
  /-- The positions of the names that have a node. -/
  bound : List (String × Nat)
  /-- The names with a frame. -/
  onStack : List String
  /-- The open frames, the innermost first. -/
  frames : List Frame
  /-- The target of the edge that the top frame is resolving. -/
  resolved : Option Target
  deriving DecidableEq, Repr

namespace State

/-- Nothing is bound yet. -/
def empty : State :=
  ⟨[], [], [], [], none⟩

/-- The position of a name that has a node. -/
def position? (s : State) (name : String) : Option Nat :=
  s.bound.lookup name

/-- The names of the open frames from `name` inwards, and `name` again. -/
def cyclePath (s : State) (name : String) : List String :=
  ((s.frames.reverse.map fun f => f.record.name).dropWhile fun n => n != name) ++ [name]

/-- A node is reserved for the record, so that sequence numbers follow the visit (section 4.1,
recursion order). -/
def reserve (s : State) (record : StepRecord) : State :=
  { nodes := s.nodes ++
      [⟨s.nodes.length + 1, record.name, record.kind, .terminal (.byDefault true),
        .terminal (.byDefault false)⟩]
    bound := (record.name, s.nodes.length) :: s.bound
    onStack := record.name :: s.onStack
    frames := ⟨s.nodes.length, record, none⟩ :: s.frames
    resolved := none }

/-- The record is resolved to a target at once, or gets a node and a frame; one that has a frame
already closes a cycle (section 9, the visited-name memo table). -/
def enter (s : State) (record : StepRecord) : Except ConfigError State :=
  match record.kind with
  | .finish result => .ok { s with resolved := some (.terminal ⟨record.name, result⟩) }
  | _ =>
    if s.onStack.contains record.name then .error (.cycle (s.cyclePath record.name))
    else
      match s.position? record.name with
      | some position => .ok { s with resolved := some (.step position) }
      | none => .ok (s.reserve record)

end State

/-- The rounds that a frame still needs after the target it waits for is there. -/
def Frame.weight (f : Frame) : Nat :=
  if f.onSuccess.isNone then 3 else 1

/-- The rounds that frames still need, one after the other. -/
def Frame.weights : List Frame → Nat
  | [] => 0
  | f :: rest => f.weight + weights rest

/-- The edge that a frame resolves next. -/
def Frame.edge (r : Registry) (f : Frame) : Except ConfigError Edge :=
  if f.onSuccess.isNone then f.record.successEdge r else f.record.failureEdge r

namespace State

/-- The edge's target goes to the register, or a step that has no node yet is entered. -/
def follow (s : State) : Edge → Except ConfigError State
  | .terminal t => .ok { s with resolved := some (.terminal t) }
  | .record next => s.enter next

/-- The node of the frame gets its edges, and its position goes to the register. -/
def finish (s : State) (frame : Frame) (rest : List Frame) (onSuccess onFailure : Target) :
    State :=
  { s with
    nodes := s.nodes.modify frame.position fun n =>
      { n with onSuccess := onSuccess, onFailure := onFailure }
    onStack := s.onStack.erase frame.record.name
    frames := rest
    resolved := some (.step frame.position) }

/-- One round for the top frame. -/
def round (r : Registry) (s : State) (frame : Frame) (rest : List Frame) :
    Except ConfigError State :=
  match s.resolved, frame.onSuccess with
  | some target, none =>
    .ok { s with frames := { frame with onSuccess := some target } :: rest, resolved := none }
  | some onFailure, some onSuccess => .ok (s.finish frame rest onSuccess onFailure)
  | none, _ => do
    let edge ← frame.edge r
    s.follow edge

/-- At most `n` rounds, fewer when no frame is left. -/
def rounds (r : Registry) : Nat → State → Except ConfigError State
  | 0, s => .ok s
  | n + 1, s =>
    match s.frames with
    | [] => .ok s
    | frame :: rest => do
      let next ← s.round r frame rest
      next.rounds r n

/-- The records whose names have no node yet. -/
def unbound (r : Registry) (s : State) : List StepRecord :=
  r.records.filter fun record => (s.position? record.name).isNone

/-- A bound on the rounds to come: four for each step without a node, and what the frames need. -/
def potential (r : Registry) (s : State) : Nat :=
  4 * (s.unbound r).length + Frame.weights s.frames +
    (if s.resolved.isNone && !s.frames.isEmpty then 1 else 0)

/-- The machine runs until no frame is left. -/
def run (r : Registry) (s : State) : Except ConfigError State :=
  s.rounds r (s.potential r)

end State

end Pipeline.Compile

namespace Pipeline

/-- The graph of the step named `root` and of everything it leads to, or the first thing that is
wrong with it (section 4.1, contract; section 12, error ordering). -/
def Graph.compile (root : String) (r : Registry) : Except ConfigError Graph :=
  if root = "" then .error .missingRoot
  else
    match r.find? root with
    | none => .error (.rootNotFound root)
    | some record => do
      let start ← Compile.State.empty.enter record
      let final ← start.run r
      .ok ⟨final.nodes, final.resolved.getD (.step 0)⟩

/-- The graph of a configuration. -/
def Config.toGraph (c : Config) : Except ConfigError Graph := do
  Graph.compile c.root (← c.registry)

/-- What compiling a configuration reports: the warnings of its registry, if it has one. -/
def Config.compileLog (c : Config) : List LogEntry :=
  match c.registry with
  | .ok r => r.warnings
  | .error _ => []

end Pipeline
