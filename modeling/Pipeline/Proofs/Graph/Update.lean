import Pipeline.Proofs.Graph.Rounds

/-!
# What a round changes

The path of the machine, its positions and its nodes after one of the things that a round can do.
Storing a target leaves the path as it is, a reservation puts a step on it, and finishing a node
takes the step off again and changes nothing but the edges of that node.
-/

namespace Pipeline.Compile.State

/-- The names of the open frames, the innermost first. -/
def path (s : State) : List String :=
  s.frames.map fun f => f.record.name

/-- Storing a target leaves the path as it is. -/
lemma path_store {s : State} {frame : Frame} {rest : List Frame} (target : Target)
    (frames : s.frames = frame :: rest) : (s.store frame rest target).path = s.path := by
  simp [path, State.store, frames]

/-- Finishing the node of the innermost frame takes its step from the path. -/
lemma path_finish {s : State} {frame : Frame} {rest : List Frame} (onSuccess onFailure : Target)
    (frames : s.frames = frame :: rest) :
    s.path = frame.record.name :: (s.finish frame rest onSuccess onFailure).path := by
  simp [path, State.finish, frames]

/-- A reserved step has the next position, and all others keep theirs. -/
lemma position?_reserve (s : State) (record : StepRecord) (name : String) :
    (s.reserve record).position? name =
      if name = record.name then some s.nodes.length else s.position? name := by
  by_cases same : name = record.name
  · simp [position?, State.reserve, same]
  · have other : (name == record.name) = false := by simpa using same
    simp [position?, State.reserve, List.lookup_cons, other, same]

/-- A node after a reservation is the new one or was there before. -/
lemma getElem?_nodes_reserve {s : State} {record : StepRecord} {position : Nat} {n : StepNode} :
    (s.reserve record).nodes[position]? = some n ↔
      s.nodes[position]? = some n ∨
      position = s.nodes.length ∧
        n = ⟨s.nodes.length + 1, record.name, record.kind, .terminal (.byDefault true),
          .terminal (.byDefault false)⟩ := by
  simp only [State.reserve, List.getElem?_append]
  split
  · rename_i inside
    have : position ≠ s.nodes.length := by omega
    simp [this]
  · rename_i outside
    have none : s.nodes[position]? = none := List.getElem?_eq_none (by omega)
    by_cases new : position = s.nodes.length
    · simp [new, eq_comm]
    · have : [(⟨s.nodes.length + 1, record.name, record.kind, .terminal (.byDefault true),
          .terminal (.byDefault false)⟩ : StepNode)][position - s.nodes.length]? = Option.none :=
        List.getElem?_eq_none (by simp; omega)
      simp [this, none, new]

/-- Finishing a node leaves the names of all nodes as they are. -/
lemma name_nodes_finish {s : State} {frame : Frame} {rest : List Frame}
    {onSuccess onFailure : Target} (position : Nat) :
    (s.finish frame rest onSuccess onFailure).nodes[position]?.map StepNode.name =
      s.nodes[position]?.map StepNode.name := by
  simp only [State.finish, List.getElem?_modify]
  cases s.nodes[position]? with
  | none => rfl
  | some n => by_cases here : frame.position = position <;> simp [here]

/-- A node after one is finished is that one with its edges, or it was there before. -/
lemma nodes_finish {s : State} {frame : Frame} {rest : List Frame} {position : Nat}
    {onSuccess onFailure : Target} {n : StepNode}
    (h : (s.finish frame rest onSuccess onFailure).nodes[position]? = some n) :
    ∃ old, s.nodes[position]? = some old ∧
      (position = frame.position ∧ n = { old with onSuccess := onSuccess, onFailure := onFailure } ∨
        position ≠ frame.position ∧ n = old) := by
  simp only [State.finish, List.getElem?_modify, Option.map_eq_map, Option.map_eq_some_iff] at h
  obtain ⟨old, was, rfl⟩ := h
  refine ⟨old, was, ?_⟩
  split
  · rename_i same
    exact .inl ⟨same.symm, rfl⟩
  · rename_i other
    exact .inr ⟨fun same => other same.symm, rfl⟩

/-- Finishing a node changes only edges. -/
lemma same_of_nodes_finish {s : State} {frame : Frame} {rest : List Frame} {position : Nat}
    {onSuccess onFailure : Target} {n : StepNode}
    (h : (s.finish frame rest onSuccess onFailure).nodes[position]? = some n) :
    ∃ old, s.nodes[position]? = some old ∧ n.sequence = old.sequence ∧ n.name = old.name ∧
      n.kind = old.kind := by
  obtain ⟨old, was, ⟨-, rfl⟩ | ⟨-, rfl⟩⟩ := nodes_finish h <;>
    exact ⟨_, was, rfl, rfl, rfl⟩

/-- A node after one is finished has the name and the kind of one before. -/
lemma exists_of_mem_nodes_finish {s : State} {frame : Frame} {rest : List Frame}
    {onSuccess onFailure : Target} {n : StepNode}
    (mem : n ∈ (s.finish frame rest onSuccess onFailure).nodes) :
    ∃ old ∈ s.nodes, n.name = old.name ∧ n.kind = old.kind := by
  obtain ⟨position, h⟩ := List.mem_iff_getElem?.1 mem
  obtain ⟨old, was, -, name, kind⟩ := same_of_nodes_finish h
  exact ⟨old, List.mem_of_getElem? was, name, kind⟩

end Pipeline.Compile.State
