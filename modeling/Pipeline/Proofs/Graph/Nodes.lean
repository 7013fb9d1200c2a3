import Pipeline.Proofs.Graph.Walk

/-!
# The nodes of a compiled graph

A compiled graph has one node for each step that its root leads to, and no others
(`enumerates_of_compile`; specification, section 12). A node keeps its name and its position while
the compiler runs (`name_nodes_round`), so the root has the first one; no two nodes have one name,
since a name has at most one position; and the node of a step cannot be missing, since the edges of
the nodes lead to all that their records refer to (`Depicts.mem_of_referenced`).
-/

namespace Pipeline

namespace Compile.State

/-- Entering a record takes no node away. -/
lemma name_nodes_enter {s t : State} {record : StepRecord} {position : Nat} {name : String}
    (here : s.nodes[position]?.map StepNode.name = some name) (h : s.enter record = .ok t) :
    t.nodes[position]?.map StepNode.name = some name := by
  rcases enter_cases h with ⟨_, _, rfl⟩ | ⟨_, _, _, _, rfl⟩ | ⟨_, _, _, rfl⟩
  · exact here
  · exact here
  · obtain ⟨n, there, named⟩ := Option.map_eq_some_iff.1 here
    rw [getElem?_nodes_reserve.2 (.inl there), Option.map_some, named]

/-- A round leaves every node at its position, with its name. -/
lemma name_nodes_round {r : Registry} {s t : State} {frame : Frame} {rest : List Frame}
    {position : Nat} {name : String} (here : s.nodes[position]?.map StepNode.name = some name)
    (h : s.round r frame rest = .ok t) : t.nodes[position]?.map StepNode.name = some name := by
  rcases round_cases h with ⟨_, _, _, rfl⟩ | ⟨_, _, _, _, rfl⟩ | ⟨_, _, _, rfl⟩ | ⟨_, _, _, h⟩
  · exact here
  · rw [name_nodes_finish]
    exact here
  · exact here
  · exact name_nodes_enter here h

/-- A name has one position, so no two nodes have the same name. -/
lemma Invariant.nodup_names {r : Registry} {root : String} {s : State}
    (inv : Invariant r root s) : (s.nodes.map StepNode.name).Nodup := by
  rw [List.nodup_iff_getElem?_ne_getElem?]
  intro i j before inside same
  rw [List.getElem?_map, List.getElem?_map] at same
  rw [List.length_map] at inside
  have here : s.nodes[j]? = some s.nodes[j] := List.getElem?_eq_getElem inside
  rw [here, Option.map_some] at same
  obtain ⟨n, there, named⟩ := Option.map_eq_some_iff.1 same
  have first := (inv.bound _ i).2 ⟨n, there, named⟩
  have second := (inv.bound _ j).2 ⟨_, here, rfl⟩
  rw [first] at second
  cases second
  exact absurd before (Nat.lt_irrefl _)

end Compile.State

namespace Graph

open Compile

/-- The targets of a graph: where it starts, and where its edges lead. -/
def targets (g : Graph) : List Target :=
  g.root :: g.nodes.flatMap fun n => [n.onSuccess, n.onFailure]

/-- A target of a graph is its root or at the end of an edge. -/
lemma mem_targets {g : Graph} {target : Target} :
    target ∈ g.targets ↔ target = g.root ∨ ∃ n ∈ g.nodes, ∃ success, target = n.next success := by
  simp [targets, StepNode.next, or_comm]

/-- The nodes of a graph are the steps of a registry that `root` leads to, each of them once. -/
structure Enumerates (g : Graph) (r : Registry) (root : String) : Prop where
  /-- The nodes are numbered in the order of their positions, from one on. -/
  numbered : ∀ position n, g.node? position = some n → n.sequence = position + 1
  /-- No two nodes have the same name. -/
  distinct : (g.nodes.map StepNode.name).Nodup
  /-- There is a node for each name that the root leads to and whose definition is not an end. -/
  named : ∀ name, name ∈ g.nodes.map StepNode.name ↔
    r.Referenced root name ∧ ∃ record, r.find? name = some record ∧ record.kind.isFinish = false
  /-- A node does what the definition of its name does. -/
  kinds : ∀ n ∈ g.nodes, (r.find? n.name).map StepRecord.kind = some n.kind
  /-- A name is looked up as its node, and there is nothing to be found under other names. -/
  found : ∀ name n, g.find? name = some n ↔ n ∈ g.nodes ∧ n.name = name
  /-- The graph starts at its first node, unless its root is an end and it has no nodes. -/
  start : ∃ record, r.find? root = some record ∧
    ((∃ result, record.kind = .finish result ∧
        g.nodes = [] ∧ g.root = .terminal ⟨root, result⟩) ∨
      (record.kind.isFinish = false ∧ g.root = .step 0 ∧
        ∃ n, g.node? 0 = some n ∧ n.name = root ∧ n.sequence = 1))
  /-- Terminals have no number. -/
  unnumbered : ∀ target ∈ g.targets, g.targetSequence target = -1 ↔ ∃ t, target = .terminal t
  /-- The number of any other target tells the position of the only node with its name. -/
  placed : ∀ position, .step position ∈ g.targets →
    g.targetSequence (.step position) = position + 1 ∧
    ∀ other, (∃ n, g.node? other = some n ∧ n.name = g.targetName (.step position)) ↔
      other = position

/-- Where the root is an end, compiling gives its terminal and no nodes. -/
lemma eq_of_compile_finish {root : String} {r : Registry} {g : Graph} {record : StepRecord}
    {result : Bool} (h : Graph.compile root r = .ok g) (found : r.find? root = some record)
    (kind : record.kind = .finish result) : g = ⟨[], .terminal ⟨root, result⟩⟩ := by
  obtain ⟨named, -⟩ := found_of_compile h
  obtain rfl := Registry.name_of_find? found
  have stops : (State.empty.resolve (.terminal ⟨record.name, result⟩)).run r =
      .ok (State.empty.resolve (.terminal ⟨record.name, result⟩)) :=
    State.rounds_of_frames_nil rfl
  rw [compile_of_found named found, State.enter_of_finish kind, Except.bind, stops] at h
  cases h
  rfl

/-- Where the root is not an end, it has the first node. -/
lemma first_of_compile {root : String} {r : Registry} {g : Graph} {record : StepRecord}
    (h : Graph.compile root r = .ok g) (found : r.find? root = some record)
    (notFinish : record.kind.isFinish = false) : (g.node? 0).map StepNode.name = some root := by
  obtain ⟨named, -⟩ := found_of_compile h
  obtain rfl := Registry.name_of_find? found
  have entered : State.empty.enter record = .ok (State.empty.reserve record) := by
    rw [State.enter_of_not_finish notFinish]
    rfl
  rw [compile_of_found named found, entered] at h
  obtain ⟨s, run, rfl⟩ := map_eq_ok h
  exact State.rounds_preserve
    (P := fun s => s.nodes[0]?.map StepNode.name = some record.name)
    (fun here _ next => State.name_nodes_round here next) rfl run

/-- A node is looked up by its name when no two nodes have the same name. -/
lemma find?_eq_some_iff {g : Graph} (distinct : (g.nodes.map StepNode.name).Nodup)
    (name : String) (n : StepNode) : g.find? name = some n ↔ n ∈ g.nodes ∧ n.name = name := by
  constructor
  · intro h
    exact ⟨List.mem_of_find?_eq_some h, by simpa using List.find?_some h⟩
  · rintro ⟨mem, rfl⟩
    cases h : g.find? n.name with
    | none =>
      have absent := List.find?_eq_none.1 h n mem
      simp at absent
    | some m =>
      have same : m.name = n.name := by simpa using List.find?_some h
      rw [List.inj_on_of_nodup_map distinct (List.mem_of_find?_eq_some h) mem same]

/-- Two positions of nodes with the same name are one position. -/
lemma position_unique {g : Graph} (distinct : (g.nodes.map StepNode.name).Nodup) {i j : Nat}
    {m n : StepNode} (hi : g.node? i = some m) (hj : g.node? j = some n)
    (same : m.name = n.name) : i = j := by
  have inside : i < (g.nodes.map StepNode.name).length := by
    simpa using (List.getElem?_eq_some_iff.1 hi).1
  apply (List.getElem?_inj inside distinct).1
  rw [List.getElem?_map, List.getElem?_map, show g.nodes[i]? = some m from hi,
    show g.nodes[j]? = some n from hj, Option.map_some, Option.map_some, same]

namespace Depicts

variable {g : Graph} {r : Registry} {root : String}

/-- A step that the root leads to has a node. -/
lemma mem_of_referenced (d : g.Depicts r root) {name : String} (h : r.Referenced root name)
    {record : StepRecord} (found : r.find? name = some record)
    (notFinish : record.kind.isFinish = false) : ∃ n ∈ g.nodes, n.name = name := by
  induction h generalizing record with
  | root =>
    obtain ⟨start, isStart, stands⟩ := d.root
    rw [Registry.station?_of_find? found notFinish] at isStart
    cases isStart
    obtain ⟨_, n, -, here, named, -⟩ := eq_step stands
    exact ⟨n, List.mem_of_getElem? here, named⟩
  | @step a b _ refers ih =>
    obtain ⟨before, there, mem⟩ := refers
    obtain ⟨onward, success, route⟩ := StepRecord.route_of_mem_references mem
    obtain ⟨m, inside, rfl⟩ := ih there onward
    -- the edge of the node before leads to the node that is looked for
    obtain ⟨next, after, leads⟩ := d.next m inside success
    rw [Registry.stationAfter?_of_find? there, route] at after
    obtain rfl := Option.some.inj ((Registry.station?_of_find? found notFinish).symm.trans after)
    obtain ⟨_, n, -, here, named, -⟩ := eq_step leads
    exact ⟨n, List.mem_of_getElem? here, named⟩

/-- A node has the kind of the definition of its name, which is not an end. -/
lemma find?_of_mem (d : g.Depicts r root) {n : StepNode} (mem : n ∈ g.nodes) :
    ∃ record, r.find? n.name = some record ∧ record.kind = n.kind ∧
      record.kind.isFinish = false := by
  obtain ⟨record, found, station⟩ := Option.map_eq_some_iff.1 (d.kinds n mem)
  obtain ⟨notFinish, -, kind⟩ := StepRecord.isFinish_of_station station
  exact ⟨record, found, kind, notFinish⟩

/-- A position that is a target of the graph is that of a node. -/
lemma node_of_target (d : g.Depicts r root) {position : Nat}
    (h : .step position ∈ g.targets) : ∃ n, g.node? position = some n := by
  rcases mem_targets.1 h with same | ⟨n, mem, success, same⟩
  · rcases d.root_cases with ⟨t, root⟩ | ⟨_, n, root, here⟩
    · cases same.trans root
    · cases same.trans root
      exact ⟨n, here⟩
  · rcases d.next_cases mem success with ⟨t, next⟩ | ⟨_, m, next, here, -⟩
    · cases same.trans next
    · cases same.trans next
      exact ⟨m, here⟩

end Depicts

/-- The nodes of a compiled graph are the steps that its root leads to, each of them once and
numbered by their positions, and its targets are numbered as the nodes are. -/
theorem enumerates_of_compile {root : String} {r : Registry} {g : Graph}
    (h : Graph.compile root r = .ok g) : g.Enumerates r root := by
  have d := depicts_of_compile h
  obtain ⟨s, inv, -, nodes, -⟩ := machine_of_compile h
  have distinct : (g.nodes.map StepNode.name).Nodup := nodes ▸ inv.nodup_names
  have numbered : ∀ position n, g.node? position = some n → n.sequence = position + 1 := by
    intro position n here
    rw [node?, ← nodes] at here
    exact inv.numbered position n here
  constructor
  case numbered => exact numbered
  case distinct => exact distinct
  case named =>
    intro name
    rw [List.mem_map]
    constructor
    · rintro ⟨n, mem, rfl⟩
      obtain ⟨record, found, -, notFinish⟩ := d.find?_of_mem mem
      rw [← nodes] at mem
      exact ⟨inv.referenced n mem, record, found, notFinish⟩
    · rintro ⟨referenced, record, found, notFinish⟩
      exact d.mem_of_referenced referenced found notFinish
  case kinds =>
    intro n mem
    obtain ⟨record, found, kind, -⟩ := d.find?_of_mem mem
    rw [found, Option.map_some, kind]
  case found => exact find?_eq_some_iff distinct
  case start =>
    obtain ⟨-, record, found⟩ := found_of_compile h
    refine ⟨record, found, ?_⟩
    cases finish : record.kind.isFinish with
    | true =>
      obtain ⟨result, kind⟩ := StepKind.eq_finish_of_isFinish finish
      obtain rfl := eq_of_compile_finish h found kind
      exact .inl ⟨result, kind, rfl, rfl⟩
    | false =>
      obtain ⟨n, here, named⟩ := Option.map_eq_some_iff.1 (first_of_compile h found finish)
      obtain ⟨station, isStart, stands⟩ := d.root
      rw [Registry.station?_of_find? found finish] at isStart
      cases isStart
      obtain ⟨position, m, root, there, same, -⟩ := eq_step stands
      obtain rfl := position_unique distinct there here (same.trans named.symm)
      exact .inr ⟨rfl, root, n, here, named, numbered 0 n here⟩
  case unnumbered =>
    intro target mem
    cases target with
    | terminal t => simp [targetSequence]
    | step position =>
      obtain ⟨n, here⟩ := d.node_of_target mem
      simp [targetSequence, here]
  case placed =>
    intro position mem
    obtain ⟨n, here⟩ := d.node_of_target mem
    refine ⟨by simp [targetSequence, here, numbered position n here], fun other => ?_⟩
    simp only [targetName, here, Option.elim_some]
    constructor
    · rintro ⟨m, there, same⟩
      exact position_unique distinct there here same
    · rintro rfl
      exact ⟨n, here, rfl⟩

/-- The nodes of the diamond are its four steps. -/
theorem enumerates_of_compile_diamond :
    Graph.compile "a" diamondRegistry = .ok diamond ∧ diamond.Enumerates diamondRegistry "a" :=
  ⟨compile_diamond, enumerates_of_compile compile_diamond⟩

end Graph

end Pipeline
