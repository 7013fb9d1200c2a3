import Mathlib.Data.List.Nodup
import Mathlib.Data.List.Perm.Subperm
import Pipeline.Proofs.Graph.Result

/-!
# Walks through a compiled graph

The nodes of a compiled graph depict the records: from each node its edges lead to the stations that
the routes of its record lead to (`depicts_of_compile`). So a walk along the edges sees what one
sees when the records are followed by name (`map_station?_walk`), and as names are grounded it
visits no node twice and comes to a terminal (`walk_ends`; specification, section 8).
-/

namespace Pipeline.Graph

/-- What a graph shows is what the records of a registry mean. -/
structure Depicts (g : Graph) (r : Registry) (root : String) : Prop where
  root : ∃ station, r.station? root = some station ∧ g.station? g.root = some station
  kinds : ∀ n ∈ g.nodes, r.station? n.name = some (.step n.name n.kind)
  next : ∀ n ∈ g.nodes, ∀ success, ∃ station,
    r.stationAfter? n.name success = some station ∧ g.station? (n.next success) = some station
  grounded : ∀ n ∈ g.nodes, r.Grounded n.name

/-- A compiled graph depicts the records that it was compiled from. -/
lemma depicts_of_compile {root : String} {r : Registry} {g : Graph}
    (h : Graph.compile root r = .ok g) : g.Depicts r root := by
  obtain ⟨s, inv, noFrames, nodes, resolved⟩ := machine_of_compile h
  have off : ∀ name, name ∉ s.path := by
    intro name
    simp [Compile.State.path_of_frames_nil noFrames]
  constructor
  case root =>
    obtain ⟨station, awaited, stands, -⟩ := inv.pending _ resolved
    rw [noFrames] at awaited
    rw [nodes] at stands
    exact ⟨station, awaited, (station?_eq ..).trans stands⟩
  case kinds =>
    rw [← nodes]
    exact inv.kinds
  case next =>
    intro n mem success
    rw [← nodes] at mem
    obtain ⟨station, after, stands, -⟩ := inv.edges n mem (off _) success
    rw [nodes] at stands
    exact ⟨station, after, (station?_eq ..).trans stands⟩
  case grounded =>
    intro n mem
    rw [← nodes] at mem
    exact inv.grounded n mem (off _)

/-- A target that stands for a terminal is that terminal. -/
lemma eq_terminal {g : Graph} {target : Target} {t : Terminal}
    (stands : g.station? target = some (.terminal t)) : target = .terminal t := by
  cases target with
  | terminal t' =>
    cases stands
    rfl
  | step position =>
    obtain ⟨n, -, same⟩ := Option.map_eq_some_iff.1 stands
    cases same

/-- A target that stands for a step is the position of its node. -/
lemma eq_step {g : Graph} {target : Target} {name : String} {kind : StepKind}
    (stands : g.station? target = some (.step name kind)) :
    ∃ position n, target = .step position ∧ g.node? position = some n ∧ n.name = name ∧
      n.kind = kind := by
  cases target with
  | terminal t => cases stands
  | step position =>
    obtain ⟨n, here, same⟩ := Option.map_eq_some_iff.1 stands
    cases same
    exact ⟨position, n, rfl, here, rfl, rfl⟩

/-- A walk stays at a terminal. -/
@[simp] lemma walk_terminal (g : Graph) (t : Terminal) (choices : List Bool) :
    g.walk (.terminal t) choices = [.terminal t] := by
  cases choices <;> rfl

/-- A walk from a node goes on along the edge of the first choice. -/
lemma walk_step {g : Graph} {position : Nat} {n : StepNode} (here : g.node? position = some n)
    (success : Bool) (choices : List Bool) :
    g.walk (.step position) (success :: choices) =
      .step position :: g.walk (n.next success) choices := by
  simp [walk, here]

namespace Depicts

variable {g : Graph} {r : Registry} {root : String}

/-- A graph starts at a terminal or at a node. -/
lemma root_cases (d : g.Depicts r root) :
    (∃ t, g.root = .terminal t) ∨
      ∃ position n, g.root = .step position ∧ g.node? position = some n := by
  obtain ⟨station, -, stands⟩ := d.root
  cases station with
  | terminal t => exact .inl ⟨t, eq_terminal stands⟩
  | step name kind =>
    obtain ⟨position, n, target, here, -⟩ := eq_step stands
    exact .inr ⟨position, n, target, here⟩

/-- A graph starts at what has the name of its root. -/
lemma targetName_root (d : g.Depicts r root) : g.targetName g.root = root := by
  obtain ⟨station, isStart, stands⟩ := d.root
  obtain ⟨record, found, rfl⟩ := Option.map_eq_some_iff.1 isStart
  obtain rfl := Registry.name_of_find? found
  cases finish : record.kind.isFinish with
  | true =>
    obtain ⟨result, kind⟩ := StepKind.eq_finish_of_isFinish finish
    rw [StepRecord.station_eq_terminal kind] at stands
    rw [eq_terminal stands]
    rfl
  | false =>
    rw [StepRecord.station_eq_step finish] at stands
    obtain ⟨position, n, start, here, named, -⟩ := eq_step stands
    simp [start, targetName, here, named]

/-- An edge leads from a node to a terminal, or to the node of a name that it refers to. -/
lemma next_cases (d : g.Depicts r root) {n : StepNode} (mem : n ∈ g.nodes) (success : Bool) :
    (∃ t, n.next success = .terminal t) ∨
      ∃ position m, n.next success = .step position ∧ g.node? position = some m ∧
        r.Refers n.name m.name := by
  obtain ⟨station, after, leads⟩ := d.next n mem success
  cases station with
  | terminal t => exact .inl ⟨t, eq_terminal leads⟩
  | step name kind =>
    obtain ⟨position, m, target, here, rfl, rfl⟩ := eq_step leads
    exact .inr ⟨position, m, target, here, Registry.refers_of_stationAfter? (d.kinds n mem) after⟩

/-- Walking along the edges one sees the same stations as when following the records by name. -/
lemma walk (d : g.Depicts r root) {target : Target} {station : Station}
    (stands : g.station? target = some station) (choices : List Bool) :
    (g.walk target choices).map g.station? = (r.walk station choices).map some := by
  induction choices generalizing target station with
  | nil => simp [Graph.walk, Registry.walk, stands]
  | cons success choices ih =>
    cases station with
    | terminal t =>
      obtain rfl := eq_terminal stands
      simp [Registry.walk, stands]
    | step name kind =>
      obtain ⟨position, n, rfl, here, rfl, rfl⟩ := eq_step stands
      obtain ⟨station, after, leads⟩ := d.next n (List.mem_of_getElem? here) success
      rw [walk_step here, List.map_cons, ih leads, stands]
      simp [Registry.walk, after]

/-- From a grounded name, every walk visits nodes that the name leads to, none of them twice, and
comes to a terminal. -/
lemma walk_of_grounded (d : g.Depicts r root) {name : String} (grounded : r.Grounded name)
    {position : Nat} {n : StepNode} (here : g.node? position = some n) (named : n.name = name)
    (choices : Nat → Bool) :
    ∃ (positions : List Nat) (t : Terminal), positions.Nodup ∧
      (∀ p ∈ positions, ∃ m, g.node? p = some m ∧ r.Referenced name m.name) ∧
      ∀ k, g.walk (.step position) ((List.range k).map choices) =
        (positions.map Target.step ++ [Target.terminal t]).take (k + 1) := by
  -- the choices never end, so the induction is on what the name leads to
  induction grounded using Registry.Grounded.descend generalizing position n choices with
  | step name _ ih =>
    subst named
    have walk : ∀ k, g.walk (.step position) ((List.range (k + 1)).map choices) =
        .step position ::
          g.walk (n.next (choices 0)) ((List.range k).map fun i => choices (i + 1)) := by
      intro k
      rw [List.range_succ_eq_map, List.map_cons, walk_step here, List.map_map]
      rfl
    rcases d.next_cases (List.mem_of_getElem? here) (choices 0) with
      ⟨t, next⟩ | ⟨position', n', next, here', refers⟩
    · refine ⟨[position], t, List.nodup_singleton _, ?_, ?_⟩
      · intro p mem
        obtain rfl := List.mem_singleton.1 mem
        exact ⟨n, here, .root⟩
      · intro k
        cases k with
        | zero => rfl
        | succ k => simp [walk, next]
    · obtain ⟨positions, t, nodup, visits, rest⟩ :=
        ih n'.name refers here' rfl fun i => choices (i + 1)
      refine ⟨position :: positions, t, List.nodup_cons.2 ⟨?_, nodup⟩, ?_, ?_⟩
      · intro again
        obtain ⟨m, here'', back⟩ := visits position again
        obtain rfl := Option.some.inj (here.symm.trans here'')
        exact (d.grounded n' (List.mem_of_getElem? here')).not_leadsTo (back.leadsTo refers)
      · intro p mem
        rcases List.mem_cons.1 mem with rfl | mem
        · exact ⟨n, here, .root⟩
        · obtain ⟨m, inside, leads⟩ := visits p mem
          exact ⟨m, inside, (Registry.Referenced.step .root refers).trans leads⟩
      · intro k
        cases k with
        | zero => rfl
        | succ k => rw [walk, next, rest]; rfl

end Depicts

/-- Whatever the choices are, a walk from a node of a compiled graph visits nodes of the graph, none
of them twice, and after at most as many edges as there are nodes it stops at a terminal. -/
theorem walk_ends {root : String} {r : Registry} {g : Graph} (h : Graph.compile root r = .ok g)
    {position : Nat} (inside : position < g.size) (choices : Nat → Bool) :
    ∃ (positions : List Nat) (t : Terminal),
      positions.Nodup ∧ (∀ p ∈ positions, p < g.size) ∧ positions.length ≤ g.size ∧
      ∀ k, g.walk (.step position) ((List.range k).map choices) =
        (positions.map Target.step ++ [Target.terminal t]).take (k + 1) := by
  have d := depicts_of_compile h
  obtain ⟨n, here⟩ : ∃ n, g.node? position = some n := ⟨_, List.getElem?_eq_getElem inside⟩
  have grounded := d.grounded n (List.mem_of_getElem? here)
  obtain ⟨positions, t, nodup, visits, walk⟩ := d.walk_of_grounded grounded here rfl choices
  have bounded : ∀ p ∈ positions, p < g.size := by
    intro p mem
    obtain ⟨m, there, -⟩ := visits p mem
    exact (List.getElem?_eq_some_iff.1 there).1
  refine ⟨positions, t, nodup, bounded, ?_, walk⟩
  have sub : positions ⊆ List.range g.size := fun p mem => List.mem_range.2 (bounded p mem)
  simpa using (List.subperm_of_subset nodup sub).length_le

/-- In the diamond, the walk that fails and succeeds by turns ends. -/
theorem walk_ends_diamond :
    Graph.compile "a" diamondRegistry = .ok diamond ∧ 0 < diamond.size ∧
    ∃ (positions : List Nat) (t : Terminal),
      positions.Nodup ∧ (∀ p ∈ positions, p < diamond.size) ∧ positions.length ≤ diamond.size ∧
      ∀ k, diamond.walk (.step 0) ((List.range k).map fun i => i % 2 == 1) =
        (positions.map Target.step ++ [Target.terminal t]).take (k + 1) :=
  ⟨compile_diamond, by decide, walk_ends compile_diamond (by decide) _⟩

end Pipeline.Graph
