import Pipeline.Proofs.Graph.Walk

/-!
# The loop of the compiler

What can be said of the machine whenever it comes to its loop, in terms of what it holds: its
frames, the names on the stack and those that are bound, its nodes, and the register (`Sound`). It
follows from the invariant that every round keeps (`sound_of_rounds`).
-/

namespace Pipeline.Compile

/-- Where a route leads after a success or a failure, as far as the machine has got: to the default
end, to the terminal of a definition that is an end, or to the node of any other definition, which
is not on the stack. -/
inductive Leads (r : Registry) (s : State) (success : Bool) : Route → Target → Prop where
  | done :
    Leads r s success .done (.terminal (.byDefault success))
  | finish {name record result} :
    r.find? name = some record →
    record.kind = .finish result →
    Leads r s success (.named name) (.terminal ⟨name, result⟩)
  | step {name record position n} :
    r.find? name = some record →
    record.kind.isFinish = false →
    s.nodes[position]? = some n →
    n.name = name →
    name ∉ s.onStack →
    Leads r s success (.named name) (.step position)

/-- A state of the machine for a registry and a root is sound. -/
structure Sound (r : Registry) (root : String) (s : State) : Prop where
  /-- No two frames have the same name. -/
  distinct : (s.frames.map fun f => f.record.name).Nodup
  /-- The names on the stack are those of the frames. -/
  onStack : s.onStack = s.frames.map fun f => f.record.name
  /-- The bound names are those of the nodes, each with the position of its node. -/
  bound : ∀ name position,
    s.position? name = some position ↔ ∃ n, s.nodes[position]? = some n ∧ n.name = name
  /-- The nodes are numbered by their positions, from one on. -/
  numbered : ∀ position n, s.nodes[position]? = some n → n.sequence = position + 1
  /-- A node has the name and the kind of the first record of its name. -/
  kinds : ∀ n ∈ s.nodes, ∃ record,
    r.find? n.name = some record ∧ n.name = record.name ∧ n.kind = record.kind
  /-- The outermost frame is that of the root. -/
  outermost : ∀ inner f, s.frames = inner ++ [f] → r.find? root = some f.record
  /-- Any other frame has the record that is found for the edge which the frame below it resolves:
  the success edge as long as that frame has stored no target for it, and then the failure edge. -/
  opened : ∀ inner upper lower outer, s.frames = inner ++ upper :: lower :: outer →
    ∃ name, lower.record.route lower.onSuccess.isNone = .named name ∧
      r.find? name = some upper.record
  /-- The position of a frame is that of the node of its name. -/
  placed : ∀ f ∈ s.frames, s.position? f.record.name = some f.position
  /-- A target that a frame has stored is where the success route of its record leads. -/
  stored : ∀ f ∈ s.frames, ∀ target, f.onSuccess = some target →
    Leads r s true (f.record.route true) target
  /-- The edges of a node that is not on the stack go where the routes of its record lead. -/
  edges : ∀ n ∈ s.nodes, n.name ∉ s.onStack → ∀ record, r.find? n.name = some record →
    ∀ success, Leads r s success (record.route success) (n.next success)
  /-- A target in the register is where the route leads that the innermost frame resolves. -/
  pending : ∀ f rest target, s.frames = f :: rest → s.resolved = some target →
    Leads r s f.onSuccess.isNone (f.record.route f.onSuccess.isNone) target
  /-- When no frame is left, a target in the register is that of the root. -/
  answer : ∀ target, s.frames = [] → s.resolved = some target →
    Leads r s true (.named root) target

variable {r : Registry} {root : String}

/-- The outer ones of linked frames are linked. -/
lemma Linked.outer {inner outer : List Frame} (linked : Linked r root (inner ++ outer)) :
    Linked r root outer := by
  induction inner with
  | nil => exact linked
  | cons f inner ih =>
    cases linked with
    | cons _ _ linked => exact ih linked

namespace State

variable {s : State}

/-- The names on the stack are those of the path. -/
lemma Invariant.notMem_onStack (inv : Invariant r root s) {name : String} (off : name ∉ s.path) :
    name ∉ s.onStack := by
  rwa [inv.onStack]

/-- A target for the station of a name is where the route to that name leads. -/
lemma Invariant.leads_named (inv : Invariant r root s) {name : String} {target : Target}
    {station : Station} (stands : r.station? name = some station)
    (settles : s.Settles target station) (success : Bool) :
    Leads r s success (.named name) target := by
  obtain ⟨record, found, rfl⟩ := Option.map_eq_some_iff.1 stands
  obtain rfl := Registry.name_of_find? found
  obtain ⟨leads, off⟩ := settles
  rw [← Graph.station?_eq ⟨s.nodes, target⟩] at leads
  cases finish : record.kind.isFinish with
  | true =>
    obtain ⟨result, kind⟩ := StepKind.eq_finish_of_isFinish finish
    rw [StepRecord.station_eq_terminal kind] at leads
    rw [Graph.eq_terminal leads]
    exact .finish found kind
  | false =>
    rw [StepRecord.station_eq_step finish] at leads off
    obtain ⟨position, n, here, inside, named, -⟩ := Graph.eq_step leads
    rw [here]
    exact .step found finish inside named (inv.notMem_onStack off)

/-- A target that is right for an edge of a definition is where its route leads. -/
lemma Invariant.leads (inv : Invariant r root s) {record : StepRecord} {success : Bool}
    {target : Target} (found : r.find? record.name = some record)
    (answers : Answers r s record.name success target) :
    Leads r s success (record.route success) target := by
  obtain ⟨station, after, settles⟩ := answers
  rw [Registry.stationAfter?_of_find? found] at after
  cases route : record.route success with
  | done =>
    simp only [route] at after
    cases after
    rw [Settles, ← Graph.station?_eq ⟨s.nodes, target⟩] at settles
    rw [Graph.eq_terminal settles.1]
    exact .done
  | named name =>
    simp only [route] at after
    exact inv.leads_named after settles success

/-- The invariant of the machine makes it sound. -/
lemma Invariant.sound (inv : Invariant r root s) : Sound r root s := by
  constructor
  case distinct => exact inv.distinct
  case onStack => exact inv.onStack
  case bound => exact inv.bound
  case numbered => exact inv.numbered
  case kinds =>
    intro n mem
    obtain ⟨record, found, station⟩ := Option.map_eq_some_iff.1 (inv.kinds n mem)
    obtain ⟨-, named, kind⟩ := StepRecord.isFinish_of_station station
    exact ⟨record, found, named.symm, kind.symm⟩
  case outermost =>
    intro inner f frames
    have linked := inv.linked
    rw [frames] at linked
    cases linked.outer with
    | cons _ awaits _ => exact awaits
  case opened =>
    intro inner upper lower outer frames
    have linked := inv.linked
    rw [frames] at linked
    cases linked.outer with
    | cons _ awaits _ => exact ⟨_, StepRecord.route_of_edge awaits⟩
  case placed => exact inv.placed
  case stored =>
    intro f mem target stored
    obtain ⟨found, -⟩ := inv.linked.found mem
    exact inv.leads found (inv.stored f mem target stored)
  case edges =>
    intro n mem off record found success
    rw [inv.onStack] at off
    have named := Registry.name_of_find? found
    rw [← named] at found
    exact inv.leads found (named ▸ inv.edges n mem off success)
  case pending =>
    intro f rest target frames resolved
    obtain ⟨found, -⟩ := inv.linked.found (f := f) (by simp [frames])
    obtain ⟨station, awaited, settles⟩ := inv.pending target resolved
    rw [frames] at awaited
    exact inv.leads found ⟨station, awaited, settles⟩
  case answer =>
    intro target noFrames resolved
    obtain ⟨station, awaited, settles⟩ := inv.pending target resolved
    rw [noFrames] at awaited
    exact inv.leads_named awaited settles true

/-- Whenever the machine comes to its loop, after any number of rounds from the record of the root,
it is sound, for every registry and every root. -/
theorem sound_of_rounds {record : StepRecord} {start : State} {n : Nat}
    (found : r.find? root = some record) (entered : State.empty.enter record = .ok start)
    (h : start.rounds r n = .ok s) : Sound r root s :=
  ((Invariant.empty.enter found entered).rounds h).sound

/-- After twelve rounds in the diamond the steps `a` and `c` are on the stack, `a` has stored the
target of its success edge, and the node that `c` shares with `b` is in the register. -/
theorem sound_of_rounds_diamond :
    let a : StepRecord :=
      ⟨"a", .test (.script "test"), .named "b", .next (.named "c"), some "c"⟩
    let c : StepRecord := ⟨"c", .build "c", .named "d", .onward, some "continue"⟩
    let s : State :=
      { nodes :=
          [⟨1, "a", .test (.script "test"), .terminal (.byDefault true),
              .terminal (.byDefault false)⟩,
            ⟨2, "b", .unknown "Lint", .step 2, .terminal ⟨"red", false⟩⟩,
            ⟨3, "d", .build "d", .terminal (.byDefault true), .terminal (.byDefault false)⟩,
            ⟨4, "c", .build "c", .terminal (.byDefault true), .terminal (.byDefault false)⟩]
        bound := [("c", 3), ("d", 2), ("b", 1), ("a", 0)]
        onStack := ["c", "a"]
        frames := [⟨3, c, none⟩, ⟨0, a, some (.step 1)⟩]
        resolved := some (.step 2) }
    Graph.diamondRegistry.find? "a" = some a ∧
      State.empty.enter a = .ok (State.empty.reserve a) ∧
      (State.empty.reserve a).rounds Graph.diamondRegistry 12 = .ok s ∧
      Sound Graph.diamondRegistry "a" s := by
  intro a c s
  have found : Graph.diamondRegistry.find? "a" = some a := by decide
  have entered : State.empty.enter a = .ok (State.empty.reserve a) := by decide
  have rounds : (State.empty.reserve a).rounds Graph.diamondRegistry 12 = .ok s := by decide
  exact ⟨found, entered, rounds, sound_of_rounds found entered rounds⟩

end State

end Pipeline.Compile
