import Pipeline.Proofs.Graph.Frames
import Pipeline.Proofs.Graph.Update

/-!
# The invariant of the compiler

What is true of the machine between two rounds. A step has a frame exactly while its name is on the
path; a node whose name is off the path is settled: both its edges lead where the routes of its
record lead, to terminals or to settled nodes, and its name is grounded.

Each round keeps the invariant (`Invariant.round`), by one lemma for each thing a round can do: fill
the register, store the target of a success edge, reserve a node, or finish one.
-/

namespace Pipeline

/-- A station that is none of the steps on a path. -/
def Station.Off (path : List String) : Station → Prop
  | .terminal _ => True
  | .step name _ => name ∉ path

/-- A station off a path is off every shorter one. -/
lemma Station.Off.tail {name : String} {path : List String} {station : Station}
    (h : station.Off (name :: path)) : station.Off path := by
  cases station with
  | terminal t => trivial
  | step other kind => exact fun mem => h (List.mem_cons_of_mem _ mem)

/-- A record whose name is off a path stands for a station off it. -/
lemma StepRecord.station_off {record : StepRecord} {path : List String}
    (h : record.name ∉ path) : record.station.Off path := by
  unfold station
  split
  · trivial
  · exact h

/-- A name is grounded when it stands for a terminal or for a grounded step. -/
lemma Registry.grounded_of_station? {r : Registry} {name : String} {station : Station}
    (h : r.station? name = some station)
    (grounded : ∀ next kind, station = .step next kind → r.Grounded next) : r.Grounded name := by
  obtain ⟨record, found, rfl⟩ := Option.map_eq_some_iff.1 h
  cases finish : record.kind.isFinish with
  | true => exact .of_finish found finish
  | false =>
    obtain rfl := name_of_find? found
    exact grounded record.name record.kind (StepRecord.station_eq_step finish)

/-- A definition is grounded when the stations after it are terminals or grounded steps. -/
lemma Registry.grounded_of_stationAfter? {r : Registry} {name : String} {record : StepRecord}
    (found : r.find? name = some record)
    (h : ∀ success, ∃ station, r.stationAfter? name success = some station ∧
      ∀ next kind, station = .step next kind → r.Grounded next) : r.Grounded name := by
  refine .intro found fun target mem => ?_
  obtain ⟨-, success, route⟩ := StepRecord.route_of_mem_references mem
  obtain ⟨station, after, grounded⟩ := h success
  rw [stationAfter?_of_find? found, route] at after
  exact grounded_of_station? after grounded

namespace Compile

namespace State

/-- A target stands for a station that is settled: for a terminal, or a node off the path. -/
def Settles (s : State) (target : Target) (station : Station) : Prop :=
  target.station? s.nodes = some station ∧ station.Off s.path

/-- A target is right for an edge of a step: it stands for the station after that step. -/
def Answers (r : Registry) (s : State) (name : String) (success : Bool) (target : Target) :
    Prop :=
  ∃ station, r.stationAfter? name success = some station ∧ s.Settles target station

/-- Storing a target unsettles nothing. -/
lemma Settles.store {s : State} {frame : Frame} {rest : List Frame} {target other : Target}
    {station : Station} (h : s.Settles target station) (frames : s.frames = frame :: rest) :
    (s.store frame rest other).Settles target station := by
  refine ⟨h.1, ?_⟩
  rw [path_store other frames]
  exact h.2

/-- A node for a step that has none unsettles nothing. -/
lemma Settles.reserve {s : State} {record : StepRecord} {target : Target} {station : Station}
    (h : s.Settles target station) (fresh : ∀ n ∈ s.nodes, n.name ≠ record.name) :
    (s.reserve record).Settles target station := by
  refine ⟨Target.station?_append h.1, ?_⟩
  cases target with
  | terminal t =>
    cases h.1
    trivial
  | step position =>
    obtain ⟨n, here, same⟩ := Option.map_eq_some_iff.1 h.1
    cases same
    exact List.not_mem_cons_of_ne_of_not_mem (fresh n (List.mem_of_getElem? here)) h.2

/-- Finishing a node unsettles nothing. -/
lemma Settles.finish {s : State} {frame : Frame} {rest : List Frame} {target : Target}
    {onSuccess onFailure : Target} {station : Station} (h : s.Settles target station)
    (frames : s.frames = frame :: rest) :
    (s.finish frame rest onSuccess onFailure).Settles target station := by
  have off := h.2
  rw [path_finish onSuccess onFailure frames] at off
  exact ⟨(Target.station?_modify ..).trans h.1, off.tail⟩

/-- What is right for an edge stays right as long as nothing is unsettled. -/
lemma Answers.imp {r : Registry} {s t : State} {name : String} {success : Bool} {target : Target}
    (h : Answers r s name success target)
    (settles : ∀ {station}, s.Settles target station → t.Settles target station) :
    Answers r t name success target := by
  obtain ⟨station, after, here⟩ := h
  exact ⟨station, after, settles here⟩

/-- What is true of the machine before and after every round. -/
structure Invariant (r : Registry) (root : String) (s : State) : Prop where
  linked : Linked r root s.frames
  distinct : s.path.Nodup
  onStack : s.onStack = s.path
  bound : ∀ name position,
    s.position? name = some position ↔ ∃ n, s.nodes[position]? = some n ∧ n.name = name
  placed : ∀ f ∈ s.frames, s.position? f.record.name = some f.position
  numbered : ∀ position n, s.nodes[position]? = some n → n.sequence = position + 1
  kinds : ∀ n ∈ s.nodes, r.station? n.name = some (.step n.name n.kind)
  referenced : ∀ n ∈ s.nodes, r.Referenced root n.name
  grounded : ∀ n ∈ s.nodes, n.name ∉ s.path → r.Grounded n.name
  stored : ∀ f ∈ s.frames, ∀ target, f.onSuccess = some target →
    Answers r s f.record.name true target
  edges : ∀ n ∈ s.nodes, n.name ∉ s.path → ∀ success,
    Answers r s n.name success (n.next success)
  pending : ∀ target, s.resolved = some target →
    ∃ station, awaited? r root s.frames = some station ∧ s.Settles target station

variable {r : Registry} {root : String}

/-- Nothing is bound yet, so all is well. -/
lemma Invariant.empty : Invariant r root State.empty where
  linked := .nil
  distinct := .nil
  onStack := rfl
  bound name position := by simp [State.empty, position?]
  placed _ mem := by cases mem
  numbered position n here := by simp [State.empty] at here
  kinds _ mem := by cases mem
  referenced _ mem := by cases mem
  grounded _ mem := by cases mem
  stored _ mem := by cases mem
  edges _ mem := by cases mem
  pending _ resolved := by cases resolved

namespace Invariant

/-- A name with a node off the path is grounded. -/
lemma grounded_of_settles {s : State} (inv : Invariant r root s) {target : Target} {name : String}
    {kind : StepKind} (h : s.Settles target (.step name kind)) : r.Grounded name := by
  obtain ⟨stands, off⟩ := h
  cases target with
  | terminal t => cases stands
  | step position =>
    obtain ⟨n, here, same⟩ := Option.map_eq_some_iff.1 stands
    cases same
    exact inv.grounded n (List.mem_of_getElem? here) off

/-- The position of a definition stands for its station. -/
lemma stands {s : State} (inv : Invariant r root s) {record : StepRecord} {position : Nat}
    (found : r.find? record.name = some record)
    (bound : s.position? record.name = some position) :
    (Target.step position).station? s.nodes = some record.station := by
  obtain ⟨n, here, name⟩ := (inv.bound record.name position).1 bound
  have kind := inv.kinds n (List.mem_of_getElem? here)
  rw [name, Registry.station?, found] at kind
  rw [Target.station?, here, ← Option.map_some, kind, ← name]
  rfl

/-- A definition is grounded when both its edges have a right target. -/
lemma grounded_of_answers {s : State} (inv : Invariant r root s) {name : String}
    {record : StepRecord} (found : r.find? name = some record)
    (h : ∀ success, ∃ target, Answers r s name success target) : r.Grounded name := by
  apply Registry.grounded_of_stationAfter? found
  intro success
  obtain ⟨target, station, after, settles⟩ := h success
  refine ⟨station, after, ?_⟩
  rintro next kind rfl
  exact inv.grounded_of_settles settles

/-- The register is filled with a target for the station that it has to stand for. -/
lemma resolve {s : State} (inv : Invariant r root s) {target : Target} {station : Station}
    (awaited : awaited? r root s.frames = some station) (settles : s.Settles target station) :
    Invariant r root (s.resolve target) :=
  { inv with
    pending := by
      intro other same
      cases same
      exact ⟨station, awaited, settles⟩ }

/-- The innermost frame stores the target of its success edge and turns to its failure edge. -/
lemma store {s : State} (inv : Invariant r root s) {frame : Frame} {rest : List Frame}
    {target : Target} (frames : s.frames = frame :: rest) (resolved : s.resolved = some target)
    (waits : frame.onSuccess = none) : Invariant r root (s.store frame rest target) := by
  have path := path_store target frames
  have linked := inv.linked
  rw [frames] at linked
  constructor
  case linked =>
    cases linked with
    | cons notFinish awaits linked => exact .cons notFinish awaits linked
  case distinct => exact path ▸ inv.distinct
  case onStack => exact path ▸ inv.onStack
  case bound => exact inv.bound
  case placed =>
    intro f mem
    rcases List.mem_cons.1 mem with rfl | mem
    · exact inv.placed frame (by simp [frames])
    · exact inv.placed f (by simp [frames, mem])
  case numbered => exact inv.numbered
  case kinds => exact inv.kinds
  case referenced => exact inv.referenced
  case grounded => exact path ▸ inv.grounded
  case stored =>
    intro f mem other stored
    rcases List.mem_cons.1 mem with rfl | mem
    · cases stored
      obtain ⟨station, awaited, settles⟩ := inv.pending target resolved
      simp only [frames, awaited?, waits] at awaited
      exact ⟨station, awaited, settles.store frames⟩
    · exact (inv.stored f (by simp [frames, mem]) other stored).imp (·.store frames)
  case edges =>
    intro n mem off success
    exact (inv.edges n mem (path ▸ off) success).imp (·.store frames)
  case pending =>
    intro other same
    cases same

/-- A step without a position has no node. -/
lemma fresh {s : State} (inv : Invariant r root s) {name : String}
    (unbound : s.position? name = none) : ∀ n ∈ s.nodes, n.name ≠ name := by
  intro n mem same
  obtain ⟨position, here⟩ := List.mem_iff_getElem?.1 mem
  have bound := (inv.bound name position).2 ⟨n, here, same⟩
  simp [unbound] at bound

/-- A node is reserved for the record that the innermost frame waits for. -/
lemma reserve {s : State} (inv : Invariant r root s) {record : StepRecord}
    (awaits : Awaits r root s.frames record) (notFinish : record.kind.isFinish = false)
    (off : record.name ∉ s.path) (unbound : s.position? record.name = none) :
    Invariant r root (s.reserve record) := by
  have fresh := inv.fresh unbound
  -- only the new node is on the path now and was not before
  have old : ∀ n ∈ (s.reserve record).nodes, n.name ∉ (s.reserve record).path →
      n ∈ s.nodes ∧ n.name ∉ s.path := by
    intro n mem h
    obtain ⟨new, h⟩ := List.ne_and_not_mem_of_not_mem_cons h
    rcases List.mem_append.1 mem with mem | mem
    · exact ⟨mem, h⟩
    · obtain rfl := List.mem_singleton.1 mem
      exact absurd rfl new
  constructor
  case linked => exact .cons notFinish awaits inv.linked
  case distinct => exact List.nodup_cons.2 ⟨off, inv.distinct⟩
  case onStack => exact congrArg (record.name :: ·) inv.onStack
  case bound =>
    intro name position
    rw [position?_reserve]
    split
    · rename_i same
      constructor
      · intro h
        cases h
        exact ⟨_, getElem?_nodes_reserve.2 (.inr ⟨rfl, rfl⟩), same.symm⟩
      · rintro ⟨n, here, rfl⟩
        rcases getElem?_nodes_reserve.1 here with here | ⟨rfl, -⟩
        · exact absurd same (fresh n (List.mem_of_getElem? here))
        · rfl
    · rename_i other
      rw [inv.bound]
      constructor
      · rintro ⟨n, here, same⟩
        exact ⟨n, getElem?_nodes_reserve.2 (.inl here), same⟩
      · rintro ⟨n, here, same⟩
        rcases getElem?_nodes_reserve.1 here with here | ⟨-, rfl⟩
        · exact ⟨n, here, same⟩
        · exact absurd same.symm other
  case placed =>
    intro f mem
    rw [position?_reserve]
    rcases List.mem_cons.1 mem with rfl | mem
    · simp
    · have : f.record.name ≠ record.name := by
        intro same
        exact off (List.mem_map.2 ⟨f, mem, same⟩)
      rw [if_neg this]
      exact inv.placed f mem
  case numbered =>
    intro position n here
    rcases getElem?_nodes_reserve.1 here with here | ⟨rfl, rfl⟩
    · exact inv.numbered position n here
    · rfl
  case kinds =>
    intro n mem
    rcases List.mem_append.1 mem with mem | mem
    · exact inv.kinds n mem
    · obtain rfl := List.mem_singleton.1 mem
      simp [Registry.station?, awaits.found, StepRecord.station_eq_step notFinish]
  case referenced =>
    intro n mem
    rcases List.mem_append.1 mem with mem | mem
    · exact inv.referenced n mem
    · obtain rfl := List.mem_singleton.1 mem
      exact awaits.referenced inv.linked
  case grounded =>
    intro n mem h
    obtain ⟨mem, h⟩ := old n mem h
    exact inv.grounded n mem h
  case stored =>
    intro f mem target stored
    rcases List.mem_cons.1 mem with rfl | mem
    · cases stored
    · exact (inv.stored f mem target stored).imp (·.reserve fresh)
  case edges =>
    intro n mem h success
    obtain ⟨mem, h⟩ := old n mem h
    exact (inv.edges n mem h success).imp (·.reserve fresh)
  case pending =>
    intro other same
    cases same

/-- Both edges of the innermost frame have right targets when the second one is in the register. -/
lemma answered {s : State} (inv : Invariant r root s) {frame : Frame} {rest : List Frame}
    {onSuccess onFailure : Target} (frames : s.frames = frame :: rest)
    (resolved : s.resolved = some onFailure) (stored : frame.onSuccess = some onSuccess)
    (success : Bool) :
    Answers r s frame.record.name success (if success then onSuccess else onFailure) := by
  cases success with
  | true => exact inv.stored frame (by simp [frames]) onSuccess stored
  | false =>
    obtain ⟨station, awaited, settles⟩ := inv.pending onFailure resolved
    simp only [frames, awaited?, stored] at awaited
    exact ⟨station, awaited, settles⟩

/-- A node at another position than a frame's has another name. -/
lemma name_ne_of_position_ne {s : State} (inv : Invariant r root s) {f : Frame}
    (mem : f ∈ s.frames) {position : Nat} {n : StepNode} (here : s.nodes[position]? = some n)
    (other : position ≠ f.position) : n.name ≠ f.record.name := by
  intro same
  have bound := (inv.bound _ _).2 ⟨n, here, same⟩
  rw [inv.placed f mem] at bound
  exact other (Option.some.inj bound).symm

/-- The node of the innermost frame gets its edges. -/
lemma finish {s : State} (inv : Invariant r root s) {frame : Frame} {rest : List Frame}
    {onSuccess onFailure : Target} (frames : s.frames = frame :: rest)
    (resolved : s.resolved = some onFailure) (stored : frame.onSuccess = some onSuccess) :
    Invariant r root (s.finish frame rest onSuccess onFailure) := by
  have path := path_finish onSuccess onFailure frames
  have answered := inv.answered frames resolved stored
  have own : frame ∈ s.frames := by simp [frames]
  have linked := inv.linked
  rw [frames] at linked
  obtain ⟨found, -⟩ := linked.found (List.mem_cons_self ..)
  have distinct := inv.distinct
  rw [path] at distinct
  obtain ⟨off, distinct⟩ := List.nodup_cons.1 distinct
  -- a node that is off the path now is the finished one or was off it before
  have before : ∀ name, name ≠ frame.record.name →
      name ∉ (s.finish frame rest onSuccess onFailure).path → name ∉ s.path := by
    intro name other off
    rw [path]
    exact List.not_mem_cons_of_ne_of_not_mem other off
  constructor
  case linked =>
    cases linked with
    | cons _ _ linked => exact linked
  case distinct => exact distinct
  case onStack =>
    show s.onStack.erase frame.record.name = _
    rw [inv.onStack, path, List.erase_cons_head]
  case bound =>
    intro name position
    rw [← Option.map_eq_some_iff, name_nodes_finish, Option.map_eq_some_iff]
    exact inv.bound name position
  case placed =>
    intro f mem
    exact inv.placed f (by simp [frames, show f ∈ rest from mem])
  case numbered =>
    intro position n h
    obtain ⟨old, was, sequence, -, -⟩ := same_of_nodes_finish h
    rw [sequence]
    exact inv.numbered position old was
  case kinds =>
    intro n mem
    obtain ⟨old, was, name, kind⟩ := exists_of_mem_nodes_finish mem
    rw [name, kind]
    exact inv.kinds old was
  case referenced =>
    intro n mem
    obtain ⟨old, was, name, -⟩ := exists_of_mem_nodes_finish mem
    rw [name]
    exact inv.referenced old was
  case grounded =>
    intro n mem off
    by_cases same : n.name = frame.record.name
    · rw [same]
      exact inv.grounded_of_answers found fun success => ⟨_, answered success⟩
    · obtain ⟨old, was, name, -⟩ := exists_of_mem_nodes_finish mem
      rw [name] at same off ⊢
      exact inv.grounded old was (before _ same off)
  case stored =>
    intro f mem target stored
    have mem : f ∈ s.frames := by simp [frames, show f ∈ rest from mem]
    exact (inv.stored f mem target stored).imp (·.finish frames)
  case edges =>
    intro n mem off success
    obtain ⟨position, h⟩ := List.mem_iff_getElem?.1 mem
    obtain ⟨old, was, ⟨rfl, rfl⟩ | ⟨other, rfl⟩⟩ := nodes_finish h
    · obtain ⟨n, here, name⟩ := (inv.bound _ _).1 (inv.placed frame own)
      obtain rfl := Option.some.inj (here.symm.trans was)
      have answers : Answers r (s.finish frame rest onSuccess onFailure) frame.record.name success
          (if success then onSuccess else onFailure) := (answered success).imp (·.finish frames)
      rw [← name] at answers
      exact answers
    · have new := inv.name_ne_of_position_ne own was other
      have answers := inv.edges n (List.mem_of_getElem? was) (before _ new off) success
      exact answers.imp (·.finish frames)
  case pending =>
    intro target same
    cases same
    refine ⟨frame.record.station, ?_, ?_, StepRecord.station_off off⟩
    · cases linked with
      | cons _ awaits linked => exact awaits.station linked
    · exact (Target.station?_modify ..).trans (inv.stands found (inv.placed frame own))

/-- Entering the record that the innermost frame waits for keeps the invariant. -/
lemma enter {s t : State} (inv : Invariant r root s) {record : StepRecord}
    (awaits : Awaits r root s.frames record) (h : s.enter record = .ok t) :
    Invariant r root t := by
  have awaited := awaits.station inv.linked
  rcases enter_cases h with
    ⟨result, kind, rfl⟩ | ⟨notFinish, off, position, bound, rfl⟩ | ⟨notFinish, off, unbound, rfl⟩
  · apply inv.resolve awaited
    rw [StepRecord.station_eq_terminal kind]
    exact ⟨rfl, trivial⟩
  · rw [inv.onStack] at off
    exact inv.resolve awaited ⟨inv.stands awaits.found bound, StepRecord.station_off off⟩
  · rw [inv.onStack] at off
    exact inv.reserve awaits notFinish off unbound

/-- Every round keeps the invariant. -/
lemma round {s t : State} (inv : Invariant r root s) {frame : Frame} {rest : List Frame}
    (frames : s.frames = frame :: rest) (h : s.round r frame rest = .ok t) :
    Invariant r root t := by
  rcases round_cases h with
    ⟨target, resolved, waits, rfl⟩ | ⟨onSuccess, onFailure, resolved, stored, rfl⟩ |
      ⟨target, -, edge, rfl⟩ | ⟨next, -, edge, entered⟩
  · exact inv.store frames resolved waits
  · exact inv.finish frames resolved stored
  · obtain ⟨found, -⟩ := inv.linked.found (f := frame) (by simp [frames])
    refine inv.resolve ?_ ⟨rfl, trivial⟩
    rw [frames]
    exact Registry.stationAfter?_of_edge found edge
  · apply inv.enter ?_ entered
    rw [frames]
    exact edge

/-- A round fails only where the root leads to a name without a definition or to a cycle. -/
lemma not_grounded {s : State} (inv : Invariant r root s) {frame : Frame} {rest : List Frame}
    {e : ConfigError} (frames : s.frames = frame :: rest) (h : s.round r frame rest = .error e) :
    ¬ r.Grounded root := by
  intro grounded
  have linked := inv.linked
  rw [frames] at linked
  have own := grounded.referenced linked.referenced
  obtain ⟨-, edge | ⟨next, edge, entered⟩⟩ := round_error h
  · -- the edge names a step without a definition
    obtain ⟨found, notFinish⟩ := linked.found (List.mem_cons_self ..)
    obtain ⟨target, route, missing, -⟩ := StepRecord.route_of_edge_error edge
    have refers : r.Refers frame.record.name target :=
      ⟨frame.record, found, StepRecord.mem_references notFinish route⟩
    obtain ⟨record, there⟩ := (own.refers refers).defined
    simp [missing] at there
  · -- the record already has a frame, whose step leads back to it
    have awaits : Awaits r root (frame :: rest) next := edge
    obtain ⟨-, on, -⟩ := enter_error entered
    rw [inv.onStack, State.path, frames] at on
    obtain ⟨f, mem, same⟩ := List.mem_map.1 on
    have cycle := awaits.leadsTo linked mem
    rw [same] at cycle
    exact (own.refers (awaits.refers linked)).not_leadsTo cycle

end Invariant

end State

end Compile

end Pipeline
