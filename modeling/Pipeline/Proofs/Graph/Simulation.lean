import Pipeline.Proofs.Graph.Resolve
import Pipeline.Proofs.Graph.Result

/-!
# The machine resolves edges as the recursive visit does

Whatever the rules resolve an edge to, the machine comes to as well when its innermost frame follows
that edge (`simulated`): the frames are then as they were, the target is in the register, and the
nodes are the same. A frame of the machine stands for a visit that is not finished, so the path of
the visit is that of the machine.
-/

namespace Pipeline.Compile

open Visit

variable {r : Registry} {root : String}

/-- One outcome of the machine leads to another one by some number of rounds. -/
def Reaches (r : Registry) (x y : Except ConfigError State) : Prop :=
  ∃ m, ∀ n, x.bind (State.rounds r (m + n)) = y.bind (State.rounds r n)

/-- No round at all leads nowhere else. -/
lemma Reaches.refl (x : Except ConfigError State) : Reaches r x x :=
  ⟨0, fun n => by rw [Nat.zero_add]⟩

/-- Runs can be joined. -/
lemma Reaches.trans {x y z : Except ConfigError State} (h : Reaches r x y)
    (h' : Reaches r y z) : Reaches r x z := by
  obtain ⟨m, h⟩ := h
  obtain ⟨m', h'⟩ := h'
  refine ⟨m + m', fun n => ?_⟩
  rw [Nat.add_assoc, h, h']

/-- A round leads to its outcome. -/
lemma Reaches.round {s : State} {frame : Frame} {rest : List Frame}
    (frames : s.frames = frame :: rest) : Reaches r (.ok s) (s.round r frame rest) := by
  refine ⟨1, fun n => ?_⟩
  rw [Nat.add_comm]
  exact State.rounds_succ frames

/-- A machine runs to the outcome that it reaches when that has no frame left. -/
lemma Reaches.run {s : State} {y : Except ConfigError State} (h : Reaches r (.ok s) y)
    (stops : ∀ t, y = .ok t → t.frames = []) : s.run r = y := by
  obtain ⟨m, h⟩ := h
  have rounds : s.rounds r (m + s.potential r) = y.bind (State.rounds r (s.potential r)) := h _
  rw [Nat.add_comm, State.rounds_potential_add] at rounds
  rw [rounds]
  cases y with
  | error e => rfl
  | ok t => exact State.rounds_of_frames_nil (stops t rfl)

/-- The invariant holds of what a machine with it reaches. -/
lemma Reaches.invariant {s t : State} (h : Reaches r (.ok s) (.ok t))
    (inv : State.Invariant r root s) : State.Invariant r root t := by
  obtain ⟨m, h⟩ := h
  exact inv.rounds (h 0)

/-- What the machine comes to when the edge that it follows is resolved. -/
inductive Comes (s : State) :
    Except ConfigError (Target × Progress) → Except ConfigError State → Prop where
  | error {e} :
    Comes s (.error e) (.error e)
  | ok {target p t} :
    t.frames = s.frames →
    t.resolved = some target →
    t.nodes = p.nodes →
    Comes s (.ok (target, p)) (.ok t)

namespace State

/-- The machine is about to follow an edge below a path of names, with the nodes so far. -/
structure Follows (r : Registry) (root : String) (s : State) (path : List String)
    (edge : Except ConfigError Edge) (p : Progress) : Prop where
  inv : Invariant r root s
  waits : s.resolved = none
  path : s.path = path
  nodes : s.nodes = p.nodes
  awaits : ∀ next, edge = .ok (.record next) → Awaits r root s.frames next

/-- The positions of the machine are those that a visit finds. -/
lemma Invariant.position?_eq {s : State} (inv : Invariant r root s) {p : Progress}
    (nodes : s.nodes = p.nodes) (name : String) : s.position? name = p.position? name := by
  have bound := inv.bound
  rw [nodes] at bound
  apply Option.ext
  intro position
  rw [bound, Progress.position?, List.findIdx?_eq_some_iff_getElem]
  constructor
  · rintro ⟨n, here, same⟩
    obtain ⟨inside, rfl⟩ := List.getElem?_eq_some_iff.1 here
    refine ⟨inside, by simpa using same, ?_⟩
    intro earlier before
    -- two nodes of one name would give it two positions
    have other : p.nodes[earlier].name ≠ name := by
      intro same'
      have at' := (bound name position).2 ⟨_, here, same⟩
      have at'' := (bound name earlier).2 ⟨_, List.getElem?_eq_getElem _, same'⟩
      rw [at'] at at''
      cases at''
      exact absurd before (Nat.lt_irrefl _)
    simpa using other
  · rintro ⟨inside, same, -⟩
    exact ⟨_, List.getElem?_eq_getElem inside, by simpa using same⟩

/-- The cycle that the machine reports is the one that a visit reports. -/
lemma cyclePath_eq (s : State) (name : String) : s.cyclePath name = closing s.path name := by
  simp [cyclePath, closing, path, List.map_reverse]

/-- A waiting machine follows the edge of its innermost frame. -/
lemma round_of_waits {s : State} {frame : Frame} {rest : List Frame} (waits : s.resolved = none) :
    s.round r frame rest = (frame.edge r).bind s.follow := by
  unfold round
  rw [waits]
  rfl

/-- A machine that follows an edge to a fresh record opens a frame and follows its success edge. -/
lemma Follows.opens {s : State} {path : List String} {record : StepRecord} {p : Progress}
    (h : Follows r root s path (.ok (.record record)) p) (fresh : Fresh path record p) :
    Follows r root (s.reserve record) (record.name :: path) (record.edge r true)
        (p.reserve record) ∧
      s.enter record = .ok (s.reserve record) := by
  have off := fresh.off
  rw [← h.path] at off
  have unbound := fresh.unbound
  rw [← h.inv.position?_eq h.nodes] at unbound
  constructor
  · constructor
    case inv => exact h.inv.reserve (h.awaits record rfl) fresh.notFinish off unbound
    case waits => rfl
    case path => exact congrArg (record.name :: ·) h.path
    case nodes => simp [reserve, Progress.reserve, h.nodes]
    case awaits => exact fun next edge => edge
  · rw [enter_of_not_finish fresh.notFinish, h.inv.onStack, if_neg off, unbound]

/-- A machine with the target of a success edge stores it and follows the failure edge. -/
lemma Follows.turns {s t : State} {path : List String} {record : StepRecord} {p p' : Progress}
    {onSuccess : Target} (h : Follows r root s (record.name :: path) (record.edge r true) p)
    {frame : Frame} {rest : List Frame} (frames : s.frames = frame :: rest)
    (own : frame.record = record) (waits : frame.onSuccess = none)
    (inv : Invariant r root t) (comes : Comes s (.ok (onSuccess, p')) (.ok t)) :
    Follows r root (t.store frame rest onSuccess) (record.name :: path) (record.edge r false) p' ∧
      t.round r frame rest = .ok (t.store frame rest onSuccess) := by
  cases comes with
  | ok same resolved nodes =>
    rw [frames] at same
    constructor
    · constructor
      case inv => exact inv.store same resolved waits
      case waits => rfl
      case path =>
        rw [path_store _ same, ← h.path]
        simp [State.path, frames, same]
      case nodes => exact nodes
      case awaits =>
        rintro next edge
        rw [← own] at edge
        exact edge
    · unfold round
      rw [resolved, waits]
      rfl

/-- The next round of a machine that follows the edge of its innermost frame. -/
lemma Follows.reaches {s : State} {path : List String} {edge : Except ConfigError Edge}
    {p : Progress} (h : Follows r root s path edge p) {frame : Frame} {rest : List Frame}
    (frames : s.frames = frame :: rest) (own : frame.edge r = edge) :
    Reaches r (.ok s) (edge.bind s.follow) := by
  rw [← own, ← round_of_waits h.waits]
  exact .round frames

end State

open State

/-- Every machine that follows the edge comes to what the edge is resolved to. -/
def Simulated (r : Registry) (root : String) (path : List String)
    (edge : Except ConfigError Edge) (p : Progress)
    (result : Except ConfigError (Target × Progress)) : Prop :=
  ∀ {s : State}, Follows r root s path edge p →
    ∃ y, Comes s result y ∧ Reaches r (edge.bind s.follow) y

/-- From a fresh record the machine comes to what the success edge is resolved to. -/
lemma Simulated.success {s : State} {path : List String} {record : StepRecord} {p : Progress}
    {result : Except ConfigError (Target × Progress)}
    (inner : Simulated r root (record.name :: path) (record.edge r true) (p.reserve record) result)
    (h : Follows r root s path (.ok (.record record)) p) (fresh : Fresh path record p) :
    ∃ y, Comes (s.reserve record) result y ∧ Reaches r (.ok (s.reserve record)) y := by
  obtain ⟨follows, -⟩ := h.opens fresh
  obtain ⟨y, comes, reaches⟩ := inner follows
  exact ⟨y, comes, (follows.reaches rfl rfl).trans reaches⟩

/-- With its success edge resolved, a fresh record comes to what the failure edge is resolved to. -/
lemma Simulated.failure {s : State} {path : List String} {record : StepRecord} {p p' : Progress}
    {onSuccess : Target} {result : Except ConfigError (Target × Progress)}
    (first : Simulated r root (record.name :: path) (record.edge r true) (p.reserve record)
      (.ok (onSuccess, p')))
    (second : Simulated r root (record.name :: path) (record.edge r false) p' result)
    (h : Follows r root s path (.ok (.record record)) p) (fresh : Fresh path record p) :
    ∃ t y, t.frames = ⟨s.nodes.length, record, some onSuccess⟩ :: s.frames ∧
      Comes t result y ∧ Reaches r (.ok (s.reserve record)) y := by
  obtain ⟨follows, -⟩ := h.opens fresh
  obtain ⟨y, comes, reaches⟩ := first.success h fresh
  cases comes with
  | @ok _ _ t same resolved nodes =>
    have inv := reaches.invariant follows.inv
    have opened : (s.reserve record).frames = ⟨s.nodes.length, record, none⟩ :: s.frames := rfl
    obtain ⟨turned, round⟩ := follows.turns opened rfl rfl inv (.ok same resolved nodes)
    obtain ⟨y, comes, reaches'⟩ := second turned
    refine ⟨_, y, rfl, comes, reaches.trans ?_⟩
    refine (Reaches.round same).trans ?_
    rw [round]
    exact (turned.reaches rfl rfl).trans reaches'

/-- The machine resolves edges by the rules. -/
lemma simulated {path : List String} {edge : Except ConfigError Edge} {p : Progress}
    {result : Except ConfigError (Target × Progress)} (h : Resolves r path edge p result) :
    Simulated r root path edge p result := by
  -- a frame that is opened for the edge stays below all that happens until both its edges are
  -- resolved, so each rule can be followed without regard to the frames further down
  induction h with
  | dangling =>
    intro s follows
    exact ⟨_, .error, .refl _⟩
  | @terminal path t p =>
    intro s follows
    exact ⟨.ok (s.resolve (.terminal t)), .ok rfl rfl follows.nodes, .refl _⟩
  | @finish path record result p kind =>
    intro s follows
    refine ⟨.ok (s.resolve (.terminal ⟨record.name, result⟩)), .ok rfl rfl follows.nodes, ?_⟩
    rw [← enter_of_finish kind]
    exact .refl _
  | @cycle path record p notFinish on =>
    intro s follows
    refine ⟨_, .error, ?_⟩
    rw [← follows.path] at on ⊢
    rw [← cyclePath_eq]
    have entered : s.enter record = .error (.cycle (s.cyclePath record.name)) := by
      rw [enter_of_not_finish notFinish, follows.inv.onStack, if_pos on]
    rw [← entered]
    exact .refl _
  | @bound path record position p notFinish off bound =>
    intro s follows
    refine ⟨.ok (s.resolve (.step position)), .ok rfl rfl follows.nodes, ?_⟩
    have entered : s.enter record = .ok (s.resolve (.step position)) := by
      rw [← follows.path] at off
      rw [← follows.inv.position?_eq follows.nodes] at bound
      rw [enter_of_not_finish notFinish, follows.inv.onStack, if_neg off, bound]
    rw [← entered]
    exact .refl _
  | success fresh _ ih =>
    intro s follows
    obtain ⟨-, entered⟩ := follows.opens fresh
    obtain ⟨y, comes, reaches⟩ := ih.success follows fresh
    cases comes
    refine ⟨_, .error, ?_⟩
    rw [← entered] at reaches
    exact reaches
  | failure fresh _ _ ih ih' =>
    intro s follows
    obtain ⟨-, entered⟩ := follows.opens fresh
    obtain ⟨t, y, frames, comes, reaches⟩ := ih.failure ih' follows fresh
    cases comes
    refine ⟨_, .error, ?_⟩
    rw [← entered] at reaches
    exact reaches
  | @settle path record onSuccess onFailure p p' p'' fresh _ _ ih ih' =>
    intro s follows
    obtain ⟨-, entered⟩ := follows.opens fresh
    obtain ⟨t, y, frames, comes, reaches⟩ := ih.failure ih' follows fresh
    cases comes with
    | @ok _ _ u same resolved nodes =>
      rw [frames] at same
      have round : u.round r ⟨s.nodes.length, record, some onSuccess⟩ s.frames =
          .ok (u.finish ⟨s.nodes.length, record, some onSuccess⟩ s.frames onSuccess
            onFailure) := by
        unfold State.round
        rw [resolved]
      rw [← entered] at reaches
      refine ⟨_, ?_, reaches.trans (.round same)⟩
      rw [round, ← follows.nodes]
      refine .ok rfl rfl ?_
      simp [finish, Progress.settle, nodes]

end Pipeline.Compile

namespace Pipeline.Graph

open Compile Visit

/-- Compiling from a name with a definition gives the graph of what the rules resolve it to. -/
lemma compile_of_resolves {root : String} {r : Registry} {record : StepRecord}
    {result : Except ConfigError (Target × Progress)} (named : root ≠ "")
    (found : r.find? root = some record)
    (h : Resolves r [] (.ok (.record record)) ⟨[]⟩ result) :
    Graph.compile root r = result.map fun (target, p) => ⟨p.nodes, target⟩ := by
  have follows : State.Follows r root State.empty [] (.ok (.record record)) ⟨[]⟩ := by
    refine ⟨.empty, rfl, rfl, rfl, ?_⟩
    intro next same
    cases same
    exact found
  obtain ⟨y, comes, reaches⟩ := simulated h follows
  obtain ⟨start, entered⟩ := State.exists_enter_empty record
  have stops : ∀ t, y = .ok t → t.frames = [] := by
    rintro t rfl
    cases comes with
    | ok frames _ _ => exact frames
  rw [show (Except.ok (.record record)).bind State.empty.follow = State.empty.enter record from rfl,
    entered] at reaches
  rw [compile_of_found named found, entered]
  show (start.run r).map ofMachine = _
  rw [reaches.run stops]
  cases comes with
  | error => rfl
  | ok _ resolved nodes => simp [Except.map, ofMachine, resolved, nodes]

/-- Compiling is the recursive visit of the root: the same graph or the same error. -/
theorem compile_eq_ofVisit (root : String) (r : Registry) :
    Graph.compile root r = Graph.ofVisit root r := by
  by_cases named : root = ""
  · simp [compile, ofVisit, named]
  · unfold ofVisit
    rw [if_neg named]
    split
    · rename_i missing
      simp [compile, named, missing]
    · rename_i record found
      exact compile_of_resolves named found (resolves_visit _ _)

end Pipeline.Graph
