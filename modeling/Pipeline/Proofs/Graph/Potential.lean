import Pipeline.Proofs.Graph.Rounds
import Pipeline.Proofs.Graph.Station

/-!
# The potential of a compilation

What is left of the rounds of the open frames is due (`State.due`). Every round does one of the
rounds that are due, and one that reserves a node adds the four of that node (`due_round`) and uses
up a step without a node (`unbound_round`). So every round lowers the potential (`potential_round`),
and the machine, which takes as many rounds as its potential, has no frame left when it stops
(`frames_run`).
-/

namespace Pipeline.Compile

/-- Every frame has a round to come. -/
lemma Frame.weight_pos (f : Frame) : 0 < f.weight := by
  unfold weight
  split <;> omega

namespace State

/-- The rounds that the open frames still need, as long as no node is added. -/
def due (s : State) : Nat :=
  Frame.weights s.frames + (if s.resolved.isNone && !s.frames.isEmpty then 1 else 0)

/-- With a target in the register, the frames need their own rounds and no more. -/
lemma due_of_resolved {s : State} {target : Target} (resolved : s.resolved = some target) :
    s.due = Frame.weights s.frames := by
  simp [due, resolved]

/-- Without a target, the top frame has to follow an edge first. -/
lemma due_of_waiting {s : State} (frames : s.frames ≠ []) (waiting : s.resolved = none) :
    s.due = Frame.weights s.frames + 1 := by
  simp [due, waiting, frames]

/-- A new frame needs four rounds. -/
lemma due_reserve (s : State) (record : StepRecord) :
    (s.reserve record).due = Frame.weights s.frames + 4 := by
  show 3 + Frame.weights s.frames + 1 = Frame.weights s.frames + 4
  omega

/-- Storing a target is one of the rounds that are due. -/
lemma due_store {s : State} {frame : Frame} {rest : List Frame} {target : Target}
    (frames : s.frames = frame :: rest) (resolved : s.resolved = some target)
    (waits : frame.onSuccess = none) : (s.store frame rest target).due + 1 = s.due := by
  have before : frame.weight = 3 := by simp [Frame.weight, waits]
  have after : (s.store frame rest target).due = 1 + Frame.weights rest + 1 := rfl
  rw [due_of_resolved resolved, frames, Frame.weights, before, after]
  omega

/-- Finishing a node is the last round that its frame needs. -/
lemma due_finish {s : State} {frame : Frame} {rest : List Frame} {onSuccess onFailure : Target}
    (frames : s.frames = frame :: rest) (resolved : s.resolved = some onFailure)
    (stored : frame.onSuccess = some onSuccess) :
    (s.finish frame rest onSuccess onFailure).due + 1 = s.due := by
  have before : frame.weight = 1 := by simp [Frame.weight, stored]
  have after : (s.finish frame rest onSuccess onFailure).due = Frame.weights rest :=
    due_of_resolved rfl
  rw [due_of_resolved resolved, frames, Frame.weights, before, after]
  omega

/-- Entering the record that the top frame waits for is one of the rounds that are due, and a node
that is reserved for it adds four. -/
lemma due_enter {s t : State} {record : StepRecord} (frames : s.frames ≠ [])
    (waiting : s.resolved = none) (h : s.enter record = .ok t) :
    t.due + 1 + 4 * s.nodes.length = s.due + 4 * t.nodes.length := by
  rw [due_of_waiting frames waiting]
  rcases enter_cases h with ⟨_, _, rfl⟩ | ⟨_, _, _, _, rfl⟩ | ⟨_, _, _, rfl⟩
  · rw [due_of_resolved rfl]
    rfl
  · rw [due_of_resolved rfl]
    rfl
  · have nodes : (s.reserve record).nodes.length = s.nodes.length + 1 := by simp [State.reserve]
    rw [due_reserve, nodes]
    omega

/-- Every round does one of those that are due, and a node that it reserves adds four. -/
lemma due_round {r : Registry} {s t : State} {frame : Frame} {rest : List Frame}
    (frames : s.frames = frame :: rest) (h : s.round r frame rest = .ok t) :
    t.due + 1 + 4 * s.nodes.length = s.due + 4 * t.nodes.length := by
  have hasFrames : s.frames ≠ [] := by simp [frames]
  rcases round_cases h with
    ⟨target, resolved, waits, rfl⟩ | ⟨onSuccess, onFailure, resolved, stored, rfl⟩ |
      ⟨target, waiting, -, rfl⟩ | ⟨next, waiting, -, entered⟩
  · rw [due_store frames resolved waits]
    rfl
  · rw [due_finish frames resolved stored]
    simp [State.finish]
  · rw [due_of_waiting hasFrames waiting, due_of_resolved rfl]
    rfl
  · exact due_enter hasFrames waiting entered

/-- A step that is bound now is no longer among those that are not. -/
lemma length_unbound_reserve {r : Registry} {s : State} {record : StepRecord}
    (mem : record ∈ r.records) (new : s.position? record.name = none) :
    ((s.reserve record).unbound r).length < (s.unbound r).length := by
  have sub : (s.reserve record).unbound r =
      (s.unbound r).filter fun x => record.name != x.name := by
    simp only [unbound, List.filter_filter]
    apply List.filter_congr
    intro x _
    by_cases h : x.name = record.name
    · simp [position?, reserve, h]
    · have h' : (x.name == record.name) = false := by simpa using h
      have h'' : (record.name != x.name) = true := by simpa using fun e => h e.symm
      simp [position?, reserve, List.lookup_cons, h', h'']
  rw [sub]
  apply List.length_filter_lt_length_iff_exists.2
  exact ⟨record, by simp [unbound, mem, new], by simp⟩

/-- A round that adds a node uses up a step without a node. -/
lemma unbound_round {r : Registry} {s t : State} {frame : Frame} {rest : List Frame}
    (h : s.round r frame rest = .ok t) :
    (t.unbound r).length + t.nodes.length ≤ (s.unbound r).length + s.nodes.length := by
  rcases round_cases h with
    ⟨_, _, _, rfl⟩ | ⟨onSuccess, onFailure, _, _, rfl⟩ | ⟨_, _, _, rfl⟩ |
      ⟨next, _, edge, entered⟩
  · exact Nat.le_refl _
  · have nodes : (s.finish frame rest onSuccess onFailure).nodes.length = s.nodes.length := by
      simp [finish]
    rw [nodes]
    exact Nat.le_refl _
  · exact Nat.le_refl _
  · have mem : next ∈ r.records := Registry.mem_of_find? (StepRecord.route_of_edge edge).2
    rcases enter_cases entered with ⟨_, _, rfl⟩ | ⟨_, _, _, _, rfl⟩ | ⟨_, _, new, rfl⟩
    · exact Nat.le_refl _
    · exact Nat.le_refl _
    · have fewer := length_unbound_reserve mem new
      have nodes : (s.reserve next).nodes.length = s.nodes.length + 1 := by simp [reserve]
      omega

/-- The potential is what is due, and four rounds for each step without a node. -/
lemma potential_eq (r : Registry) (s : State) :
    s.potential r = 4 * (s.unbound r).length + s.due :=
  Nat.add_assoc ..

/-- Each round lowers the potential. -/
lemma potential_round {r : Registry} {s t : State} {frame : Frame} {rest : List Frame}
    (frames : s.frames = frame :: rest) (h : s.round r frame rest = .ok t) :
    t.potential r < s.potential r := by
  have paid := due_round frames h
  have used := unbound_round h
  rw [potential_eq, potential_eq]
  omega

/-- A machine with a frame has rounds to come. -/
lemma potential_pos {r : Registry} {s : State} (frames : s.frames ≠ []) : 0 < s.potential r := by
  obtain ⟨frame, rest, frames⟩ := List.exists_cons_of_ne_nil frames
  have weight := frame.weight_pos
  rw [potential, frames, Frame.weights]
  omega

/-- Where the rounds are as many as the potential, no frame is left at the end. -/
lemma frames_rounds {r : Registry} {n : Nat} {s t : State} (enough : s.potential r ≤ n)
    (h : s.rounds r n = .ok t) : t.frames = [] := by
  induction n generalizing s with
  | zero =>
    cases h
    by_contra frames
    have := potential_pos (r := r) frames
    omega
  | succ n ih =>
    cases frames : s.frames with
    | nil =>
      rw [rounds_of_frames_nil frames] at h
      cases h
      exact frames
    | cons frame rest =>
      rw [rounds_succ frames] at h
      obtain ⟨u, next, h⟩ := bind_eq_ok h
      have := potential_round frames next
      exact ih (by omega) h

/-- The machine stops only when no frame is left. -/
lemma frames_run {r : Registry} {s t : State} (h : s.run r = .ok t) : t.frames = [] :=
  frames_rounds (Nat.le_refl _) h

/-- As many rounds as the potential are enough: more rounds change nothing. -/
lemma rounds_potential_add {r : Registry} {s : State} (n : Nat) :
    s.rounds r (s.potential r + n) = s.run r := by
  rw [rounds_add]
  cases h : s.run r with
  | error e =>
    rw [run] at h
    rw [h]
    rfl
  | ok t =>
    have done := frames_run h
    rw [run] at h
    rw [h]
    exact rounds_of_frames_nil done

end State

end Pipeline.Compile
