import Pipeline.Graph.Compile
import Pipeline.Proofs.Fallible
import Pipeline.Step.Reference

/-!
# Rounds of the compiler

What one round can do: `enter_cases` and `enter_error` for entering a record, `round_cases` and
`round_error` for a whole round. What every round keeps holds after any number of them
(`rounds_preserve`), and where rounds fail, one of them fails in a state that the rounds before have
led to (`rounds_error`).
-/

namespace Pipeline.Compile

namespace State

/-- The machine with a target in the register. -/
def resolve (s : State) (target : Target) : State :=
  { s with resolved := some target }

/-- The machine after the top frame has stored the target of its success edge. -/
def store (s : State) (frame : Frame) (rest : List Frame) (target : Target) : State :=
  { s with frames := { frame with onSuccess := some target } :: rest, resolved := none }

/-- A step that ends the pipeline is resolved to its terminal. -/
lemma enter_of_finish {s : State} {record : StepRecord} {result : Bool}
    (h : record.kind = .finish result) :
    s.enter record = .ok (s.resolve (.terminal ⟨record.name, result⟩)) := by
  simp [enter, h, resolve]

/-- A step that does not end the pipeline closes a cycle, has a node, or gets one. -/
lemma enter_of_not_finish {s : State} {record : StepRecord} (h : record.kind.isFinish = false) :
    s.enter record =
      if record.name ∈ s.onStack then .error (.cycle (s.cyclePath record.name))
      else
        match s.position? record.name with
        | some position => .ok (s.resolve (.step position))
        | none => .ok (s.reserve record) := by
  unfold enter
  split
  · rename_i result kind
    simp [kind, StepKind.isFinish] at h
  · by_cases on : record.name ∈ s.onStack
    · simp [on]
    · simp only [List.contains_eq_mem, on, decide_false, Bool.false_eq_true, if_false]
      rfl

/-- Entering a record resolves it to a terminal or to its node, or reserves a node for it. -/
lemma enter_cases {s t : State} {record : StepRecord} (h : s.enter record = .ok t) :
    (∃ result, record.kind = .finish result ∧ t = s.resolve (.terminal ⟨record.name, result⟩)) ∨
    (record.kind.isFinish = false ∧ record.name ∉ s.onStack ∧
      ∃ position, s.position? record.name = some position ∧ t = s.resolve (.step position)) ∨
    (record.kind.isFinish = false ∧ record.name ∉ s.onStack ∧ s.position? record.name = none ∧
      t = s.reserve record) := by
  cases finish : record.kind.isFinish with
  | true =>
    obtain ⟨result, kind⟩ := StepKind.eq_finish_of_isFinish finish
    rw [enter_of_finish kind] at h
    cases h
    exact .inl ⟨result, kind, rfl⟩
  | false =>
    rw [enter_of_not_finish finish] at h
    split at h
    · cases h
    · rename_i off
      split at h
      · rename_i position bound
        cases h
        exact .inr (.inl ⟨rfl, off, position, bound, rfl⟩)
      · rename_i unbound
        cases h
        exact .inr (.inr ⟨rfl, off, unbound, rfl⟩)

/-- Entering a record fails only when its step has a frame. -/
lemma enter_error {s : State} {record : StepRecord} {e : ConfigError}
    (h : s.enter record = .error e) :
    record.kind.isFinish = false ∧ record.name ∈ s.onStack ∧
      e = .cycle (s.cyclePath record.name) := by
  cases finish : record.kind.isFinish with
  | true =>
    obtain ⟨result, kind⟩ := StepKind.eq_finish_of_isFinish finish
    rw [enter_of_finish kind] at h
    cases h
  | false =>
    rw [enter_of_not_finish finish] at h
    split at h
    · rename_i on
      cases h
      exact ⟨rfl, on, rfl⟩
    · split at h <;> cases h

/-- A round stores a target, finishes a node, or follows an edge. -/
lemma round_cases {r : Registry} {s t : State} {frame : Frame} {rest : List Frame}
    (h : s.round r frame rest = .ok t) :
    (∃ target, s.resolved = some target ∧ frame.onSuccess = none ∧
      t = s.store frame rest target) ∨
    (∃ onSuccess onFailure, s.resolved = some onFailure ∧ frame.onSuccess = some onSuccess ∧
      t = s.finish frame rest onSuccess onFailure) ∨
    (∃ target, s.resolved = none ∧ frame.edge r = .ok (.terminal target) ∧
      t = s.resolve (.terminal target)) ∨
    (∃ next, s.resolved = none ∧ frame.edge r = .ok (.record next) ∧ s.enter next = .ok t) := by
  unfold round at h
  split at h
  · rename_i target resolved success
    cases h
    exact .inl ⟨target, resolved, success, rfl⟩
  · rename_i onFailure onSuccess resolved success
    cases h
    exact .inr (.inl ⟨onSuccess, onFailure, resolved, success, rfl⟩)
  · rename_i resolved
    obtain ⟨e, edge, h⟩ := bind_eq_ok h
    cases e with
    | terminal target =>
      cases h
      exact .inr (.inr (.inl ⟨target, resolved, edge, rfl⟩))
    | record next => exact .inr (.inr (.inr ⟨next, resolved, edge, h⟩))

/-- A round fails where there is no edge to follow, or at the record that the edge leads to. -/
lemma round_error {r : Registry} {s : State} {frame : Frame} {rest : List Frame} {e : ConfigError}
    (h : s.round r frame rest = .error e) :
    s.resolved = none ∧
      (frame.edge r = .error e ∨
        ∃ next, frame.edge r = .ok (.record next) ∧ s.enter next = .error e) := by
  unfold round at h
  split at h
  · cases h
  · cases h
  · rename_i resolved
    refine ⟨resolved, ?_⟩
    rcases bind_eq_error h with missing | ⟨e', edge, h⟩
    · exact .inl missing
    · cases e' with
      | terminal target => cases h
      | record next => exact .inr ⟨next, edge, h⟩

/-- Where no frame is left, further rounds do nothing. -/
lemma rounds_of_frames_nil {r : Registry} {n : Nat} {s : State} (h : s.frames = []) :
    s.rounds r n = .ok s := by
  cases n with
  | zero => rfl
  | succ n => simp [rounds, h]

/-- The rounds of a machine with a frame start with a round for that frame. -/
lemma rounds_succ {r : Registry} {n : Nat} {s : State} {frame : Frame} {rest : List Frame}
    (h : s.frames = frame :: rest) :
    s.rounds r (n + 1) = (s.round r frame rest).bind (rounds r n) := by
  rw [rounds, h]
  rfl

/-- Rounds can be taken in two goes. -/
lemma rounds_add {r : Registry} {m n : Nat} {s : State} :
    s.rounds r (m + n) = (s.rounds r m).bind (rounds r n) := by
  induction m generalizing s with
  | zero => rw [Nat.zero_add]; rfl
  | succ m ih =>
    cases frames : s.frames with
    | nil =>
      rw [rounds_of_frames_nil frames, rounds_of_frames_nil frames]
      exact (rounds_of_frames_nil frames).symm
    | cons frame rest =>
      rw [Nat.add_right_comm, rounds_succ frames, rounds_succ frames]
      cases s.round r frame rest with
      | error e => rfl
      | ok t => exact ih

section

variable {r : Registry} {P : State → Prop}
  (step : ∀ {s t frame rest}, P s → s.frames = frame :: rest → s.round r frame rest = .ok t → P t)

include step

/-- What every round keeps holds after any number of rounds. -/
lemma rounds_preserve {n : Nat} {s t : State} (start : P s) (h : s.rounds r n = .ok t) : P t := by
  induction n generalizing s with
  | zero =>
    cases h
    exact start
  | succ n ih =>
    cases frames : s.frames with
    | nil =>
      rw [rounds_of_frames_nil frames] at h
      cases h
      exact start
    | cons frame rest =>
      rw [rounds_succ frames] at h
      obtain ⟨u, next, h⟩ := bind_eq_ok h
      exact ih (step start frames next) h

/-- Rounds that fail come to a round that fails. -/
lemma rounds_error {n : Nat} {s : State} {e : ConfigError} (start : P s)
    (h : s.rounds r n = .error e) :
    ∃ t frame rest, P t ∧ t.frames = frame :: rest ∧ t.round r frame rest = .error e := by
  induction n generalizing s with
  | zero => cases h
  | succ n ih =>
    cases frames : s.frames with
    | nil =>
      rw [rounds_of_frames_nil frames] at h
      cases h
    | cons frame rest =>
      rw [rounds_succ frames] at h
      rcases bind_eq_error h with failed | ⟨u, next, h⟩
      · exact ⟨s, frame, rest, start, frames, failed⟩
      · exact ih (step start frames next) h

end

end State

end Pipeline.Compile
