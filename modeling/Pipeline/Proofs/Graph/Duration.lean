import Mathlib.Data.List.Dedup
import Pipeline.Proofs.Graph.Nodes

/-!
# The rounds of a compilation

How often the machine goes round its loop until it stops (`Halts`). A node takes four rounds: its
success edge is followed, the target of that is stored, its failure edge is followed, and the node
is finished; at every moment the rounds that are left for the open frames are due (`State.due`). So
a machine that stops without an error has gone round four times for each node, and one that fails,
less than four times for each step that there is (`halts_of_found`).
-/

namespace Pipeline

/-- The names that stand for a step which does not end the pipeline, each of them once. -/
def Registry.stepNames (r : Registry) : List String :=
  (r.records.map StepRecord.name).dedup.filter fun name =>
    (r.find? name).any fun record => !record.kind.isFinish

/-- The names of the steps are those with a definition that is not an end. -/
lemma Registry.mem_stepNames {r : Registry} {name : String} :
    name ∈ r.stepNames ↔
      ∃ record, r.find? name = some record ∧ record.kind.isFinish = false := by
  have defined : ∀ record, r.find? name = some record →
      name ∈ (r.records.map StepRecord.name).dedup := by
    intro record found
    rw [List.mem_dedup, ← name_of_find? found]
    exact List.mem_map_of_mem (mem_of_find? found)
  rw [stepNames, List.mem_filter, Option.any_eq_true]
  constructor
  · rintro ⟨-, record, found, notFinish⟩
    exact ⟨record, found, by simpa using notFinish⟩
  · rintro ⟨record, found, notFinish⟩
    exact ⟨defined record found, record, found, by simp [notFinish]⟩

namespace Compile

/-- From a state on, the loop of the machine goes round so many times and ends with a result. It
stops where no frame is left, and breaks off in a round that fails; that round counts too. -/
inductive Halts (r : Registry) : State → Nat → Except ConfigError State → Prop where
  | done {s} :
    s.frames = [] →
    Halts r s 0 (.ok s)
  | failed {s frame rest e} :
    s.frames = frame :: rest →
    s.round r frame rest = .error e →
    Halts r s 1 (.error e)
  | again {s t frame rest n result} :
    s.frames = frame :: rest →
    s.round r frame rest = .ok t →
    Halts r t n result →
    Halts r s (n + 1) result

namespace State

/-- When the machine comes to its loop, the rounds of its nodes are all due. -/
lemma due_start {start : State} {record : StepRecord} (h : State.empty.enter record = .ok start) :
    start.due = 4 * start.nodes.length := by
  rcases enter_cases h with ⟨_, _, rfl⟩ | ⟨_, _, _, bound, _⟩ | ⟨_, _, _, rfl⟩
  · rfl
  · cases bound
  · rfl

/-- Each node has a name of its own, which is that of a step. -/
lemma Invariant.length_nodes_le {r : Registry} {root : String} {s : State}
    (inv : Invariant r root s) : s.nodes.length ≤ r.stepNames.length := by
  have sub : s.nodes.map StepNode.name ⊆ r.stepNames := by
    intro name mem
    obtain ⟨n, inside, rfl⟩ := List.mem_map.1 mem
    obtain ⟨record, found, station⟩ := Option.map_eq_some_iff.1 (inv.kinds n inside)
    obtain ⟨notFinish, -, -⟩ := StepRecord.isFinish_of_station station
    exact Registry.mem_stepNames.2 ⟨record, found, notFinish⟩
  simpa using (List.subperm_of_subset inv.nodup_names sub).length_le

/-- Rounds that fail, or that leave no frame, are those of a loop that ends with the same result. -/
lemma exists_halts_rounds {r : Registry} {n : Nat} {s : State}
    (stops : ∀ t, s.rounds r n = .ok t → t.frames = []) :
    ∃ m, Halts r s m (s.rounds r n) := by
  induction n generalizing s with
  | zero => exact ⟨0, .done (stops s rfl)⟩
  | succ n ih =>
    cases frames : s.frames with
    | nil =>
      rw [rounds_of_frames_nil frames]
      exact ⟨0, .done frames⟩
    | cons frame rest =>
      rw [rounds_succ frames] at stops ⊢
      cases next : s.round r frame rest with
      | error e => exact ⟨1, .failed frames next⟩
      | ok t =>
        rw [next] at stops
        obtain ⟨m, halts⟩ := ih stops
        exact ⟨m + 1, .again frames next halts⟩

end State

namespace Halts

variable {r : Registry} {s : State} {n : Nat}

/-- A loop that stops without an error has done what was due, and four rounds for each node that it
has added. -/
lemma add_of_ok {final : State} (h : Halts r s n (.ok final)) :
    n + 4 * s.nodes.length = s.due + 4 * final.nodes.length := by
  -- by induction on the rounds: the first one is paid for by what was due or by a node that is new
  generalize same : Except.ok final = result at h
  induction h with
  | done frames =>
    cases same
    simp [State.due, frames, Frame.weights]
  | failed _ _ => cases same
  | again frames next _ ih =>
    have paid := State.due_round frames next
    have rest := ih same
    omega

/-- A loop that breaks off has not done all that was due and four rounds for each further step. -/
lemma add_lt_of_error {root : String} {e : ConfigError} (inv : State.Invariant r root s)
    (h : Halts r s n (.error e)) :
    n + 4 * s.nodes.length < s.due + 4 * r.stepNames.length := by
  generalize same : Except.error e = result at h
  induction h with
  | done _ => cases same
  | @failed s frame rest e' frames failure =>
    -- the frame still has the failed round to do, and a round of its own
    obtain ⟨waiting, -⟩ := State.round_error failure
    have bounded := inv.length_nodes_le
    have due := State.due_of_waiting (by simp [frames]) waiting
    have weight := frame.weight_pos
    rw [frames, Frame.weights] at due
    omega
  | again frames next _ ih =>
    have paid := State.due_round frames next
    have rest := ih (inv.round frames next) same
    omega

end Halts

/-- For every registry and every root with a definition, the loop of the machine ends, with what the
machine has come to when it stops. Without an error it has gone round exactly four times for each
node; and where it fails, counting the round that does, less than four times for each name that
stands for a step which is not an end. -/
theorem halts_of_found {root : String} {r : Registry} {record : StepRecord}
    (found : r.find? root = some record) :
    ∃ start, State.empty.enter record = .ok start ∧
      (∃ n, Halts r start n (start.run r)) ∧
      (∀ n final, Halts r start n (.ok final) → n = 4 * final.nodes.length) ∧
      ∀ n e, Halts r start n (.error e) → n < 4 * r.stepNames.length := by
  obtain ⟨start, entered⟩ := State.exists_enter_empty record
  have due := State.due_start entered
  refine ⟨start, entered, ?_, ?_, ?_⟩
  · exact State.exists_halts_rounds fun _ run => State.frames_run run
  · intro n final halts
    have total := halts.add_of_ok
    omega
  · intro n e halts
    have total := halts.add_lt_of_error (State.Invariant.empty.enter found entered)
    omega

/-- In the diamond the step that two others share is bound once, and the loop that makes its four
nodes goes round sixteen times. -/
theorem halts_of_found_diamond :
    let a : StepRecord :=
      ⟨"a", .test (.script "test"), .named "b", .next (.named "c"), some "c"⟩
    let final : State :=
      { nodes := Graph.diamond.nodes
        bound := [("c", 3), ("d", 2), ("b", 1), ("a", 0)]
        onStack := []
        frames := []
        resolved := some (.step 0) }
    Graph.diamondRegistry.find? "a" = some a ∧
      State.empty.enter a = .ok (State.empty.reserve a) ∧
      Halts Graph.diamondRegistry (State.empty.reserve a) 16 (.ok final) := by
  intro a final
  have found : Graph.diamondRegistry.find? "a" = some a := by decide
  have run : (State.empty.reserve a).run Graph.diamondRegistry = .ok final := by decide
  obtain ⟨start, entered, ⟨n, halts⟩, rounds, -⟩ := halts_of_found found
  obtain rfl : State.empty.reserve a = start := by
    have reserved : State.empty.enter a = .ok (State.empty.reserve a) := by decide
    rw [reserved] at entered
    exact Except.ok.inj entered
  rw [run] at halts
  obtain rfl : n = 16 := rounds n final halts
  exact ⟨found, entered, halts⟩

end Compile

end Pipeline
