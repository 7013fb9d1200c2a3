import Pipeline.Proofs.Run.Course

/-!
# Calls of collaborators

What a run asks of its collaborators, and when. Collaborators that keep a list of their calls
(`Collaborators.recorded`) answer as before, so a run with them is the same run, and the list at its
end holds the calls that the run made. These are the calls that the executed steps demand, step by
step, and each of them is made in the world that the call before has left (`run_recorded`).
-/

namespace Pipeline

/-- What a run asks of its collaborators: the command of a script, or to carry a command out. -/
inductive Request where
  | lookup (script : String)
  | run (command : String)
  deriving DecidableEq, Repr

/-- A request, with the world in which it was made and the one in which it had been answered. -/
structure Call (σ : Type) where
  request : Request
  before : σ
  after : σ

/-- Calls that lie between two worlds, each of them made in the world that the one before left. -/
inductive Consecutive {σ : Type} : σ → List (Call σ) → σ → Prop where
  | nil {w} :
    Consecutive w [] w
  | cons {request w w' calls w''} :
    Consecutive w' calls w'' →
    Consecutive w (⟨request, w, w'⟩ :: calls) w''

/-- Calls after which other calls are made. -/
lemma Consecutive.append {σ : Type} {w w' w'' : σ} {calls more : List (Call σ)}
    (h : Consecutive w calls w') (h' : Consecutive w' more w'') :
    Consecutive w (calls ++ more) w'' := by
  induction h with
  | nil => exact h'
  | cons _ ih => exact .cons (ih h')

section

variable {σ : Type} (c : Collaborators σ)

/-- The call that looks a script up in a world. -/
def Call.ofLookup (script : String) (w : σ) : Call σ :=
  ⟨.lookup script, w, (c.lookup script w).world⟩

/-- The call that runs a command in a world. -/
def Call.ofRun (command : String) (w : σ) : Call σ :=
  ⟨.run command, w, (c.run command w).world⟩

/-- Collaborators that do what `c` does and add each call to a list. -/
def Collaborators.recorded : Collaborators (σ × List (Call σ)) where
  lookup script w :=
    let answer := c.lookup script w.1
    ⟨answer.result, answer.log, (answer.world, w.2 ++ [.ofLookup c script w.1])⟩
  run command w :=
    let answer := c.run command w.1
    ⟨answer.result, answer.log, (answer.world, w.2 ++ [.ofRun c command w.1])⟩

/-- The calls for a script: it is looked up, and if it has a command, that is run afterwards. -/
def scriptCalls (script : String) (w : σ) : List (Call σ) :=
  match (c.lookup script w).result with
  | .ok command => [.ofLookup c script w, .ofRun c command (c.lookup script w).world]
  | .error _ => [.ofLookup c script w]

/-- The calls that a step demands when its turn comes in a world. -/
def StepNode.calls (n : StepNode) (w : σ) : List (Call σ) :=
  match n.kind with
  | .build script => scriptCalls c script w
  | .typeScript config => [.ofRun c ("tsc -p " ++ config) w]
  | .test (.command command) => [.ofRun c command w]
  | .test (.script script) => scriptCalls c script w
  | .finish _ => []
  | .unknown _ => []

/-- The calls that steps demand when their turns come one after the other. -/
def callsOf (policy : StderrPolicy) (w : σ) (ns : List StepNode) : List (Call σ) :=
  (turns c policy w ns).flatMap fun turn => turn.node.calls c turn.world

end

/-- An answer in a world that keeps a list of calls. -/
def Answer.withCalls {σ α : Type} (answer : Answer σ α) (calls : List (Call σ)) :
    Answer (σ × List (Call σ)) α :=
  ⟨answer.result, answer.log, (answer.world, calls)⟩

section

variable {σ : Type} {c : Collaborators σ} {policy : StderrPolicy}

/-- A step that runs a command records that call. -/
lemma performCommand_recorded (step command : String) (w : σ) (calls : List (Call σ)) :
    performCommand c.recorded policy step command (w, calls) =
      (performCommand c policy step command w).withCalls (calls ++ [.ofRun c command w]) :=
  rfl

/-- A step that runs a script records the calls for that script. -/
lemma performScript_recorded (step script : String) (w : σ) (calls : List (Call σ)) :
    performScript c.recorded policy step script (w, calls) =
      (performScript c policy step script w).withCalls (calls ++ scriptCalls c script w) := by
  cases found : (c.lookup script w).result with
  | error e =>
    simp [performScript, Collaborators.recorded, found, Answer.withCalls, scriptCalls]
  | ok command =>
    simp [performScript, performCommand, Collaborators.recorded, found, Answer.withCalls,
      scriptCalls]

/-- A step records the calls that it demands, and what comes of it is the same. -/
lemma StepNode.perform_recorded (n : StepNode) (w : σ) (calls : List (Call σ)) :
    n.perform c.recorded policy (w, calls) =
      (n.perform c policy w).withCalls (calls ++ n.calls c w) := by
  have none (step : String) (kind : StepKind) :
      refuseStep step kind (w, calls) = (refuseStep step kind w).withCalls (calls ++ []) := by
    rw [List.append_nil]
    rfl
  unfold StepNode.perform StepNode.calls
  cases n.kind with
  | build script => exact performScript_recorded ..
  | typeScript config => exact performCommand_recorded ..
  | test source =>
    cases source with
    | command command => exact performCommand_recorded ..
    | script script => exact performScript_recorded ..
  | finish result => exact none ..
  | unknown tag => exact none ..

/-- The calls for a script lead from the world before them to the one that the step leaves. -/
lemma consecutive_scriptCalls (step script : String) (w : σ) :
    Consecutive w (scriptCalls c script w) (performScript c policy step script w).world := by
  cases found : (c.lookup script w).result with
  | error e =>
    simp only [scriptCalls, performScript, found]
    exact .cons .nil
  | ok command =>
    simp only [scriptCalls, performScript, found]
    exact .cons (.cons .nil)

/-- The calls of a step lead from the world before it to the one that the step leaves. -/
lemma StepNode.consecutive_calls (n : StepNode) (w : σ) :
    Consecutive w (n.calls c w) (n.leaves c policy w) := by
  unfold StepNode.leaves StepNode.perform StepNode.calls
  cases n.kind with
  | build script => exact consecutive_scriptCalls ..
  | typeScript config => exact .cons .nil
  | test source =>
    cases source with
    | command command => exact .cons .nil
    | script script => exact consecutive_scriptCalls ..
  | finish result => exact .nil
  | unknown tag => exact .nil

/-- Whether a step succeeds does not depend on a list of calls. -/
lemma StepNode.succeeds_recorded (n : StepNode) (w : σ) (calls : List (Call σ)) :
    n.succeeds c.recorded policy (w, calls) = n.succeeds c policy w := by
  rw [StepNode.succeeds, n.perform_recorded]
  rfl

/-- A step leaves the world that it does without a list of calls, and the list with its calls. -/
lemma StepNode.leaves_recorded (n : StepNode) (w : σ) (calls : List (Call σ)) :
    n.leaves c.recorded policy (w, calls) = (n.leaves c policy w, calls ++ n.calls c w) := by
  unfold StepNode.leaves
  cases unknown : n.kind.isUnknown with
  | true =>
    obtain ⟨tag, kind⟩ := StepKind.eq_unknown_of_isUnknown unknown
    simp [StepNode.calls, kind]
  | false =>
    rw [n.perform_recorded]
    rfl

/-- The notices of a step do not depend on a list of calls. -/
lemma Graph.notices_block_recorded (g : Graph) (n : StepNode) (w : σ) (calls : List (Call σ)) :
    (g.block c.recorded policy n (w, calls)).notices = (g.block c policy n w).notices := by
  unfold Graph.block
  rw [n.perform_recorded]
  cases n.kind <;> rfl

variable {g : Graph} {target : Target} {w : σ} {ns : List StepNode} {t : Terminal}

/-- The calls of some steps come before those of the steps after them. -/
lemma callsOf_append (policy : StderrPolicy) (w : σ) (before after : List StepNode) :
    callsOf c policy w (before ++ after) =
      callsOf c policy w before ++ callsOf c policy (worldAfter c policy w before) after := by
  rw [callsOf, turns_append, List.flatMap_append]
  rfl

/-- The calls of steps lead from the world before them to the one after them. -/
lemma consecutive_callsOf (w : σ) (ns : List StepNode) :
    Consecutive w (callsOf c policy w ns) (worldAfter c policy w ns) := by
  induction ns generalizing w with
  | nil => exact .nil
  | cons n ns ih => exact (n.consecutive_calls w).append (ih (n.leaves c policy w))

/-- Steps leave the list of calls with all their calls. -/
lemma worldAfter_recorded (w : σ) (ns : List StepNode) (calls : List (Call σ)) :
    worldAfter c.recorded policy (w, calls) ns =
      (worldAfter c policy w ns, calls ++ callsOf c policy w ns) := by
  induction ns generalizing w calls with
  | nil => simp [worldAfter, callsOf, turns]
  | cons n ns ih => simp [worldAfter, callsOf, turns, n.leaves_recorded, ih]

/-- The notices of steps do not depend on a list of calls. -/
lemma Graph.noticesOf_recorded (g : Graph) (w : σ) (ns : List StepNode) (calls : List (Call σ)) :
    g.noticesOf c.recorded policy (w, calls) ns = g.noticesOf c policy w ns := by
  induction ns generalizing w calls with
  | nil => rfl
  | cons n ns ih =>
    rw [g.noticesOf_cons, g.noticesOf_cons, g.notices_block_recorded, n.leaves_recorded, ih]

/-- A run that records its calls has those of its steps in the end, and is the same otherwise. -/
lemma Graph.passage_recorded (g : Graph) (policy : StderrPolicy) (id : ExecutionId) (w : σ)
    (ns : List StepNode) (t : Terminal) :
    g.passage c.recorded policy id (w, []) ns t =
      ⟨g.openingNotices id ++ (g.noticesOf c policy w ns ++ finishNotices id t),
        ns.map StepNode.name, t, (worldAfter c policy w ns, callsOf c policy w ns)⟩ := by
  rw [passage, g.noticesOf_recorded, worldAfter_recorded]
  rfl

/-- A course is one for collaborators that record their calls, too. -/
lemma Course.recorded (h : Course c policy g target w ns t) (calls : List (Call σ)) :
    Course c.recorded policy g target (w, calls) ns t := by
  induction h generalizing calls with
  | stop => exact .stop
  | @turn position n w ns t here _ ih =>
    apply Course.turn here
    rw [n.succeeds_recorded, n.leaves_recorded]
    exact ih _

end

/-- The calls of a run are those that the executed steps demand, step by step in their order: a run
with collaborators that record their calls is the same run, and these are the calls in its list.
Each call is made in the world that the call before has left. -/
theorem run_recorded {root : String} {r : Registry} {g : Graph} (h : Graph.compile root r = .ok g)
    {σ : Type} (c : Collaborators σ) (policy : StderrPolicy) (id : ExecutionId) (w : σ) :
    ∃ p ns, g.run c policy id w = some p ∧
      ns.map StepNode.name = p.executed ∧ (∀ n ∈ ns, n ∈ g.nodes) ∧
      g.run c.recorded policy id (w, []) =
        some ⟨p.notices, p.executed, p.terminal, (p.world, callsOf c policy w ns)⟩ ∧
      Consecutive w (callsOf c policy w ns) p.world := by
  have d := Graph.depicts_of_compile h
  obtain ⟨ns, t, course, run⟩ := run_of_compile h c policy id w
  refine ⟨_, ns, run, rfl, course.mem, ?_, consecutive_callsOf w ns⟩
  rw [Graph.run, runFrom_of_course (course.recorded []) id (course.length_le d),
    g.noticesOf_recorded, worldAfter_recorded]
  rfl

/-- A run of the diamond in which every second command fails makes the calls of its steps. -/
theorem run_recorded_diamond :
    Graph.compile "a" Graph.diamondRegistry = .ok Graph.diamond ∧
    ∃ p ns, Graph.diamond.run alternating .fail .nil 1 = some p ∧
      ns.map StepNode.name = p.executed ∧ (∀ n ∈ ns, n ∈ Graph.diamond.nodes) ∧
      Graph.diamond.run alternating.recorded .fail .nil (1, []) =
        some ⟨p.notices, p.executed, p.terminal, (p.world, callsOf alternating .fail 1 ns)⟩ ∧
      Consecutive 1 (callsOf alternating .fail 1 ns) p.world :=
  ⟨Graph.compile_diamond, run_recorded Graph.compile_diamond alternating .fail .nil 1⟩

end Pipeline
