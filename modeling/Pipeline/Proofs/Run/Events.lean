import Pipeline.Proofs.Run.Course
import Pipeline.Proofs.Run.Notices
import Pipeline.Proofs.Step.Entry
import Pipeline.Run.Outcome

/-!
# The events of a run

A run tells its story by events: its start, a block for each step, and its end. Every block names
what comes next, which is what the events go on with (`Event.Tells`; specification, section 13).
Since every handler receives all events, each of them is told the same story (`run_tells`).
-/

namespace Pipeline

/-- The events of a step after which comes what is called `next`: its start, and then its output and
its success, or its failure, or that its type is unknown. -/
inductive Event.OfStep (n : StepNode) (next : String) : List Event → Prop where
  | succeeded {output} :
    OfStep n next
      [.stepStarted n.sequence n.name n.kind.tag, .stepOutput n.name output,
        .stepSucceeded n.name next]
  | failed {reason} :
    OfStep n next
      [.stepStarted n.sequence n.name n.kind.tag, .stepFailed n.name reason next]
  | unknown :
    OfStep n next
      [.stepStarted n.sequence n.name n.kind.tag, .unknownStepType n.name n.kind.tag next]

/-- The events of steps that lead to an outcome, and the name of what they begin with: a block for
each step, the name of what it begins with being what the block before calls next, and the end of
the run as the outcome has it. -/
inductive Event.Tells (o : Outcome) : List StepNode → String → List Event → Prop where
  | finished :
    Tells o [] o.terminal.name [.pipelineFinished o.id o.terminal.name o.success]
  | step {n ns next block events} :
    OfStep n next block →
    Tells o ns next events →
    Tells o (n :: ns) n.name (block ++ events)

section

variable {root : String} {r : Registry} {g : Graph}

/-- A target that leads to a node has the name of its step. -/
lemma Graph.targetName_step {position : Nat} {n : StepNode} (here : g.node? position = some n) :
    g.targetName (.step position) = n.name := by
  simp [Graph.targetName, here]

variable {σ : Type} {c : Collaborators σ} {policy : StderrPolicy} {target : Target} {w : σ}
  {ns : List StepNode} {t : Terminal}

/-- A step of an unknown type starts, and is told to be of an unknown type. -/
lemma Graph.eventsOf_block_of_unknown (g : Graph) {n : StepNode} {tag : String}
    (kind : n.kind = .unknown tag) (w : σ) :
    eventsOf (g.block c policy n w).notices =
      [.stepStarted n.sequence n.name n.kind.tag,
        .unknownStepType n.name n.kind.tag (g.targetName n.onFailure)] := by
  simp [g.notices_block_of_unknown kind, Graph.startNotices, kind, StepKind.tag]

/-- A step of a known type starts, and what comes of performing it is told. -/
lemma Graph.eventsOf_block_of_known (g : Graph) {n : StepNode} (known : n.kind.isUnknown = false)
    (w : σ) :
    eventsOf (g.block c policy n w).notices =
      .stepStarted n.sequence n.name n.kind.tag ::
        g.outcomeEvents n (n.perform c policy w).result := by
  cases kind : n.kind with
  | unknown tag => simp [kind, StepKind.isUnknown] at known
  | _ => simp [Graph.block, Graph.startNotices, kind]

/-- The events of a step are a block that calls next what the step's edge leads to. -/
lemma Graph.block_events (g : Graph) (c : Collaborators σ) (policy : StderrPolicy) (n : StepNode)
    (w : σ) :
    Event.OfStep n (g.targetName (n.next (n.succeeds c policy w)))
      (eventsOf (g.block c policy n w).notices) := by
  cases unknown : n.kind.isUnknown with
  | true =>
    obtain ⟨tag, kind⟩ := StepKind.eq_unknown_of_isUnknown unknown
    rw [g.eventsOf_block_of_unknown kind, StepNode.succeeds_of_unknown unknown]
    exact .unknown
  | false =>
    rw [g.eventsOf_block_of_known unknown, StepNode.succeeds_of_known unknown]
    cases (n.perform c policy w).result with
    | success output => exact .succeeded
    | failure reason => exact .failed

/-- The events of a course tell of its steps and begin with the name of its target. -/
lemma Course.tells (h : Course c policy g target w ns t) {o : Outcome} (ends : o.terminal = t) :
    Event.Tells o ns (g.targetName target)
      (eventsOf (g.noticesOf c policy w ns ++ Graph.finishNotices o.id t)) := by
  induction h with
  | stop =>
    subst ends
    exact .finished
  | @turn position n w ns t here _ ih =>
    rw [Graph.targetName_step here]
    rw [g.noticesOf_cons, List.append_assoc, eventsOf_append]
    exact .step (g.block_events c policy n w) (ih ends)

end

end Pipeline
