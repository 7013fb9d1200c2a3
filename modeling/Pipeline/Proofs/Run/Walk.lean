import Pipeline.Proofs.Run.Course
import Pipeline.Run.Outcome

/-!
# Runs as walks

A run is the walk through the graph that the steps on it choose by succeeding or failing
(`run_isWalk`; specification, section 4.2). The steps themselves are performed one after the other
in a world that each of them may change, so what a step chooses can depend on all that happened
before it.
-/

namespace Pipeline

/-- The node that a target leads to. -/
def Graph.nodeOf? (g : Graph) : Target → Option StepNode
  | .step position => g.node? position
  | .terminal _ => none

/-- The nodes that targets lead to, in their order. -/
def Graph.nodesOn (g : Graph) (targets : List Target) : List StepNode :=
  targets.filterMap g.nodeOf?

/-- An outcome is that of the walk that follows the choices: these are the successes and failures of
the steps on the walk, when they are performed one after the other from the world `w` on. -/
structure Outcome.IsWalk {σ : Type} (g : Graph) (c : Collaborators σ) (policy : StderrPolicy)
    (w : σ) (choices : List Bool) (o : Outcome) : Prop where
  /-- Every choice is whether the step there is of a known type and succeeds. -/
  chosen : successes c policy w (g.nodesOn (g.walk g.root choices)) = choices
  /-- The steps that were executed are those on the walk. -/
  executed : o.executed = (g.nodesOn (g.walk g.root choices)).map StepNode.name
  /-- The walk ends at the terminal of the outcome. -/
  terminal : (g.walk g.root choices).getLast? = some (.terminal o.terminal)
  /-- The terminal decides whether the run succeeds. -/
  success : o.success = o.terminal.result
  /-- The exit status is zero after a success and one after a failure. -/
  exitCode : o.exitCode = if o.terminal.result then 0 else 1
  /-- No step is executed twice. -/
  nodup : o.executed.Nodup
  /-- There are at most as many executed steps as steps in the graph. -/
  length_le : o.executed.length ≤ g.size

variable {σ : Type} {c : Collaborators σ} {policy : StderrPolicy} {g : Graph} {target : Target}
  {w : σ} {ns : List StepNode} {t : Terminal}

/-- A course is the walk that the successes of its steps choose, up to its terminal. -/
lemma Course.walk (h : Course c policy g target w ns t) :
    g.nodesOn (g.walk target (successes c policy w ns)) = ns ∧
      (g.walk target (successes c policy w ns)).getLast? = some (.terminal t) := by
  induction h with
  | stop => exact ⟨rfl, rfl⟩
  | @turn position n w ns t here _ ih =>
    obtain ⟨nodes, last⟩ := ih
    have walk : g.walk (.step position) (successes c policy w (n :: ns)) =
        .step position :: g.walk (n.next (n.succeeds c policy w))
          (successes c policy (n.leaves c policy w) ns) := Graph.walk_step here _ _
    rw [walk]
    constructor
    · have first : g.nodeOf? (.step position) = some n := here
      rw [Graph.nodesOn, List.filterMap_cons_some first]
      exact congrArg (n :: ·) nodes
    · rw [List.getLast?_cons, last]
      rfl

/-- A run of a compiled graph ends, whatever the steps bring about and however many steps more it
may take, and its outcome is that of the walk that the steps choose. -/
theorem run_isWalk {root : String} {r : Registry} (h : Graph.compile root r = .ok g)
    (c : Collaborators σ) (policy : StderrPolicy) (id : ExecutionId) (w : σ)
    (startedAt finishedAt : Instant) :
    ∃ p choices, g.run c policy id w = some p ∧
      (∀ steps, g.size ≤ steps →
        g.runFrom c policy id steps g.root w = g.runFrom c policy id g.size g.root w) ∧
      (Outcome.ofPassage p id startedAt finishedAt).IsWalk g c policy w choices := by
  have d := Graph.depicts_of_compile h
  obtain ⟨ns, t, course, run⟩ := run_of_compile h c policy id w
  have bound := course.length_le d
  refine ⟨g.passage c policy id w ns t, successes c policy w ns, run, ?_, ?_⟩
  · intro steps enough
    rw [runFrom_of_course course id bound, runFrom_of_course course id (bound.trans enough)]
  · obtain ⟨nodes, last⟩ := course.walk
    constructor
    case chosen => rw [nodes]
    case executed =>
      rw [nodes]
      rfl
    case terminal => exact last
    case success => rfl
    case exitCode => rfl
    case nodup => exact course.nodup d
    case length_le =>
      show (ns.map StepNode.name).length ≤ g.size
      rw [List.length_map]
      exact bound

/-- A run of the diamond in which every second command fails is a walk. -/
theorem run_isWalk_diamond :
    Graph.compile "a" Graph.diamondRegistry = .ok Graph.diamond ∧
    ∃ p choices, Graph.diamond.run alternating .fail .nil 1 = some p ∧
      (∀ steps, Graph.diamond.size ≤ steps →
        Graph.diamond.runFrom alternating .fail .nil steps Graph.diamond.root 1 =
          Graph.diamond.runFrom alternating .fail .nil Graph.diamond.size Graph.diamond.root 1) ∧
      (Outcome.ofPassage p .nil ⟨0⟩ ⟨0⟩).IsWalk Graph.diamond alternating .fail 1 choices :=
  ⟨Graph.compile_diamond, run_isWalk Graph.compile_diamond alternating .fail .nil 1 ⟨0⟩ ⟨0⟩⟩

example : (Graph.diamond.run alternating .fail .nil 1).map Passage.executed =
    some ["a", "c", "d"] := by
  decide

end Pipeline
