import Pipeline.Proofs.Run.Course

/-!
# Decisions of runs

Each step of a run decides by its success or failure which of its edges the run follows. What a run
has executed determines its steps (`stepsOf_passage`), and the decisions of these lead it to its
terminal: the edge that the last step decides for is the one to the terminal (`Course.last`), and a
step that decides for an edge to a terminal ends the run there (`Course.ends`).
-/

namespace Pipeline

/-- The steps that come one after the other, each with its success or failure. -/
def decisions {σ : Type} (c : Collaborators σ) (policy : StderrPolicy) (w : σ)
    (ns : List StepNode) : List (StepNode × Bool) :=
  (turns c policy w ns).map fun turn => (turn.node, turn.node.succeeds c policy turn.world)

/-- The steps that a run has executed: the nodes of their names. -/
def Graph.stepsOf {σ : Type} (g : Graph) (p : Passage σ) : List StepNode :=
  p.executed.filterMap g.find?

/-- No two nodes of a compiled graph have one name. -/
lemma Graph.nodup_of_compile {root : String} {r : Registry} {g : Graph}
    (h : Graph.compile root r = .ok g) : (g.nodes.map StepNode.name).Nodup := by
  obtain ⟨s, inv, -, nodes, -⟩ := Graph.machine_of_compile h
  rw [← nodes]
  exact inv.nodup_names

section

variable {σ : Type} {c : Collaborators σ} {policy : StderrPolicy} {g : Graph} {target : Target}
  {w : σ} {ns : List StepNode} {t : Terminal}

/-- The first step decides before those after it. -/
lemma decisions_cons (n : StepNode) :
    decisions c policy w (n :: ns) =
      (n, n.succeeds c policy w) :: decisions c policy (n.leaves c policy w) ns :=
  rfl

/-- Each of the steps decides, in their order. -/
lemma map_fst_decisions (w : σ) (ns : List StepNode) :
    (decisions c policy w ns).map Prod.fst = ns := by
  induction ns generalizing w with
  | nil => rfl
  | cons n ns ih => rw [decisions_cons, List.map_cons, ih]

/-- The steps that a passage has executed are those that it goes through. -/
lemma stepsOf_passage (distinct : (g.nodes.map StepNode.name).Nodup) (id : ExecutionId) (w : σ)
    {ns : List StepNode} (mem : ∀ n ∈ ns, n ∈ g.nodes) (t : Terminal) :
    g.stepsOf (g.passage c policy id w ns t) = ns := by
  show (ns.map StepNode.name).filterMap g.find? = ns
  induction ns with
  | nil => rfl
  | cons n ns ih =>
    obtain ⟨here, mem⟩ := List.forall_mem_cons.1 mem
    have found : g.find? n.name = some n := (Graph.find?_eq_some_iff distinct _ _).2 ⟨here, rfl⟩
    rw [List.map_cons, List.filterMap_cons_some found, ih mem]

/-- A run of a compiled graph follows a course from its root through the steps that it executes. -/
lemma run_stepsOf {root : String} {r : Registry} (h : Graph.compile root r = .ok g)
    (c : Collaborators σ) (policy : StderrPolicy) (id : ExecutionId) (w : σ) :
    ∃ ns t, Course c policy g g.root w ns t ∧
      g.run c policy id w = some (g.passage c policy id w ns t) ∧
      g.stepsOf (g.passage c policy id w ns t) = ns := by
  obtain ⟨ns, t, course, run⟩ := run_of_compile h c policy id w
  exact ⟨ns, t, course, run, stepsOf_passage (Graph.nodup_of_compile h) id w course.mem t⟩

/-- A course without steps is one from its terminal. -/
lemma Course.of_nil (h : Course c policy g target w [] t) : target = .terminal t := by
  cases h
  rfl

/-- A step that decides has a node. -/
lemma Course.mem_of_decided (h : Course c policy g target w ns t) {n : StepNode} {success : Bool}
    (decided : (n, success) ∈ decisions c policy w ns) : n ∈ g.nodes := by
  apply h.mem
  rw [← map_fst_decisions w ns]
  exact List.mem_map_of_mem decided

/-- The edge that the last step decides for leads to the terminal. -/
lemma Course.last (h : Course c policy g target w ns t) {n : StepNode} {success : Bool}
    (last : (decisions c policy w ns).getLast? = some (n, success)) :
    n.next success = .terminal t := by
  induction h with
  | stop => cases last
  | @turn position m w ns t here rest ih =>
    cases ns with
    | nil =>
      cases last
      exact rest.of_nil
    | cons m' ns =>
      rw [decisions_cons, decisions_cons, List.getLast?_cons_cons, ← decisions_cons] at last
      exact ih last

/-- A step that decides for an edge to a terminal ends the run there. -/
lemma Course.ends (h : Course c policy g target w ns t) {n : StepNode} {success : Bool}
    (mem : (n, success) ∈ decisions c policy w ns) {t' : Terminal}
    (next : n.next success = .terminal t') : t = t' := by
  induction h with
  | stop => cases mem
  | turn here rest ih =>
    rcases List.mem_cons.1 mem with same | mem
    · cases same
      rw [next] at rest
      cases rest
      rfl
    · exact ih mem

end

end Pipeline
