import Pipeline.Proofs.Graph.Nodes
import Pipeline.Run.Engine

/-!
# Courses of runs

What a run does without a bound on its steps: from a target it goes through steps one after the
other, each in the world that the step before has left, until an edge leads to a terminal
(`Course`). A run that may take as many steps as a course has follows it (`runFrom_of_course`), and
from the root of a compiled graph there is a course in every world, since names are grounded
(`exists_course_of_compile`). Each step of a course leads to those after it, so none comes twice
(`Course.nodup`).
-/

namespace Pipeline

/-- Whether a step is of a type that nothing here performs. -/
def StepKind.isUnknown : StepKind → Bool
  | .unknown _ => true
  | _ => false

/-- A kind that nothing here performs has a type tag that is not known. -/
lemma StepKind.eq_unknown_of_isUnknown {kind : StepKind} (h : kind.isUnknown = true) :
    ∃ tag, kind = .unknown tag := by
  cases kind with
  | unknown tag => exact ⟨tag, rfl⟩
  | _ => cases h

section

variable {σ : Type} (c : Collaborators σ) (policy : StderrPolicy)

/-- Whether a step succeeds in a world: its type is known, and performing it is a success. -/
def StepNode.succeeds (n : StepNode) (w : σ) : Bool :=
  !n.kind.isUnknown && (n.perform c policy w).result.isSuccess

/-- The world that a step leaves; a step of an unknown type is not performed. -/
def StepNode.leaves (n : StepNode) (w : σ) : σ :=
  if n.kind.isUnknown then w else (n.perform c policy w).world

/-- A step, and the world in which its turn comes. -/
structure Turn (σ : Type) where
  node : StepNode
  world : σ

/-- The turns of steps that come one after the other, each in the world that the last one left. -/
def turns : σ → List StepNode → List (Turn σ)
  | _, [] => []
  | w, n :: ns => ⟨n, w⟩ :: turns (n.leaves c policy w) ns

/-- Which of the steps that come one after the other succeed. -/
def successes (w : σ) (ns : List StepNode) : List Bool :=
  (turns c policy w ns).map fun turn => turn.node.succeeds c policy turn.world

/-- The world after steps that come one after the other. -/
def worldAfter : σ → List StepNode → σ
  | w, [] => w
  | w, n :: ns => worldAfter (n.leaves c policy w) ns

/-- What steps lie between a target in a world and the terminal at the end. -/
inductive Course (g : Graph) : Target → σ → List StepNode → Terminal → Prop where
  | stop {t w} :
    Course g (.terminal t) w [] t
  | turn {position n w ns t} :
    g.node? position = some n →
    Course g (n.next (n.succeeds c policy w)) (n.leaves c policy w) ns t →
    Course g (.step position) w (n :: ns) t

end

section

variable {σ : Type} {c : Collaborators σ} {policy : StderrPolicy}

/-- A step of an unknown type never succeeds. -/
lemma StepNode.succeeds_of_unknown {n : StepNode} (h : n.kind.isUnknown = true) (w : σ) :
    n.succeeds c policy w = false := by
  simp [StepNode.succeeds, h]

/-- A step of a known type succeeds when performing it is a success. -/
lemma StepNode.succeeds_of_known {n : StepNode} (h : n.kind.isUnknown = false) (w : σ) :
    n.succeeds c policy w = (n.perform c policy w).result.isSuccess := by
  simp [StepNode.succeeds, h]

/-- One step of a run succeeds when the step does. -/
lemma Graph.block_success (g : Graph) (n : StepNode) (w : σ) :
    (g.block c policy n w).success = n.succeeds c policy w := by
  unfold Graph.block StepNode.succeeds
  cases n.kind <;> rfl

/-- One step of a run leaves the world that the step does. -/
lemma Graph.block_world (g : Graph) (n : StepNode) (w : σ) :
    (g.block c policy n w).world = n.leaves c policy w := by
  unfold Graph.block StepNode.leaves
  cases n.kind <;> rfl

/-- The notices of a step of a known type are those of its start, its log and what comes of it. -/
lemma Graph.notices_block_of_known (g : Graph) {n : StepNode}
    (known : n.kind.isUnknown = false) (w : σ) :
    (g.block c policy n w).notices = startNotices n ++ (n.perform c policy w).log.map .log ++
      (g.outcomeEvents n (n.perform c policy w).result).map .event := by
  unfold Graph.block
  cases kind : n.kind with
  | unknown tag => simp [kind, StepKind.isUnknown] at known
  | _ => rfl

/-- The notices of a step of an unknown type are those of its start, a warning and an event. -/
lemma Graph.notices_block_of_unknown (g : Graph) {n : StepNode} {tag : String}
    (kind : n.kind = .unknown tag) (w : σ) :
    (g.block c policy n w).notices = startNotices n ++
      [.log (.warn ("Unknown step type: " ++ tag ++ " (step " ++ n.name ++ ")")),
        .event (.unknownStepType n.name tag (g.targetName n.onFailure))] := by
  unfold Graph.block
  rw [kind]

/-- The notices of steps that come one after the other. -/
def Graph.noticesOf (c : Collaborators σ) (policy : StderrPolicy) (g : Graph) (w : σ)
    (ns : List StepNode) : List Notice :=
  (turns c policy w ns).flatMap fun turn => (g.block c policy turn.node turn.world).notices

/-- The turns of steps after other steps begin in the world that these have left. -/
lemma turns_append (w : σ) (before after : List StepNode) :
    turns c policy w (before ++ after) =
      turns c policy w before ++ turns c policy (worldAfter c policy w before) after := by
  induction before generalizing w with
  | nil => rfl
  | cons n before ih =>
    rw [List.cons_append, turns, turns, ih]
    rfl

/-- The notices of the first step come before those of the steps after it. -/
lemma Graph.noticesOf_cons (g : Graph) (w : σ) (n : StepNode) (ns : List StepNode) :
    g.noticesOf c policy w (n :: ns) =
      (g.block c policy n w).notices ++ g.noticesOf c policy (n.leaves c policy w) ns :=
  List.flatMap_cons

/-- What a run brings about when it goes through steps to a terminal. -/
def Graph.passage (c : Collaborators σ) (policy : StderrPolicy) (g : Graph) (id : ExecutionId)
    (w : σ) (ns : List StepNode) (t : Terminal) : Passage σ where
  notices := g.openingNotices id ++ (g.noticesOf c policy w ns ++ Graph.finishNotices id t)
  executed := ns.map StepNode.name
  terminal := t
  world := worldAfter c policy w ns

/-- The notices of some steps come before those of the steps after them. -/
lemma Graph.noticesOf_append (g : Graph) (w : σ) (before after : List StepNode) :
    g.noticesOf c policy w (before ++ after) =
      g.noticesOf c policy w before ++
        g.noticesOf c policy (worldAfter c policy w before) after := by
  rw [noticesOf, turns_append, List.flatMap_append]
  rfl

variable {g : Graph} {target : Target} {w : σ} {ns : List StepNode} {t : Terminal}

/-- A run that may take enough steps follows its course. -/
lemma runFrom_of_course (h : Course c policy g target w ns t) (id : ExecutionId) {steps : Nat}
    (enough : ns.length ≤ steps) :
    g.runFrom c policy id steps target w =
      some ⟨g.noticesOf c policy w ns ++ Graph.finishNotices id t, ns.map StepNode.name, t,
        worldAfter c policy w ns⟩ := by
  induction h generalizing steps with
  | stop => cases steps <;> rfl
  | @turn position n w ns t here _ ih =>
    cases steps with
    | zero => cases enough
    | succ steps =>
      have rest := ih (Nat.le_of_succ_le_succ enough)
      simp only [Graph.runFrom, here, g.block_success, g.block_world, rest, Option.map_some]
      rw [g.noticesOf_cons, List.append_assoc]
      rfl

/-- The steps of a course have nodes. -/
lemma Course.mem (h : Course c policy g target w ns t) : ∀ n ∈ ns, n ∈ g.nodes := by
  induction h with
  | stop => exact fun n mem => absurd mem List.not_mem_nil
  | turn here _ ih =>
    intro n mem
    rcases List.mem_cons.1 mem with rfl | mem
    · exact List.mem_of_getElem? here
    · exact ih n mem

/-- A course from the position of a node begins with the step of that node. -/
lemma Course.head {position : Nat} {n : StepNode}
    (h : Course c policy g (.step position) w ns t) (here : g.node? position = some n) :
    ∃ rest, ns = n :: rest := by
  cases h with
  | turn there _ =>
    obtain rfl := Option.some.inj (here.symm.trans there)
    exact ⟨_, rfl⟩

variable {r : Registry} {root : String}

/-- Each step of a course leads to all that come after it. -/
lemma Course.leadsTo (d : g.Depicts r root) (h : Course c policy g target w ns t) :
    ns.Pairwise fun m n => r.LeadsTo m.name n.name := by
  induction h with
  | stop => exact .nil
  | @turn position n w ns t here rest ih =>
    refine List.pairwise_cons.2 ⟨?_, ih⟩
    -- the step refers to the one after it, which leads to the others
    rcases d.next_cases (List.mem_of_getElem? here) (n.succeeds c policy w) with
      ⟨t', next⟩ | ⟨position', m, next, there, refers⟩
    · rw [next] at rest
      cases rest
      exact fun m mem => absurd mem List.not_mem_nil
    · rw [next] at rest
      obtain ⟨more, rfl⟩ := rest.head there
      intro k mem
      rcases List.mem_cons.1 mem with rfl | mem
      · exact .one refers
      · exact .cons refers (List.rel_of_pairwise_cons ih mem)

/-- No step comes twice on a course. -/
lemma Course.nodup (d : g.Depicts r root) (h : Course c policy g target w ns t) :
    (ns.map StepNode.name).Nodup := by
  rw [List.nodup_iff_pairwise_ne, List.pairwise_map]
  refine (h.leadsTo d).imp_of_mem ?_
  intro m n mem _ leads same
  -- a step that came again would lead to itself
  rw [← same] at leads
  exact (d.grounded m (h.mem m mem)).not_leadsTo leads

/-- A course has at most as many steps as the graph. -/
lemma Course.length_le (d : g.Depicts r root) (h : Course c policy g target w ns t) :
    ns.length ≤ g.size := by
  have distinct : ns.Nodup := (h.nodup d).of_map
  exact (List.subperm_of_subset distinct h.mem).length_le

/-- From the node of a grounded name there is a course in every world. -/
lemma exists_course_of_grounded (d : g.Depicts r root) {name : String} (grounded : r.Grounded name)
    {position : Nat} {n : StepNode} (here : g.node? position = some n) (named : n.name = name)
    (w : σ) : ∃ ns t, Course c policy g (.step position) w ns t := by
  -- the outcome of a step depends on the world, so the induction is for all worlds at once
  induction grounded using Registry.Grounded.descend generalizing position n w with
  | step name _ ih =>
    subst named
    rcases d.next_cases (List.mem_of_getElem? here) (n.succeeds c policy w) with
      ⟨t, next⟩ | ⟨position', m, next, there, refers⟩
    · exact ⟨[n], t, .turn here (next ▸ .stop)⟩
    · obtain ⟨ns, t, course⟩ := ih m.name refers there rfl (n.leaves c policy w)
      exact ⟨n :: ns, t, .turn here (next ▸ course)⟩

/-- From the root of a compiled graph there is a course in every world. -/
lemma exists_course_of_compile (h : Graph.compile root r = .ok g) (c : Collaborators σ)
    (policy : StderrPolicy) (w : σ) : ∃ ns t, Course c policy g g.root w ns t := by
  have d := Graph.depicts_of_compile h
  rcases d.root_cases with ⟨t, start⟩ | ⟨position, n, start, here⟩
  · exact ⟨[], t, start ▸ .stop⟩
  · rw [start]
    have grounded := d.grounded n (List.mem_of_getElem? here)
    exact exists_course_of_grounded d grounded here rfl w

/-- A run of a compiled graph follows the course from its root. -/
lemma run_of_course (d : g.Depicts r root) (h : Course c policy g g.root w ns t)
    (id : ExecutionId) : g.run c policy id w = some (g.passage c policy id w ns t) := by
  rw [Graph.run, runFrom_of_course h id (h.length_le d)]
  rfl

/-- A run of a compiled graph follows a course from its root. -/
lemma run_of_compile (h : Graph.compile root r = .ok g) (c : Collaborators σ)
    (policy : StderrPolicy) (id : ExecutionId) (w : σ) : ∃ ns t, Course c policy g g.root w ns t ∧
      g.run c policy id w = some (g.passage c policy id w ns t) := by
  obtain ⟨ns, t, course⟩ := exists_course_of_compile h c policy w
  exact ⟨ns, t, course, run_of_course (Graph.depicts_of_compile h) course id⟩

end

/-- Collaborators that count the commands that were run: every script is a command of its own name,
and every second command fails. -/
def alternating : Collaborators Nat where
  lookup script w := ⟨.ok script, [], w⟩
  run _ w := ⟨.ok { exitCode := some (w % 2 : Nat) }, [], w + 1⟩

end Pipeline
