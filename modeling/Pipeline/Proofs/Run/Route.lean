import Pipeline.Proofs.Run.Decision
import Pipeline.Proofs.Run.Events

/-!
# Routes of runs

Two runs of a graph that decide alike go the same way (`run_concur`), however different the worlds
are in which they perform their steps. Where they decide differently it does not matter as long as
both edges of the step are one, as they are for a step that goes on to a named step after a success
and `continue`s after a failure (`Depicts.next_eq_of_onward`).
-/

namespace Pipeline

/-- Two runs decide alike: the same step at the same position either fails in both since its type is
unknown, or has one target for both its edges, or succeeds in both or fails in both. -/
def Concur (decided decided' : List (StepNode × Bool)) : Prop :=
  ∀ (i : Nat) (n : StepNode) (success success' : Bool),
    decided[i]? = some (n, success) → decided'[i]? = some (n, success') →
    n.kind.isUnknown = true ∨ n.onSuccess = n.onFailure ∨ success = success'

/-- The starts of steps among the events of notices. -/
def startsOf (notices : List Notice) : List Event :=
  (eventsOf notices).filter Event.isStart

/-- The start of the step of a node. -/
def StepNode.started (n : StepNode) : Event :=
  .stepStarted n.sequence n.name n.kind.tag

/-- The starts keep their order when notices are put together. -/
lemma startsOf_append (ns ms : List Notice) : startsOf (ns ++ ms) = startsOf ns ++ startsOf ms := by
  rw [startsOf, eventsOf_append, List.filter_append]
  rfl

/-- The events of a step start it once. -/
lemma Event.OfStep.starts {n : StepNode} {next : String} {block : List Event}
    (h : OfStep n next block) : block.filter Event.isStart = [n.started] := by
  cases h <;> rfl

/-- Runs that decide alike go on to decide alike after their first steps. -/
lemma Concur.tail {decision decision' : StepNode × Bool} {decided decided' : List (StepNode × Bool)}
    (h : Concur (decision :: decided) (decision' :: decided')) : Concur decided decided' :=
  fun i => h (i + 1)

section

variable {σ : Type} {c : Collaborators σ} {policy : StderrPolicy} {w : σ} {g : Graph}
  {target : Target} {ns : List StepNode} {t : Terminal}

/-- The starts among the notices of steps are those of the steps. -/
lemma startsOf_noticesOf (g : Graph) (w : σ) (ns : List StepNode) :
    startsOf (g.noticesOf c policy w ns) = ns.map StepNode.started := by
  induction ns generalizing w with
  | nil => rfl
  | cons n ns ih =>
    rw [g.noticesOf_cons, startsOf_append, ih, List.map_cons]
    rw [startsOf, (g.block_events c policy n w).starts]
    rfl

/-- The starts among the notices of a passage are those of the steps that it goes through. -/
lemma startsOf_passage (id : ExecutionId) (w : σ) (ns : List StepNode) (t : Terminal) :
    startsOf (g.passage c policy id w ns t).notices = ns.map StepNode.started := by
  have opening : startsOf (g.openingNotices id) = [] := rfl
  have finish : startsOf (Graph.finishNotices id t) = [] := rfl
  rw [Graph.passage, startsOf_append, startsOf_append, opening, finish, startsOf_noticesOf,
    List.nil_append, List.append_nil]

variable {σ' : Type} {c' : Collaborators σ'} {policy' : StderrPolicy} {w' : σ'}

/-- Where two runs decide alike about a step, it leads both of them to the same target. -/
lemma Concur.next_eq {n : StepNode} {decided decided' : List (StepNode × Bool)}
    (h : Concur ((n, n.succeeds c policy w) :: decided) ((n, n.succeeds c' policy' w') :: decided')) :
    n.next (n.succeeds c policy w) = n.next (n.succeeds c' policy' w') := by
  rcases h 0 n _ _ rfl rfl with unknown | one | same
  · rw [StepNode.succeeds_of_unknown unknown, StepNode.succeeds_of_unknown unknown]
  · simp [StepNode.next, one]
  · rw [same]

/-- Courses from one target that decide alike go through the same steps to the same terminal. -/
lemma Course.eq_of_concur {ns' : List StepNode} {t' : Terminal}
    (h : Course c policy g target w ns t) (h' : Course c' policy' g target w' ns' t')
    (concur : Concur (decisions c policy w ns) (decisions c' policy' w' ns')) :
    ns = ns' ∧ t = t' := by
  -- the worlds may part at once, so the second course is taken in any world
  induction h generalizing w' ns' with
  | stop =>
    cases h'
    exact ⟨rfl, rfl⟩
  | turn here _ ih =>
    cases h' with
    | turn here' rest' =>
      obtain rfl := Option.some.inj (here.symm.trans here')
      rw [← concur.next_eq] at rest'
      obtain ⟨rfl, rfl⟩ := ih rest' concur.tail
      exact ⟨rfl, rfl⟩

end

namespace Graph

variable {root : String} {r : Registry} {g : Graph}

/-- Targets that stand for one station are one, when no two nodes have the same name. -/
lemma target_unique (distinct : (g.nodes.map StepNode.name).Nodup) {target target' : Target}
    {station : Station} (stands : g.station? target = some station)
    (stands' : g.station? target' = some station) : target = target' := by
  cases station with
  | terminal t => rw [eq_terminal stands, eq_terminal stands']
  | step name kind =>
    obtain ⟨position, n, rfl, here, named, -⟩ := eq_step stands
    obtain ⟨position', n', rfl, here', named', -⟩ := eq_step stands'
    rw [position_unique distinct here here' (named.trans named'.symm)]

/-- Both edges of a step are one when it goes on to a name after a success, and after a failure
too. -/
lemma Depicts.next_eq_of_onward (d : g.Depicts r root)
    (distinct : (g.nodes.map StepNode.name).Nodup) {n : StepNode} (mem : n ∈ g.nodes)
    {record : StepRecord} (found : r.find? n.name = some record)
    (onward : record.failure = .onward) {next : String} (route : record.success = .named next) :
    n.onSuccess = n.onFailure := by
  have both : ∀ success, record.route success = .named next := by
    intro success
    cases success <;> simp [StepRecord.route, StepRecord.effectiveFailure, onward, route]
  obtain ⟨station, after, stands⟩ := d.next n mem true
  obtain ⟨station', after', stands'⟩ := d.next n mem false
  rw [Registry.stationAfter?_of_find? found, both] at after after'
  obtain rfl := Option.some.inj (after.symm.trans after')
  exact target_unique distinct stands stands'

end Graph

/-- Two runs of a compiled graph, in any two worlds, that decide alike execute the same steps, with
the same starts, and end in the same terminal. What comes of a step that `continue`s to the named
step that it goes on to after a success decides nothing. -/
theorem run_concur {root : String} {r : Registry} {g : Graph} (h : Graph.compile root r = .ok g)
    {σ σ' : Type} (c : Collaborators σ) (c' : Collaborators σ') (policy policy' : StderrPolicy)
    (id id' : ExecutionId) (w : σ) (w' : σ') :
    ∃ p p', g.run c policy id w = some p ∧ g.run c' policy' id' w' = some p' ∧
      (Concur (decisions c policy w (g.stepsOf p)) (decisions c' policy' w' (g.stepsOf p')) →
        p.executed = p'.executed ∧ startsOf p.notices = startsOf p'.notices ∧
          p.terminal = p'.terminal) ∧
      ∀ n ∈ g.nodes, ∀ record next, r.find? n.name = some record → record.failure = .onward →
        record.success = .named next → n.onSuccess = n.onFailure := by
  have d := Graph.depicts_of_compile h
  obtain ⟨ns, t, course, run, steps⟩ := run_stepsOf h c policy id w
  obtain ⟨ns', t', course', run', steps'⟩ := run_stepsOf h c' policy' id' w'
  refine ⟨_, _, run, run', ?_, ?_⟩
  · rw [steps, steps']
    intro concur
    obtain ⟨rfl, rfl⟩ := course.eq_of_concur course' concur
    exact ⟨rfl, by rw [startsOf_passage, startsOf_passage], rfl⟩
  · intro n mem record next found onward route
    exact d.next_eq_of_onward (Graph.nodup_of_compile h) mem found onward route

/-- Collaborators that know every script and cannot start any command. -/
def refusing : Collaborators Unit where
  lookup script w := ⟨.ok script, [], w⟩
  run command w := ⟨.error ⟨command, "refused"⟩, [], w⟩

/-- A run of the diamond in which every second command fails and one in which none can be started go
the same way, although its step `c` succeeds in the first run only. -/
theorem run_concur_diamond :
    Graph.compile "a" Graph.diamondRegistry = .ok Graph.diamond ∧
    ∃ p p', Graph.diamond.run alternating .fail .nil 1 = some p ∧
      Graph.diamond.run refusing .ignore .nil () = some p' ∧
      Concur (decisions alternating .fail 1 (Graph.diamond.stepsOf p))
        (decisions refusing .ignore () (Graph.diamond.stepsOf p')) ∧
      p.executed = p'.executed ∧ startsOf p.notices = startsOf p'.notices ∧
      p.terminal = p'.terminal := by
  obtain ⟨p, p', run, run', same, -⟩ :=
    run_concur Graph.compile_diamond alternating refusing .fail .ignore .nil .nil 1 ()
  have executed : (Graph.diamond.run alternating .fail .nil 1).map Passage.executed =
      some ["a", "c", "d"] := by decide
  have executed' : (Graph.diamond.run refusing .ignore .nil ()).map Passage.executed =
      some ["a", "c", "d"] := by decide
  rw [run, Option.map_some, Option.some.injEq] at executed
  rw [run', Option.map_some, Option.some.injEq] at executed'
  have concur : Concur (decisions alternating .fail 1 (Graph.diamond.stepsOf p))
      (decisions refusing .ignore () (Graph.diamond.stepsOf p')) := by
    rw [Graph.stepsOf, Graph.stepsOf, executed, executed']
    intro i n success success' decided decided'
    match i with
    | 0 =>
      cases decided
      cases decided'
      exact .inr (.inr rfl)
    | 1 =>
      cases decided
      exact .inr (.inl rfl)
    | 2 =>
      cases decided
      cases decided'
      exact .inr (.inr rfl)
    | i + 3 => cases decided
  exact ⟨Graph.compile_diamond, p, p', run, run', concur, same concur⟩

end Pipeline
