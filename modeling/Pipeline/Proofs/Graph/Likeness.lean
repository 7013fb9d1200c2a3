import Pipeline.Proofs.Graph.Simulation
import Pipeline.Proofs.Step.Agreement

/-!
# Edges that no visit can tell apart

A visit learns little of the records that it comes to: of an end its name and result, of a step on
the path its name, of a step that gets a node its name, its kind and where its edges lead, and of
the failure edge only where the success edge is no error. A relation between the edges of two
registries that answers for all this is a likeness. What an edge is resolved to in one registry, an
edge that is like it is resolved to in the other (`Resolves.transfer`), so compiling from records
that are alike gives the same graph or the same error (`Graph.compile_eq_of_likeness`).
-/

namespace Pipeline

namespace Visit

/-- A relation between edges of two registries, below a path of names, that keeps all that a visit
can learn of an edge. -/
structure Likeness (r r' : Registry)
    (like : List String → Except ConfigError Edge → Except ConfigError Edge → Prop) : Prop where
  error : ∀ {path e edge}, like path (.error e) edge → edge = .error e
  terminal : ∀ {path t edge}, like path (.ok (.terminal t)) edge → edge = .ok (.terminal t)
  finish : ∀ {path a edge result}, like path (.ok (.record a)) edge → a.kind = .finish result →
    ∃ b, edge = .ok (.record b) ∧ b.name = a.name ∧ b.kind = .finish result
  step : ∀ {path a edge}, like path (.ok (.record a)) edge → a.kind.isFinish = false →
    ∃ b, edge = .ok (.record b) ∧ b.name = a.name ∧ b.kind.isFinish = false ∧
      (a.name ∉ path → b.kind = a.kind ∧
        like (a.name :: path) (a.edge r true) (b.edge r' true) ∧
        ((∀ e, a.edge r true ≠ .error e) →
          like (a.name :: path) (a.edge r false) (b.edge r' false)))

/-- Two records that are alike get one node each, of one name and one kind, or neither does. -/
lemma Likeness.opens {r r' : Registry}
    {like : List String → Except ConfigError Edge → Except ConfigError Edge → Prop}
    (keeps : Likeness r r' like) {path : List String} {a : StepRecord}
    {edge : Except ConfigError Edge} {p : Progress} (here : like path (.ok (.record a)) edge)
    (fresh : Fresh path a p) :
    ∃ b, edge = .ok (.record b) ∧ Fresh path b p ∧ b.name = a.name ∧ p.reserve b = p.reserve a ∧
      like (a.name :: path) (a.edge r true) (b.edge r' true) ∧
      ((∀ e, a.edge r true ≠ .error e) →
        like (a.name :: path) (a.edge r false) (b.edge r' false)) := by
  obtain ⟨b, rfl, name, notFinish, opens⟩ := keeps.step here fresh.notFinish
  obtain ⟨kind, success, failure⟩ := opens fresh.off
  have reserve : p.reserve b = p.reserve a := by
    rw [Progress.reserve, name, kind, ← Progress.reserve]
  exact ⟨b, rfl, ⟨notFinish, name ▸ fresh.off, name ▸ fresh.unbound⟩, name, reserve, success,
    failure⟩

/-- Where an edge is resolved to a target, it is no error. -/
lemma Resolves.ne_error {r : Registry} {path : List String} {edge : Except ConfigError Edge}
    {p : Progress} {found : Target × Progress} (h : Resolves r path edge p (.ok found))
    (e : ConfigError) : edge ≠ .error e := by
  rintro rfl
  cases h

/-- What an edge is resolved to in one registry, an edge that is like it is resolved to in the
other. -/
lemma Resolves.transfer {r r' : Registry}
    {like : List String → Except ConfigError Edge → Except ConfigError Edge → Prop}
    (keeps : Likeness r r' like) {path : List String} {edge edge' : Except ConfigError Edge}
    {p : Progress} {result : Except ConfigError (Target × Progress)}
    (h : Resolves r path edge p result) (here : like path edge edge') :
    Resolves r' path edge' p result := by
  induction h generalizing edge' with
  | dangling =>
    obtain rfl := keeps.error here
    exact .dangling
  | terminal =>
    obtain rfl := keeps.terminal here
    exact .terminal
  | finish kind =>
    obtain ⟨b, rfl, name, kind'⟩ := keeps.finish here kind
    rw [← name]
    exact .finish kind'
  | cycle notFinish on =>
    obtain ⟨b, rfl, name, notFinish', -⟩ := keeps.step here notFinish
    rw [← name] at on ⊢
    exact .cycle notFinish' on
  | bound notFinish off position =>
    obtain ⟨b, rfl, name, notFinish', -⟩ := keeps.step here notFinish
    rw [← name] at off position
    exact .bound notFinish' off position
  | success fresh _ ih =>
    obtain ⟨b, rfl, fresh', name, reserve, success, -⟩ := keeps.opens here fresh
    apply Resolves.success fresh'
    rw [name, reserve]
    exact ih success
  | failure fresh first _ ih ih' =>
    obtain ⟨b, rfl, fresh', name, reserve, success, failure⟩ := keeps.opens here fresh
    apply Resolves.failure fresh'
    · rw [name, reserve]
      exact ih success
    · rw [name]
      exact ih' (failure first.ne_error)
  | settle fresh first _ ih ih' =>
    obtain ⟨b, rfl, fresh', name, reserve, success, failure⟩ := keeps.opens here fresh
    apply Resolves.settle fresh'
    · rw [name, reserve]
      exact ih success
    · rw [name]
      exact ih' (failure first.ne_error)

end Visit

/-- Compiling gives the same where the root has records that are alike, or no record in either
registry. -/
lemma Graph.compile_eq_of_likeness {root : String} {r r' : Registry}
    {like : List String → Except ConfigError Edge → Except ConfigError Edge → Prop}
    (keeps : Visit.Likeness r r' like)
    (start : Option.Rel (fun a b => like [] (.ok (.record a)) (.ok (.record b)))
      (r.find? root) (r'.find? root)) : Graph.compile root r = Graph.compile root r' := by
  by_cases named : root = ""
  · rw [compile, compile, if_pos named, if_pos named]
  · rcases rel_cases start with ⟨missing, missing'⟩ | ⟨record, other, found, found', here⟩
    · rw [compile, compile, if_neg named, if_neg named, missing, missing']
    · have visits : Visit.Resolves r [] (.ok (.record record)) ⟨[]⟩ _ :=
        Visit.resolves_visit (Registry.mem_of_find? found) ⟨[]⟩
      rw [compile_of_resolves named found visits,
        compile_of_resolves named found' (visits.transfer keeps here)]

end Pipeline
