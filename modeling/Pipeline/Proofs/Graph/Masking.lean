import Pipeline.Proofs.Graph.Agreement

/-!
# Masked failure edges

The success edge of a step is resolved, with all that hangs on it, before its failure edge is looked
at (specification, section 12, error ordering). So where a step goes on after a success to one from
which nothing can be compiled, compiling from the step fails too, with an error that does not depend
on its failure route (`compile_withFailure`). While the success edge is resolved the step is on the
path, and coming to it again closes a cycle whatever its routes are
(`Registry.agreesBelow_withFailure`).
-/

namespace Pipeline

/-- The record with another route after a failure, and another word for it. -/
def StepRecord.withFailure (record : StepRecord) (failure : FailureRoute) (word : Option String) :
    StepRecord :=
  { record with failure := failure, failureWord := word }

namespace Registry

/-- The registry with another failure route in the first definition of a name. -/
def withFailure (r : Registry) (name : String) (failure : FailureRoute) (word : Option String) :
    Registry :=
  ⟨r.records.modify (r.records.findIdx fun record => record.name == name) fun record =>
    record.withFailure failure word⟩

section

variable (failure : FailureRoute) (word : Option String)

/-- The first record gets the other route when it has the name, and otherwise the records after
it. -/
lemma withFailure_cons (record : StepRecord) (records : List StepRecord) (name : String) :
    (mk (record :: records)).withFailure name failure word =
      if name = record.name then ⟨record.withFailure failure word :: records⟩
      else ⟨record :: ((mk records).withFailure name failure word).records⟩ := by
  by_cases here : name = record.name
  · simp [withFailure, List.findIdx_cons, here]
  · have other : (record.name == name) = false := by simpa using fun e => here e.symm
    simp [withFailure, List.findIdx_cons, here, other]

/-- The name has its first definition with the other failure route. -/
lemma find?_withFailure (r : Registry) (name : String) :
    (r.withFailure name failure word).find? name =
      (r.find? name).map fun record => record.withFailure failure word := by
  obtain ⟨records⟩ := r
  induction records with
  | nil => rfl
  | cons record records ih =>
    rw [withFailure_cons, find?_cons]
    by_cases here : name = record.name
    · have stays : name = (record.withFailure failure word).name := here
      rw [if_pos here, if_pos here, find?_cons, if_pos stays, Option.map_some]
    · rw [if_neg here, if_neg here, find?_cons, if_neg here]
      exact ih

/-- Other names have the definitions that they had. -/
lemma find?_withFailure_of_ne (r : Registry) {name other : String} (ne : other ≠ name) :
    (r.withFailure name failure word).find? other = r.find? other := by
  obtain ⟨records⟩ := r
  induction records with
  | nil => rfl
  | cons record records ih =>
    rw [withFailure_cons, find?_cons]
    by_cases here : name = record.name
    · have ne : other ≠ record.name := here ▸ ne
      have ne' : other ≠ (record.withFailure failure word).name := ne
      rw [if_pos here, find?_cons, if_neg ne, if_neg ne']
    · rw [if_neg here, find?_cons]
      split
      · rfl
      · exact ih

/-- Below a step no visit can tell which failure route the step has. -/
lemma agreesBelow_withFailure {r : Registry} {record : StepRecord}
    (found : r.find? record.name = some record) (notFinish : record.kind.isFinish = false)
    (root : String) :
    r.AgreesBelow [record.name] root (r.withFailure record.name failure word) := by
  intro name _
  by_cases here : name = record.name
  · rw [here, find?_withFailure, found, Option.map_some]
    exact .some (.onPath rfl (List.mem_singleton_self _) notFinish notFinish)
  · rw [find?_withFailure_of_ne failure word r here]
    cases r.find? name with
    | none => exact .none
    | some other => exact .some (.alike .same)

/-- From a name that does not lead to the step, its failure route cannot be seen. -/
lemma agreesFrom_withFailure {r : Registry} {name root : String}
    (unreached : ¬ (r.withFailure name failure word).Referenced root name) :
    (r.withFailure name failure word).AgreesFrom root r := by
  intro other referenced
  apply rel_of_eq
  apply find?_withFailure_of_ne
  rintro rfl
  exact unreached referenced

end

end Registry

namespace Visit

variable {r : Registry} {record : StepRecord}

/-- A step can be visited when no other has been visited before. -/
lemma fresh_start (notFinish : record.kind.isFinish = false) : Fresh [] record ⟨[]⟩ :=
  ⟨notFinish, List.not_mem_nil, rfl⟩

/-- The visit of a step that gets a node resolves its success edge first. -/
lemma Resolves.of_fresh {path : List String} {p : Progress}
    {result : Except ConfigError (Target × Progress)}
    (h : Resolves r path (.ok (.record record)) p result) (fresh : Fresh path record p) :
    ∃ first, Resolves r (record.name :: path) (record.edge r true) (p.reserve record) first := by
  cases h with
  | finish kind =>
    have notFinish := fresh.notFinish
    simp [kind, StepKind.isFinish] at notFinish
  | cycle _ on => exact absurd on fresh.off
  | bound _ _ bound =>
    have unbound := fresh.unbound
    simp [bound] at unbound
  | success _ first => exact ⟨_, first⟩
  | failure _ first _ => exact ⟨_, first⟩
  | settle _ first _ => exact ⟨_, first⟩

/-- The success edge of a step is resolved in the same way whatever its failure route is. -/
lemma Resolves.withFailure {result : Except ConfigError (Target × Progress)}
    (h : Resolves r [record.name] (record.edge r true) (Progress.reserve ⟨[]⟩ record) result)
    (found : r.find? record.name = some record) (notFinish : record.kind.isFinish = false)
    (failure : FailureRoute) (word : Option String) :
    Resolves (r.withFailure record.name failure word) [record.name]
      ((record.withFailure failure word).edge (r.withFailure record.name failure word) true)
      (Progress.reserve ⟨[]⟩ (record.withFailure failure word)) result := by
  have agrees := Registry.agreesBelow_withFailure failure word found notFinish record.name
  exact h.congr agrees (agrees.edge found .root notFinish true) (.refl _)

end Visit

namespace Graph

open Visit

section

variable {r : Registry} {record : StepRecord} (found : r.find? record.name = some record)
  (notFinish : record.kind.isFinish = false) (named : record.name ≠ "")

include found notFinish named

/-- An error on the success edge is what compiling from the step comes to, whatever its failure
route is. -/
lemma compile_withFailure_of_error {e : ConfigError}
    (h : Resolves r [record.name] (record.edge r true) (Progress.reserve ⟨[]⟩ record) (.error e))
    (failure : FailureRoute) (word : Option String) :
    Graph.compile record.name (r.withFailure record.name failure word) = .error e := by
  have found' : (r.withFailure record.name failure word).find? record.name =
      some (record.withFailure failure word) := by
    rw [Registry.find?_withFailure, found, Option.map_some]
  have first := h.withFailure found notFinish failure word
  exact compile_of_resolves named found' (.success (fresh_start notFinish) first)

/-- Where the success edge of a step can be resolved, there is a graph from the name it leads to. -/
lemma exists_compile_of_success {b : String} {onSuccess : Target} {p : Progress}
    (route : record.success = .named b) (named' : b ≠ "")
    (h : Resolves r [record.name] (record.edge r true) (Progress.reserve ⟨[]⟩ record)
      (.ok (onSuccess, p))) : ∃ g, Graph.compile b r = .ok g := by
  -- with a failure route that ends the pipeline, the step itself can be compiled from
  let ended := r.withFailure record.name (.next .done) none
  have found' : ended.find? record.name = some (record.withFailure (.next .done) none) := by
    rw [Registry.find?_withFailure, found, Option.map_some]
  have first := h.withFailure found notFinish (.next .done) none
  have compiled := compile_of_resolves named found'
    (.settle (fresh_start notFinish) first .terminal)
  have onward : (record.withFailure (.next .done) none).route true = .named b := route
  have refers : ended.Refers record.name b :=
    ⟨_, found', StepRecord.mem_references notFinish onward⟩
  have grounded := (grounded_of_compile compiled).refers refers
  -- so `b` does not lead back to the step, and its failure route does not matter to `b`
  have unreached : ¬ ended.Referenced b record.name :=
    fun referenced => grounded.not_leadsTo (referenced.leadsTo refers)
  obtain ⟨g, there⟩ := exists_compile_iff.2 ⟨named', grounded⟩
  rw [compile_eq_of_agrees (Registry.agreesFrom_withFailure _ _ unreached)] at there
  exact ⟨g, there⟩

end

/-- Where nothing can be compiled from the step that `a` goes on to after a success, nothing can be
compiled from `a` either, and the error is the same whatever the failure route of `a` is. -/
theorem compile_withFailure {r : Registry} {a b : String} {record : StepRecord} {e : ConfigError}
    (found : r.find? a = some record) (notFinish : record.kind.isFinish = false)
    (route : record.success = .named b) (named : b ≠ "")
    (failed : Graph.compile b r = .error e) :
    ∃ e', Graph.compile a r = .error e' ∧
      ∀ failure word, Graph.compile a (r.withFailure a failure word) = .error e' := by
  obtain rfl := Registry.name_of_find? found
  by_cases unnamed : record.name = ""
  · exact ⟨.missingRoot, by rw [compile, if_pos unnamed], fun _ _ => by rw [compile, if_pos unnamed]⟩
  · have visits : Resolves r [] (.ok (.record record)) ⟨[]⟩ _ :=
      resolves_visit (Registry.mem_of_find? found) ⟨[]⟩
    obtain ⟨first, resolved⟩ := visits.of_fresh (fresh_start notFinish)
    cases first with
    | ok first =>
      obtain ⟨g, there⟩ :=
        exists_compile_of_success found notFinish unnamed route named resolved
      rw [there] at failed
      cases failed
    | error e' =>
      have whole : Resolves r [] (.ok (.record record)) ⟨[]⟩ (.error e') :=
        .success (fresh_start notFinish) resolved
      exact ⟨e', compile_of_resolves unnamed found whole,
        compile_withFailure_of_error found notFinish unnamed resolved⟩

/-- Two steps that lead to each other, `a` after a success and `b` after a failure. -/
def loopRegistry : Registry :=
  ⟨[⟨"a", .build "a", .named "b", .next (.named "nowhere"), some "nowhere"⟩,
    ⟨"b", .test (.script "b"), .named "c", .next (.named "a"), some "a"⟩,
    ⟨"c", .unknown "Lint", .done, .onward, some "continue"⟩]⟩

/-- The loop is found from `b` and from `a`, before anything is seen of the failure route of `a`. -/
theorem compile_withFailure_loop :
    loopRegistry.find? "a" =
      some ⟨"a", .build "a", .named "b", .next (.named "nowhere"), some "nowhere"⟩ ∧
    Graph.compile "b" loopRegistry = .error (.cycle ["b", "a", "b"]) ∧
    ∃ e', Graph.compile "a" loopRegistry = .error e' ∧
      ∀ failure word, Graph.compile "a" (loopRegistry.withFailure "a" failure word) = .error e' := by
  have failed : Graph.compile "b" loopRegistry = .error (.cycle ["b", "a", "b"]) := by decide
  exact ⟨rfl, failed, compile_withFailure rfl rfl rfl (by decide) failed⟩

example : Graph.compile "a" loopRegistry = .error (.cycle ["a", "b", "a"]) := by
  decide

end Graph

end Pipeline
