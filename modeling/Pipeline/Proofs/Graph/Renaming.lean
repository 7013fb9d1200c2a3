import Pipeline.Proofs.Graph.Simulation
import Pipeline.Proofs.Step.Agreement

/-!
# Renaming the steps of a registry

A renaming gives different names to different steps and leaves alone the words that mean something
to the pipeline itself (`IsRenaming`). A visit only asks whether names are the same, so every rule
by which an edge is resolved can be followed with the new names as well (`Visit.Resolves.rename`),
and compiling the renamed steps gives the renamed graph, or the same error about the renamed steps
(`Graph.compile_rename`).
-/

namespace Pipeline

/-- New names for steps: different ones for different steps, and the old ones for the words that are
not only names, which are the empty one, `continue`, the name of the end by default, and `end` in
any case. -/
structure IsRenaming (f : String → String) : Prop where
  injective : Function.Injective f
  empty : f "" = ""
  onward : f continueWord = continueWord
  byDefault : f "Default End" = "Default End"
  ends : ∀ word, sameLetters word endWord = true → f word = word

section

variable (f : String → String)

/-- The route to the renamed step. -/
def Route.rename : Route → Route
  | .done => .done
  | .named name => .named (f name)

/-- The failure route to the renamed step. -/
def FailureRoute.rename : FailureRoute → FailureRoute
  | .next route => .next (route.rename f)
  | .onward => .onward

/-- The record of the renamed step, whose routes lead to renamed steps. -/
def StepRecord.rename (record : StepRecord) : StepRecord :=
  { record with
    name := f record.name
    success := record.success.rename f
    failure := record.failure.rename f
    failureWord := record.failureWord.map f }

/-- The registry of the renamed steps. -/
def Registry.rename (r : Registry) : Registry :=
  ⟨r.records.map (StepRecord.rename f)⟩

/-- The terminal of the renamed end. -/
def Terminal.rename (t : Terminal) : Terminal :=
  { t with name := f t.name }

/-- The target with the terminal renamed; positions stay. -/
def Target.rename : Target → Target
  | .step position => .step position
  | .terminal t => .terminal (t.rename f)

/-- The node of the renamed step. -/
def StepNode.rename (n : StepNode) : StepNode :=
  { n with
    name := f n.name
    onSuccess := n.onSuccess.rename f
    onFailure := n.onFailure.rename f }

/-- The graph of the renamed steps. -/
def Graph.rename (g : Graph) : Graph :=
  ⟨g.nodes.map (StepNode.rename f), g.root.rename f⟩

/-- The error about the renamed steps. -/
def ConfigError.rename : ConfigError → ConfigError
  | .rootNotFound root => .rootNotFound (f root)
  | .missingSuccessStep step target => .missingSuccessStep (f step) (f target)
  | .missingFailureStep step failure target => .missingFailureStep (f step) (f failure) (f target)
  | .cycle path => .cycle (path.map f)
  | .invalidStep step problem => .invalidStep (f step) problem
  | e => e

/-- The edge to the renamed record or terminal. -/
def Edge.rename : Edge → Edge
  | .terminal t => .terminal (t.rename f)
  | .record next => .record (next.rename f)

/-- A result in which the steps are renamed by `change`, or the error about the renamed steps. -/
def renameResult {α β : Type} (change : α → β) : Except ConfigError α → Except ConfigError β
  | .error e => .error (e.rename f)
  | .ok a => .ok (change a)

namespace Visit

/-- The nodes of the renamed steps. -/
def Progress.rename (p : Progress) : Progress :=
  ⟨p.nodes.map (StepNode.rename f)⟩

/-- What the edge is resolved to when the steps are renamed. -/
def renameFound (found : Target × Progress) : Target × Progress :=
  (found.1.rename f, found.2.rename f)

end Visit

/-- The route of a renamed record leads to a renamed step. -/
lemma StepRecord.route_rename (record : StepRecord) (success : Bool) :
    (record.rename f).route success = (record.route success).rename f := by
  cases success with
  | true => rfl
  | false =>
    cases failure : record.failure <;>
      simp [route, effectiveFailure, rename, FailureRoute.rename, failure]

end

section

variable {f : String → String} (h : IsRenaming f)

include h

/-- The end by default keeps its name. -/
lemma IsRenaming.terminal_byDefault (result : Bool) :
    (Terminal.byDefault result).rename f = .byDefault result := by
  rw [Terminal.rename, Terminal.byDefault, h.byDefault]

/-- A new name is that of a renamed step if and only if the old name is the step's. -/
lemma IsRenaming.beq (a b : String) : (f a == f b) = (a == b) := by
  by_cases same : a = b
  · simp [same]
  · simp [same, h.injective.ne same]

/-- A renamed step is found by its new name. -/
lemma Registry.find?_rename (r : Registry) (name : String) :
    (r.rename f).find? (f name) = (r.find? name).map (StepRecord.rename f) := by
  rw [find?, find?, rename, List.find?_map]
  congr 2
  funext record
  exact h.beq record.name name

/-- A renamed record without a step on a route reports the renamed one. -/
lemma StepRecord.dangling_rename (record : StepRecord) (success : Bool) (target : String) :
    (record.rename f).dangling success (f target) =
      (record.dangling success target).rename f := by
  cases success with
  | true => rfl
  | false =>
    cases word : record.failureWord <;> simp [dangling, rename, ConfigError.rename, word, h.empty]

/-- The edges of a renamed record are the renamed edges. -/
lemma StepRecord.edge_rename (record : StepRecord) (r : Registry) (success : Bool) :
    (record.rename f).edge (r.rename f) success =
      renameResult f (Edge.rename f) (record.edge r success) := by
  rw [edge_eq, edge_eq, route_rename]
  cases record.route success with
  | done =>
    simp only [Route.rename, renameResult, Edge.rename, h.terminal_byDefault]
  | named target =>
    simp only [Route.rename, Registry.find?_rename h]
    cases r.find? target with
    | none => simp only [Option.map_none, dangling_rename h, renameResult]
    | some next => rfl

namespace Visit

/-- A renamed step has its old position. -/
lemma Progress.position?_rename (p : Progress) (name : String) :
    (p.rename f).position? (f name) = p.position? name := by
  rw [position?, position?, rename, List.findIdx?_map]
  congr 1
  funext n
  exact h.beq n.name name

/-- Reserving a node for a renamed record makes a renamed node. -/
lemma Progress.reserve_rename (p : Progress) (record : StepRecord) :
    (p.rename f).reserve (record.rename f) = (p.reserve record).rename f := by
  simp [reserve, rename, StepRecord.rename, StepNode.rename, Target.rename, h.terminal_byDefault]

omit h in
/-- A renamed node gets renamed edges. -/
lemma Progress.settle_rename (p : Progress) (position : Nat) (onSuccess onFailure : Target) :
    (p.rename f).settle position (onSuccess.rename f) (onFailure.rename f) =
      (p.settle position onSuccess onFailure).rename f := by
  simp only [settle, rename, Progress.mk.injEq]
  apply List.ext_getElem?
  intro other
  simp only [List.getElem?_modify, List.getElem?_map]
  cases p.nodes[other]? with
  | none => rfl
  | some n =>
    simp only [Option.map_some]
    split <;> rfl

/-- The cycle that a renamed step closes is the renamed cycle. -/
lemma closing_rename (path : List String) (name : String) :
    closing (path.map f) (f name) = (closing path name).map f := by
  have other : (fun n => n != f name) ∘ f = fun n => n != name := by
    funext n
    simp only [Function.comp_apply, bne, h.beq]
  simp only [closing, ← List.map_reverse, List.dropWhile_map, other, List.map_append, List.map_cons,
    List.map_nil]

/-- A renamed name is on the renamed path if and only if the old one is on the path. -/
lemma mem_path_rename {path : List String} {name : String} : f name ∈ path.map f ↔ name ∈ path :=
  List.mem_map_of_injective h.injective

/-- A record that gets a node gets one when it is renamed. -/
lemma Fresh.rename {path : List String} {record : StepRecord} {p : Progress}
    (fresh : Fresh path record p) : Fresh (path.map f) (record.rename f) (p.rename f) := by
  constructor
  case notFinish => exact fresh.notFinish
  case off => exact (mem_path_rename h).not.2 fresh.off
  case unbound => exact (p.position?_rename h record.name).trans fresh.unbound

/-- What an edge is resolved to, the renamed edge is resolved to with the steps renamed. -/
lemma Resolves.rename {r : Registry} {path : List String} {edge : Except ConfigError Edge}
    {p : Progress} {result : Except ConfigError (Target × Progress)}
    (resolves : Resolves r path edge p result) :
    Resolves (r.rename f) (path.map f) (renameResult f (Edge.rename f) edge) (p.rename f)
      (renameResult f (renameFound f) result) := by
  induction resolves with
  | dangling => exact .dangling
  | terminal => exact .terminal
  | finish kind => exact .finish kind
  | cycle notFinish on =>
    simp only [renameResult, ConfigError.rename, ← closing_rename h]
    exact .cycle notFinish ((mem_path_rename h).2 on)
  | bound notFinish off position =>
    refine .bound notFinish ((mem_path_rename h).not.2 off) ?_
    exact (Progress.position?_rename h _ _).trans position
  | success fresh _ ih =>
    apply Resolves.success (fresh.rename h)
    rw [StepRecord.edge_rename h, Progress.reserve_rename h]
    exact ih
  | failure fresh _ _ ih ih' =>
    apply Resolves.failure (fresh.rename h)
    · rw [StepRecord.edge_rename h, Progress.reserve_rename h]
      exact ih
    · rw [StepRecord.edge_rename h]
      exact ih'
  | @settle path record onSuccess onFailure p p' p'' fresh _ _ ih ih' =>
    have same : p.nodes.length = (p.rename f).nodes.length := (List.length_map _).symm
    simp only [renameResult, renameFound, Target.rename, ← Progress.settle_rename]
    rw [same]
    apply Resolves.settle (fresh.rename h)
    · rw [StepRecord.edge_rename h, Progress.reserve_rename h]
      exact ih
    · rw [StepRecord.edge_rename h]
      exact ih'

end Visit

/-- Compiling the renamed steps gives the renamed graph, or the same error about the renamed
steps. -/
lemma Graph.compile_rename (root : String) (r : Registry) :
    Graph.compile (f root) (r.rename f) = renameResult f (Graph.rename f) (Graph.compile root r) := by
  by_cases named : root = ""
  · subst named
    rw [h.empty]
    rfl
  · have named' : f root ≠ "" := by
      rw [← h.empty]
      exact h.injective.ne named
    have found' := Registry.find?_rename h r root
    cases found : r.find? root with
    | none =>
      rw [found] at found'
      rw [compile, compile, if_neg named, if_neg named', found, found']
      rfl
    | some record =>
      rw [found] at found'
      have visits : Visit.Resolves r [] (.ok (.record record)) ⟨[]⟩ _ :=
        Visit.resolves_visit (Registry.mem_of_find? found) ⟨[]⟩
      rw [compile_of_resolves named found visits,
        compile_of_resolves named' found' (visits.rename h)]
      cases Visit.visit r [] record (Registry.mem_of_find? found) ⟨[]⟩ <;> rfl

end

end Pipeline
