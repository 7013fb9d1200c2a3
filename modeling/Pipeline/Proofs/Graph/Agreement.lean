import Pipeline.Proofs.Graph.Likeness

/-!
# Compiling registries that agree

What compiling gives depends only on what the root leads to (`compile_eq_of_agrees`), so edits of
other steps do not change it (`compile_congr`). The rules for resolving an edge look up names that
the root leads to, and of an end they read only its name and its result; a name on the path closes a
cycle whatever its definition is. So a derivation for one registry is one for every other that
differs in nothing else (`Resolves.congr`).
-/

namespace Pipeline

/-- Two definitions that a visit below a path cannot tell apart: they mean the same, or both are
steps of one name on the path. -/
inductive StepRecord.AlikeBelow (path : List String) : StepRecord → StepRecord → Prop where
  | alike {a b} :
    a.Alike b →
    AlikeBelow path a b
  | onPath {a b} :
    a.name = b.name →
    a.name ∈ path →
    a.kind.isFinish = false →
    b.kind.isFinish = false →
    AlikeBelow path a b

/-- Two edges that a visit below a path cannot tell apart; what the first one leads to is a
definition that `root` leads to. -/
inductive Edge.AlikeBelow (r : Registry) (root : String) (path : List String) :
    Except ConfigError Edge → Except ConfigError Edge → Prop where
  | error {e} :
    AlikeBelow r root path (.error e) (.error e)
  | terminal {t} :
    AlikeBelow r root path (.ok (.terminal t)) (.ok (.terminal t))
  | record {a b} :
    r.find? a.name = some a →
    r.Referenced root a.name →
    a.AlikeBelow path b →
    AlikeBelow r root path (.ok (.record a)) (.ok (.record b))

/-- No visit below a path can tell apart what the names that `root` leads to mean. -/
def Registry.AgreesBelow (path : List String) (root : String) (r r' : Registry) : Prop :=
  ∀ name, r.Referenced root name →
    Option.Rel (StepRecord.AlikeBelow path) (r.find? name) (r'.find? name)

/-- Where the names mean the same, no visit can tell the registries apart. -/
lemma Registry.AgreesFrom.below {root : String} {r r' : Registry} (h : AgreesFrom root r r')
    (path : List String) : AgreesBelow path root r r' := by
  intro name referenced
  rcases rel_cases (h name referenced) with ⟨missing, missing'⟩ | ⟨a, b, found, found', alike⟩
  · rw [missing, missing']
    exact .none
  · rw [found, found']
    exact .some (.alike alike)

namespace StepRecord

variable {path : List String} {a b : StepRecord}

/-- What looks like an end is an end of that name with that result. -/
lemma AlikeBelow.finish (h : a.AlikeBelow path b) {result : Bool} (kind : a.kind = .finish result) :
    b.kind = .finish result ∧ b.name = a.name := by
  cases h with
  | alike alike =>
    cases alike with
    | same => exact ⟨kind, rfl⟩
    | finish name kindA kindB =>
      rw [kindA] at kind
      cases kind
      exact ⟨kindB, name.symm⟩
  | onPath _ _ notFinish _ => simp [kind, StepKind.isFinish] at notFinish

/-- What looks like a step on the way is one of that name. -/
lemma AlikeBelow.notFinish (h : a.AlikeBelow path b) (notFinish : a.kind.isFinish = false) :
    b.kind.isFinish = false ∧ b.name = a.name := by
  cases h with
  | alike alike =>
    cases alike with
    | same => exact ⟨notFinish, rfl⟩
    | finish _ kind _ => simp [kind, StepKind.isFinish] at notFinish
  | onPath name _ _ notFinish => exact ⟨notFinish, name.symm⟩

/-- What looks like a step off the path is that step. -/
lemma AlikeBelow.eq_of_off (h : a.AlikeBelow path b) (notFinish : a.kind.isFinish = false)
    (off : a.name ∉ path) : a = b := by
  cases h with
  | alike alike =>
    cases alike with
    | same => rfl
    | finish _ kind _ => simp [kind, StepKind.isFinish] at notFinish
  | onPath _ on _ _ => exact absurd on off

end StepRecord

/-- A step that the root leads to has edges that no visit can tell apart. -/
lemma Registry.AgreesBelow.edge {path : List String} {root : String} {r r' : Registry}
    (agrees : AgreesBelow path root r r') {record : StepRecord}
    (found : r.find? record.name = some record) (here : r.Referenced root record.name)
    (notFinish : record.kind.isFinish = false) (success : Bool) :
    Edge.AlikeBelow r root path (record.edge r success) (record.edge r' success) := by
  rw [StepRecord.edge_eq, StepRecord.edge_eq]
  cases route : record.route success with
  | done => exact .terminal
  | named target =>
    have there : r.Referenced root target :=
      .step here ⟨record, found, StepRecord.mem_references notFinish route⟩
    rcases rel_cases (agrees target there) with ⟨missing, missing'⟩ | ⟨next, other, is, is', alike⟩
    · simp only [missing, missing']
      exact .error
    · simp only [is, is']
      obtain rfl := name_of_find? is
      exact .record is there alike

namespace Visit

/-- Below a path on which no visit can tell two registries apart, none can tell edges apart that are
alike below that path. -/
lemma likeness_of_agreesBelow {root : String} {r r' : Registry} {outer : List String}
    (agrees : r.AgreesBelow outer root r') :
    Likeness r r' fun path edge edge' =>
      outer ⊆ path ∧ Edge.AlikeBelow r root outer edge edge' := by
  constructor
  case error =>
    rintro path e edge ⟨-, alike⟩
    cases alike
    rfl
  case terminal =>
    rintro path t edge ⟨-, alike⟩
    cases alike
    rfl
  case finish =>
    rintro path a edge result ⟨-, alike⟩ kind
    cases alike with
    | @record _ b _ _ alike =>
      obtain ⟨kind', name⟩ := alike.finish kind
      exact ⟨b, rfl, name, kind'⟩
  case step =>
    rintro path a edge ⟨sub, alike⟩ notFinish
    cases alike with
    | @record _ b found here alike =>
      obtain ⟨notFinish', name⟩ := alike.notFinish notFinish
      refine ⟨b, rfl, name, notFinish', fun off => ?_⟩
      -- a record that gets a node is off the path, so it is the same one in both
      obtain rfl := alike.eq_of_off notFinish fun mem => off (sub mem)
      have edge := agrees.edge found here notFinish
      have sub := List.subset_cons_of_subset a.name sub
      exact ⟨rfl, ⟨sub, edge true⟩, fun _ => ⟨sub, edge false⟩⟩

/-- What an edge is resolved to in one registry, an edge that looks like it is resolved to in every
other registry that looks the same below a part of the path. -/
lemma Resolves.congr {root : String} {r r' : Registry} {outer path : List String}
    {edge edge' : Except ConfigError Edge} {p : Progress}
    {result : Except ConfigError (Target × Progress)} (h : Resolves r path edge p result)
    (agrees : r.AgreesBelow outer root r') (alike : Edge.AlikeBelow r root outer edge edge')
    (sub : outer ⊆ path) : Resolves r' path edge' p result :=
  h.transfer (likeness_of_agreesBelow agrees) ⟨sub, alike⟩

end Visit

namespace Graph

open Visit

variable {root : String} {r r' : Registry}

/-- Compiling gives the same for registries that agree from the root. -/
lemma compile_eq_of_agrees (h : r.AgreesFrom root r') :
    Graph.compile root r = Graph.compile root r' := by
  apply compile_eq_of_likeness (likeness_of_agreesBelow (h.below []))
  rcases rel_cases (h root .root) with
    ⟨missing, missing'⟩ | ⟨record, other, found, found', alike⟩
  · rw [missing, missing']
    exact .none
  · rw [found, found']
    obtain rfl := Registry.name_of_find? found
    exact .some ⟨.refl _, .record found .root (.alike alike)⟩

/-- What compiling gives, be it a graph or an error, depends only on what the root leads to: it is
the same for registries in which these names mean the same, and no number of edits that leave them
alone changes it. -/
theorem compile_congr (root : String) (r r' : Registry) :
    (r.AgreesFrom root r' → Graph.compile root r = Graph.compile root r') ∧
    (Relation.EqvGen (Registry.Edit root) r r' →
      Graph.compile root r = Graph.compile root r') := by
  refine ⟨compile_eq_of_agrees, fun edits => ?_⟩
  induction edits with
  | rel _ _ edit => exact compile_eq_of_agrees edit.agrees
  | refl => rfl
  | symm _ _ _ ih => exact ih.symm
  | trans _ _ _ _ _ ih ih' => exact ih.trans ih'

/-- The diamond with its steps in another order, a step more that refers to itself and to nothing
that exists, other routes for its end, and without its second definition of `a`. -/
def tangledRegistry : Registry :=
  ⟨[⟨"a", .test (.script "test"), .named "b", .next (.named "c"), some "c"⟩,
    ⟨"b", .unknown "Lint", .named "d", .next (.named "red"), some "red"⟩,
    ⟨"c", .build "c", .named "d", .onward, some "continue"⟩,
    ⟨"d", .build "d", .done, .onward, some "continue"⟩,
    ⟨"loop", .build "loop", .named "nowhere", .next (.named "loop"), some "loop"⟩,
    ⟨"red", .finish false, .named "a", .onward, some "continue"⟩]⟩

/-- In the tangled diamond every name that the root leads to means what it means in the diamond. -/
lemma agrees_tangled : diamondRegistry.AgreesFrom "a" tangledRegistry := by
  intro name referenced
  have mem := referenced.mem_of_closed ["a", "b", "c", "d", "red"] (by decide) (by decide)
  simp only [List.mem_cons, List.not_mem_nil, or_false] at mem
  rcases mem with rfl | rfl | rfl | rfl | rfl
  · exact .some .same
  · exact .some .same
  · exact .some .same
  · exact .some .same
  · exact .some (.finish rfl rfl rfl)

/-- Four edits lead from the diamond to its tangled form: its second `a` is deleted, the steps
before `red` change places, `red` gets other routes, and `loop` is added. -/
lemma edits_tangled :
    Relation.EqvGen (Registry.Edit "a") diamondRegistry tangledRegistry := by
  let red : StepRecord := ⟨"red", .finish false, .done, .next .done, none⟩
  let red' : StepRecord := ⟨"red", .finish false, .named "a", .onward, some "continue"⟩
  let steps := tangledRegistry.records.take 4
  have delete : Registry.Edit "a" diamondRegistry ⟨diamondRegistry.records.take 5⟩ :=
    @Registry.Edit.delete "a" (diamondRegistry.records.take 5)
      ⟨"a", .finish true, .done, .next .done, none⟩ [] (by decide)
  have permute : Registry.Edit "a" ⟨diamondRegistry.records.take 5⟩ ⟨steps ++ [red]⟩ :=
    @Registry.Edit.permute "a" [] (diamondRegistry.records.take 4) steps [red]
      (by decide) (by decide)
  have reroute : Registry.Edit "a" ⟨steps ++ [red]⟩ ⟨steps ++ [red']⟩ :=
    .reroute rfl
  have add : Registry.Edit "a" ⟨steps ++ [red']⟩ tangledRegistry := by
    refine @Registry.Edit.add "a" steps
      ⟨"loop", .build "loop", .named "nowhere", .next (.named "loop"), some "loop"⟩ [red'] ?_
    intro referenced
    have mem := referenced.mem_of_closed ["a", "b", "c", "d", "red"] (by decide) (by decide)
    simp at mem
  exact .trans _ _ _ (.rel _ _ delete) <| .trans _ _ _ (.rel _ _ permute) <|
    .trans _ _ _ (.rel _ _ reroute) (.rel _ _ add)

/-- The diamond and its tangled form compile to the same graph. -/
theorem compile_congr_diamond :
    diamondRegistry.AgreesFrom "a" tangledRegistry ∧
    Graph.compile "a" diamondRegistry = Graph.compile "a" tangledRegistry ∧
    Relation.EqvGen (Registry.Edit "a") diamondRegistry tangledRegistry ∧
    Graph.compile "a" diamondRegistry = Graph.compile "a" tangledRegistry :=
  ⟨agrees_tangled, (compile_congr _ _ _).1 agrees_tangled,
    edits_tangled, (compile_congr _ _ _).2 edits_tangled⟩

end Graph

end Pipeline
