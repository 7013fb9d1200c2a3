import Mathlib.Logic.Equiv.Basic
import Pipeline.Graph.Compile
import Pipeline.Proofs.Graph.Renaming

/-!
# Renaming the steps of a configuration

Renaming goes through all that stands between a configuration and its graph: a word for a route
stays an end or `continue` and otherwise becomes that of the renamed step (`Route.ofWord_rename`),
so the record of a renamed entry is the renamed record, and the graph of a renamed configuration is
the renamed graph (`Config.toGraph_rename`).
-/

namespace Pipeline

/-- The entry of the renamed step. -/
def StepEntry.rename (f : String → String) (e : StepEntry) : StepEntry :=
  { e with name := f e.name, success := e.success.map f, failure := e.failure.map f }

/-- The configuration of the renamed steps. -/
def Config.rename (f : String → String) (c : Config) : Config :=
  { c with root := f c.root, steps := c.steps.map (StepEntry.rename f) }

section

variable {f : String → String} (h : IsRenaming f)

include h

/-- A new name ends the pipeline if and only if the old one does. -/
lemma IsRenaming.sameLetters (word : String) :
    Pipeline.sameLetters (f word) endWord = Pipeline.sameLetters word endWord := by
  cases ends : Pipeline.sameLetters word endWord with
  | true => rw [h.ends word ends, ends]
  | false =>
    cases ends' : Pipeline.sameLetters (f word) endWord with
    | false => rfl
    | true =>
      -- a new name that ends the pipeline is an old one, since it would be left alone
      have same := h.injective (h.ends (f word) ends')
      rw [same, ends] at ends'
      cases ends'

/-- The route of a renamed word is the renamed route. -/
lemma Route.ofWord_rename (word : Option String) :
    ofWord (word.map f) = (ofWord word).rename f := by
  cases word with
  | none => rfl
  | some text =>
    simp only [Option.map_some, ofWord, h.sameLetters]
    split <;> rfl

/-- The failure route of a renamed word is the renamed failure route. -/
lemma FailureRoute.ofWord_rename (word : Option String) :
    ofWord (word.map f) = (ofWord word).rename f := by
  have onward : word.map f = some continueWord ↔ word = some continueWord := by
    have kept : (some continueWord).map f = some continueWord := congrArg some h.onward
    conv_lhs => rw [← kept]
    exact (Option.map_injective h.injective).eq_iff
  unfold ofWord
  by_cases same : word = some continueWord
  · rw [if_pos same, if_pos (onward.2 same)]
    rfl
  · rw [if_neg same, if_neg (onward.not.2 same), Route.ofWord_rename h]
    rfl

omit h in
/-- A renamed entry means the same kind of step, and what is wrong with it is the same. -/
lemma StepRecord.kindOf_rename (f : String → String) (e : StepEntry) :
    kindOf (e.rename f) = renameResult f id (kindOf e) := by
  unfold kindOf StepEntry.rename
  split
  · rfl
  · split
    · rfl
    · split
      · rfl
      · split
        · cases e.result <;> rfl
        · rfl

/-- The record of a renamed entry is the renamed record. -/
lemma StepRecord.ofEntry_rename (e : StepEntry) :
    ofEntry (e.rename f) = renameResult f (StepRecord.rename f) (ofEntry e) := by
  unfold ofEntry
  rw [kindOf_rename]
  cases kindOf e with
  | error problem => rfl
  | ok kind =>
    simp only [renameResult, id, bind, Except.bind]
    simp only [StepRecord.rename, StepEntry.rename, Route.ofWord_rename h,
      FailureRoute.ofWord_rename h]

/-- The records of renamed entries are the renamed records. -/
lemma StepRecord.mapM_rename (entries : List StepEntry) :
    (entries.map (StepEntry.rename f)).mapM ofEntry =
      renameResult f (List.map (StepRecord.rename f)) (entries.mapM ofEntry) := by
  induction entries with
  | nil => rfl
  | cons e entries ih =>
    rw [List.map_cons, List.mapM_cons, List.mapM_cons, ofEntry_rename h, ih]
    cases ofEntry e with
    | error problem => rfl
    | ok record =>
      cases entries.mapM ofEntry <;> rfl

/-- The registry of a renamed configuration is the renamed registry. -/
lemma Config.registry_rename (c : Config) :
    (c.rename f).registry = renameResult f (Registry.rename f) c.registry := by
  rw [registry, registry, Registry.ofEntries, Registry.ofEntries, rename,
    StepRecord.mapM_rename h]
  cases c.steps.mapM StepRecord.ofEntry <;> rfl

/-- Compiling a configuration in which the steps are renamed gives the graph in which they are
renamed, or the same error about the renamed steps. -/
theorem Config.toGraph_rename (c : Config) :
    (c.rename f).toGraph = renameResult f (Graph.rename f) c.toGraph := by
  unfold toGraph
  rw [registry_rename h]
  cases c.registry with
  | error problem => rfl
  | ok r => exact Graph.compile_rename h c.root r

end

/-- Two names that are only names can be exchanged. -/
lemma isRenaming_swap {a b : String} (empty : a ≠ "" ∧ b ≠ "")
    (onward : a ≠ continueWord ∧ b ≠ continueWord) (byDefault : a ≠ "Default End" ∧ b ≠ "Default End")
    (ends : sameLetters a endWord = false ∧ sameLetters b endWord = false) :
    IsRenaming (Equiv.swap a b) := by
  constructor
  case injective => exact (Equiv.swap a b).injective
  case empty => exact Equiv.swap_apply_of_ne_of_ne empty.1.symm empty.2.symm
  case onward => exact Equiv.swap_apply_of_ne_of_ne onward.1.symm onward.2.symm
  case byDefault => exact Equiv.swap_apply_of_ne_of_ne byDefault.1.symm byDefault.2.symm
  case ends =>
    intro word ending
    apply Equiv.swap_apply_of_ne_of_ne
    · rintro rfl
      exact Bool.false_ne_true (ends.1.symm.trans ending)
    · rintro rfl
      exact Bool.false_ne_true (ends.2.symm.trans ending)

/-- A pipeline with a cycle, which is found on the way from the third step back to the first. -/
def Config.roundabout : Config where
  root := "lint"
  steps :=
    [{ name := "lint", typeTag := "Lint", success := some "test", failure := some "continue" },
      { name := "test", typeTag := "Test", success := some "END", failure := some "report" },
      { name := "report", typeTag := "Report", success := some "done", failure := some "lint" },
      { name := "done", typeTag := "End", result := some true }]

/-- Exchanging the names of two steps on the cycle exchanges them in the cycle that is reported. -/
theorem Config.toGraph_rename_swap :
    IsRenaming (Equiv.swap "lint" "report") ∧
    (roundabout.rename (Equiv.swap "lint" "report")).toGraph =
      renameResult (Equiv.swap "lint" "report") (Graph.rename (Equiv.swap "lint" "report"))
        roundabout.toGraph := by
  have exchanged : IsRenaming (Equiv.swap "lint" "report") :=
    isRenaming_swap (by decide) (by decide) (by decide) (by decide)
  exact ⟨exchanged, toGraph_rename exchanged roundabout⟩

-- the graph has the new names, an end among them, and the old sequence numbers
example :
    (Config.rename (Equiv.swap "test" "done")
      { root := "lint"
        steps :=
          [{ name := "lint", typeTag := "Lint", success := some "done", failure := some "continue" },
            { name := "done", typeTag := "End", result := some false },
            { name := "test", typeTag := "Test" }] }).toGraph =
      .ok ⟨[⟨1, "lint", .unknown "Lint", .terminal ⟨"test", false⟩, .terminal ⟨"test", false⟩⟩],
        .step 0⟩ := by
  decide

end Pipeline
