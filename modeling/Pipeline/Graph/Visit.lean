import Mathlib.Tactic.Lemma
import Pipeline.Graph.Edge
import Pipeline.Step.Reference

/-!
# Recursive visits of a registry

The graph of a registry by plain recursion (specification, section 4.1, with the memo table of
section 9): a record that has no node yet gets the next one, then its success edge is resolved with
all that hangs on it, then its failure edge. A name that comes again on the way down to it closes a
cycle.

A visit goes deeper only to names that are not on the path, so the recursion ends
(`length_outside_cons`).
-/

namespace Pipeline

namespace StepRecord

/-- A record that a success edge leads to is one of the registry. -/
lemma mem_of_successEdge {record next : StepRecord} {r : Registry}
    (h : record.successEdge r = .ok (.record next)) : next ∈ r.records := by
  unfold successEdge at h
  split at h
  · cases h
  · split at h
    · cases h
      exact Registry.mem_of_find? ‹_›
    · cases h

/-- A record that a failure edge leads to is one of the registry. -/
lemma mem_of_failureEdge {record next : StepRecord} {r : Registry}
    (h : record.failureEdge r = .ok (.record next)) : next ∈ r.records := by
  unfold failureEdge at h
  split at h
  · cases h
  · split at h
    · cases h
      exact Registry.mem_of_find? ‹_›
    · cases h

end StepRecord

namespace Visit

/-- The nodes so far; the position of a step is that of the node with its name. -/
structure Progress where
  nodes : List StepNode
  deriving DecidableEq, Repr

/-- The position of the node of a name. -/
def Progress.position? (p : Progress) (name : String) : Option Nat :=
  p.nodes.findIdx? fun n => n.name == name

/-- The next node, with edges to be settled later. -/
def Progress.reserve (p : Progress) (record : StepRecord) : Progress :=
  ⟨p.nodes ++ [⟨p.nodes.length + 1, record.name, record.kind, .terminal (.byDefault true),
    .terminal (.byDefault false)⟩]⟩

/-- The node at a position gets its edges. -/
def Progress.settle (p : Progress) (position : Nat) (onSuccess onFailure : Target) : Progress :=
  ⟨p.nodes.modify position fun n => { n with onSuccess := onSuccess, onFailure := onFailure }⟩

/-- The names of a path from `name` on, and `name` again; the path is innermost first. -/
def closing (path : List String) (name : String) : List String :=
  path.reverse.dropWhile (· != name) ++ [name]

/-- The records whose names are not on a path. -/
def outside (r : Registry) (path : List String) : List StepRecord :=
  r.records.filter fun record => !path.contains record.name

/-- One name more on the path leaves fewer records outside. -/
lemma length_outside_cons {r : Registry} {path : List String} {record : StepRecord}
    (mem : record ∈ r.records) (new : ¬ path.contains record.name) :
    (outside r (record.name :: path)).length < (outside r path).length := by
  have sub : outside r (record.name :: path) =
      (outside r path).filter fun x => x.name != record.name := by
    simp only [outside, List.filter_filter]
    apply List.filter_congr
    intro x _
    by_cases h : x.name = record.name <;> simp [h]
  rw [sub]
  apply List.length_filter_lt_length_iff_exists.2
  exact ⟨record, by simpa [outside, mem] using new, by simp⟩

/-- Visits a record: the target that stands for it, and the nodes afterwards. -/
def visit (r : Registry) (path : List String) (record : StepRecord) (mem : record ∈ r.records)
    (p : Progress) : Except ConfigError (Target × Progress) :=
  match record.kind with
  | .finish result => .ok (.terminal ⟨record.name, result⟩, p)
  | _ =>
    if new : path.contains record.name then .error (.cycle (closing path record.name))
    else
      match p.position? record.name with
      | some position => .ok (.step position, p)
      | none =>
        have := length_outside_cons mem new
        let position := p.nodes.length
        let deeper := record.name :: path
        let success : Except ConfigError (Target × Progress) :=
          match edge : record.successEdge r with
          | .error e => .error e
          | .ok (.terminal t) => .ok (.terminal t, p.reserve record)
          | .ok (.record next) =>
            visit r deeper next (StepRecord.mem_of_successEdge edge) (p.reserve record)
        match success with
        | .error e => .error e
        | .ok (onSuccess, p) =>
          let failure : Except ConfigError (Target × Progress) :=
            match edge : record.failureEdge r with
            | .error e => .error e
            | .ok (.terminal t) => .ok (.terminal t, p)
            | .ok (.record next) =>
              visit r deeper next (StepRecord.mem_of_failureEdge edge) p
          match failure with
          | .error e => .error e
          | .ok (onFailure, p) => .ok (.step position, p.settle position onSuccess onFailure)
termination_by (outside r path).length

end Visit

/-- The graph that a recursive visit of the step named `root` makes. -/
def Graph.ofVisit (root : String) (r : Registry) : Except ConfigError Graph :=
  if root = "" then .error .missingRoot
  else
    match found : r.find? root with
    | none => .error (.rootNotFound root)
    | some record =>
      (Visit.visit r [] record (Registry.mem_of_find? found) ⟨[]⟩).map fun (target, p) =>
        ⟨p.nodes, target⟩

end Pipeline
