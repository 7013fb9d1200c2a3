import Mathlib.Tactic.Lemma
import Pipeline.Graph.Visit
import Pipeline.Proofs.Graph.Station

/-!
# Rules for resolving edges

The recursive visit as a relation between an edge and what it is resolved to, one rule for each way
that a visit can go. The visit of a record follows the rules (`resolves_visit`), so what holds of
all derivations holds of the visit.
-/

namespace Pipeline.Visit

/-- A record gets a node: it does not end the pipeline, is not on the path and has no node yet. -/
structure Fresh (path : List String) (record : StepRecord) (p : Progress) : Prop where
  notFinish : record.kind.isFinish = false
  off : record.name ∉ path
  unbound : p.position? record.name = none

/-- What an edge is resolved to below a path of names, given the nodes so far: a target and the
nodes afterwards, or the first error. -/
inductive Resolves (r : Registry) :
    List String → Except ConfigError Edge → Progress → Except ConfigError (Target × Progress) →
      Prop where
  | dangling {path e p} :
    Resolves r path (.error e) p (.error e)
  | terminal {path t p} :
    Resolves r path (.ok (.terminal t)) p (.ok (.terminal t, p))
  | finish {path record result p} :
    record.kind = .finish result →
    Resolves r path (.ok (.record record)) p (.ok (.terminal ⟨record.name, result⟩, p))
  | cycle {path record p} :
    record.kind.isFinish = false →
    record.name ∈ path →
    Resolves r path (.ok (.record record)) p (.error (.cycle (closing path record.name)))
  | bound {path record position p} :
    record.kind.isFinish = false →
    record.name ∉ path →
    p.position? record.name = some position →
    Resolves r path (.ok (.record record)) p (.ok (.step position, p))
  | success {path record e p} :
    Fresh path record p →
    Resolves r (record.name :: path) (record.edge r true) (p.reserve record) (.error e) →
    Resolves r path (.ok (.record record)) p (.error e)
  | failure {path record onSuccess e p p'} :
    Fresh path record p →
    Resolves r (record.name :: path) (record.edge r true) (p.reserve record)
      (.ok (onSuccess, p')) →
    Resolves r (record.name :: path) (record.edge r false) p' (.error e) →
    Resolves r path (.ok (.record record)) p (.error e)
  | settle {path record onSuccess onFailure p p' p''} :
    Fresh path record p →
    Resolves r (record.name :: path) (record.edge r true) (p.reserve record)
      (.ok (onSuccess, p')) →
    Resolves r (record.name :: path) (record.edge r false) p' (.ok (onFailure, p'')) →
    Resolves r path (.ok (.record record)) p
      (.ok (.step p.nodes.length, p''.settle p.nodes.length onSuccess onFailure))

/-- A record that an edge leads to is one of the registry. -/
lemma mem_of_edge {r : Registry} {record next : StepRecord} {success : Bool}
    (h : record.edge r success = .ok (.record next)) : next ∈ r.records :=
  Registry.mem_of_find? (StepRecord.route_of_edge h).2

/-- An edge is resolved by the rules when the visit of the record that it leads to is. -/
lemma resolves_edge {r : Registry} {path : List String} {record : StepRecord} {success : Bool}
    {p : Progress}
    (visits : ∀ next (h : record.edge r success = .ok (.record next)),
      Resolves r path (.ok (.record next)) p (visit r path next (mem_of_edge h) p)) :
    Resolves r path (record.edge r success) p
      (match here : record.edge r success with
      | .error e => .error e
      | .ok (.terminal t) => .ok (.terminal t, p)
      | .ok (.record next) => visit r path next (mem_of_edge here) p) := by
  split
  · rename_i e here
    rw [here]
    exact .dangling
  · rename_i t here
    rw [here]
    exact .terminal
  · rename_i next here
    have step := visits next here
    generalize visit r path next (mem_of_edge here) p = result at step ⊢
    rw [here]
    exact step

/-- A visit follows the rules. -/
lemma resolves_visit {r : Registry} {path : List String} {record : StepRecord}
    (mem : record ∈ r.records) (p : Progress) :
    Resolves r path (.ok (.record record)) p (visit r path record mem p) := by
  fun_induction visit r path record mem p with
  | case1 path record mem p result kind => exact .finish kind
  | case2 path record mem p on other =>
    exact .cycle (StepKind.isFinish_eq_false other) (by simpa using on)
  | case3 path record mem p off position bound other =>
    exact .bound (StepKind.isFinish_eq_false other) (by simpa using off) bound
  | case4 path record mem p off unbound _ deeper success e failed other ih =>
    have fresh : Fresh path record p :=
      ⟨StepKind.isFinish_eq_false other, by simpa using off, unbound⟩
    apply Resolves.success fresh
    rw [← failed]
    exact resolves_edge ih
  | case5 path record mem p off unbound _ deeper success onSuccess p' done failure e failed other
      ih ih' =>
    have fresh : Fresh path record p :=
      ⟨StepKind.isFinish_eq_false other, by simpa using off, unbound⟩
    apply Resolves.failure fresh
    · rw [← done]
      exact resolves_edge ih
    · rw [← failed]
      exact resolves_edge ih'
  | case6 path record mem p off unbound _ position deeper success onSuccess p' done failure
      onFailure p'' done' other ih ih' =>
    have fresh : Fresh path record p :=
      ⟨StepKind.isFinish_eq_false other, by simpa using off, unbound⟩
    apply Resolves.settle fresh
    · rw [← done]
      exact resolves_edge ih
    · rw [← done']
      exact resolves_edge ih'

end Pipeline.Visit
