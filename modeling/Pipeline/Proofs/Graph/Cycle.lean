import Mathlib.Data.List.Chain
import Pipeline.Proofs.Graph.Result

/-!
# Cycles that compiling reports

A cycle is found where a record that is waited for has a frame already. The frames are those of
steps each of which refers to the next one further in (`Awaits.isChain`), so the part of the stack
from that record's frame inwards, with the record once more at its end, goes round a cycle of
references (`closes_of_compile`; specification, section 12). What is reported does not depend on the
frames further out, nor on which of its two edges a frame is resolving.
-/

namespace Pipeline

/-- A list of names goes round a cycle of references that a root leads to. -/
structure Registry.Closes (r : Registry) (root : String) (path : List String) : Prop where
  /-- There are two names at least, which are equal where a step refers to itself. -/
  long : 2 ≤ path.length
  /-- The cycle ends where it begins. -/
  closed : path.head? = path.getLast?
  /-- Nothing else comes twice. -/
  distinct : path.dropLast.Nodup
  /-- Each of the names is that of a step, and not of one that ends the pipeline. -/
  steps : ∀ name ∈ path, ∃ record, r.find? name = some record ∧ record.kind.isFinish = false
  referenced : ∀ name ∈ path, r.Referenced root name
  /-- The first definition of each name refers to the next name. -/
  chain : path.IsChain r.Refers

/-- What is left of a list that has `name`, when all before it is dropped, begins with it. -/
lemma exists_dropWhile_of_mem {names : List String} {name : String} (h : name ∈ names) :
    ∃ rest, names.dropWhile (· != name) = name :: rest := by
  induction names with
  | nil => cases h
  | cons other names ih =>
    by_cases here : other = name
    · exact ⟨names, by simp [here]⟩
    · have mem : name ∈ names := (List.mem_cons.1 h).resolve_left fun same => here same.symm
      obtain ⟨rest, left⟩ := ih mem
      exact ⟨rest, by simpa [here] using left⟩

namespace Compile

variable {r : Registry} {root : String}

/-- The steps of the frames, the outermost first, refer each to the next one, and the innermost one
to the record that is waited for. -/
lemma Awaits.isChain {frames : List Frame} {record : StepRecord} (linked : Linked r root frames)
    (h : Awaits r root frames record) :
    ((frames.reverse.map fun f => f.record.name) ++ [record.name]).IsChain r.Refers := by
  induction frames generalizing record with
  | nil => exact .singleton _
  | cons f rest ih =>
    have refers := h.refers linked
    cases linked with
    | cons _ awaits linked =>
      rw [List.reverse_cons, List.map_append]
      refine (ih linked awaits).append (.singleton _) ?_
      intro last isLast next isNext
      obtain rfl : f.record.name = last := by simpa using isLast
      obtain rfl : record.name = next := by simpa using isNext
      exact refers

/-- The path from the frame of the record that is waited for is a cycle. -/
lemma State.Invariant.closes {s : State} (inv : State.Invariant r root s) {record : StepRecord}
    (awaits : Awaits r root s.frames record) (on : record.name ∈ s.path) :
    r.Closes root (s.cyclePath record.name) := by
  have outwards : (s.frames.reverse.map fun f => f.record.name) = s.path.reverse := by
    rw [State.path, List.map_reverse]
  obtain ⟨inner, dropped⟩ := exists_dropWhile_of_mem (List.mem_reverse.2 on)
  have cycle : s.cyclePath record.name = record.name :: inner ++ [record.name] := by
    rw [State.cyclePath, outwards, dropped]
  have suffix : record.name :: inner <:+ s.path.reverse := dropped ▸ List.dropWhile_suffix _
  -- every name of the cycle is that of a frame
  have framed : ∀ name ∈ record.name :: inner ++ [record.name],
      ∃ f ∈ s.frames, f.record.name = name := by
    intro name mem
    have mem : name ∈ record.name :: inner := by
      rcases List.mem_append.1 mem with mem | same
      · exact mem
      · exact List.mem_singleton.1 same ▸ List.mem_cons_self
    exact List.mem_map.1 (List.mem_reverse.1 (suffix.subset mem))
  rw [cycle]
  constructor
  case long => simp
  case closed => rw [List.getLast?_concat]; rfl
  case distinct =>
    rw [List.dropLast_concat]
    exact suffix.sublist.nodup (List.nodup_reverse.2 inv.distinct)
  case steps =>
    intro name mem
    obtain ⟨f, isFrame, rfl⟩ := framed name mem
    exact ⟨f.record, inv.linked.found isFrame⟩
  case referenced =>
    intro name mem
    obtain ⟨f, isFrame, rfl⟩ := framed name mem
    obtain ⟨n, here, named⟩ := (inv.bound _ _).1 (inv.placed f isFrame)
    rw [← named]
    exact inv.referenced n (List.mem_of_getElem? here)
  case chain =>
    have chain := awaits.isChain inv.linked
    obtain ⟨outer, split⟩ := suffix
    rw [outwards, ← split, List.append_assoc] at chain
    exact chain.right_of_append

end Compile

open Compile

namespace Graph

/-- A cycle that compiling reports is one of references between steps that the root leads to. -/
theorem closes_of_compile {root : String} {r : Registry} {path : List String}
    (h : Graph.compile root r = .error (.cycle path)) : r.Closes root path := by
  by_cases named : root = ""
  · rw [compile, if_pos named] at h
    cases h
  · cases found : r.find? root with
    | none =>
      rw [compile, if_neg named, found] at h
      cases h
    | some record =>
      obtain ⟨s, frame, rest, inv, frames, failed⟩ := round_of_compile_error named found h
      obtain ⟨-, edge | ⟨next, edge, entered⟩⟩ := State.round_error failed
      · -- a frame without an edge to follow reports a name without a definition
        obtain ⟨target, -, -, other⟩ := StepRecord.route_of_edge_error edge
        unfold StepRecord.dangling at other
        split at other <;> cases other
      · obtain ⟨-, on, same⟩ := State.enter_error entered
        cases same
        rw [inv.onStack] at on
        have awaits : Awaits r root s.frames next := frames ▸ edge
        exact inv.closes awaits on

/-- A step that leads into a cycle without being on it: when the cycle is found, `d` is finished,
and of the frames further in `b` is resolving its failure edge. -/
def lassoRegistry : Registry :=
  ⟨[⟨"start", .build "start", .named "d", .next (.named "a"), some "a"⟩,
    ⟨"a", .test (.script "a"), .named "b", .next .done, none⟩,
    ⟨"b", .unknown "Lint", .named "d", .next (.named "a"), some "a"⟩,
    ⟨"d", .build "d", .done, .onward, some "continue"⟩]⟩

/-- The cycle that `start` leads into is one, and `start` is not on it. -/
theorem closes_of_compile_lasso :
    Graph.compile "start" lassoRegistry = .error (.cycle ["a", "b", "a"]) ∧
      lassoRegistry.Closes "start" ["a", "b", "a"] := by
  have reported : Graph.compile "start" lassoRegistry = .error (.cycle ["a", "b", "a"]) := by decide
  exact ⟨reported, closes_of_compile reported⟩

end Graph

end Pipeline
