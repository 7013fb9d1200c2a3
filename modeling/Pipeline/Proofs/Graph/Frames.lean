import Pipeline.Graph.Compile
import Pipeline.Proofs.Graph.Station
import Pipeline.Proofs.Step.Grounded

/-!
# Stacks of frames

Every frame but the outermost was opened for the record that the edge of the frame below it leads
to, and the outermost one for the root (`Linked`). So the root leads to the steps of all frames, and
each of them leads to the record that the innermost frame waits for.
-/

namespace Pipeline.Compile

/-- The record that the innermost frame waits for; without frames it is the record of the root. -/
def Awaits (r : Registry) (root : String) : List Frame → StepRecord → Prop
  | [], record => r.find? root = some record
  | f :: _, record => f.edge r = .ok (.record record)

/-- The station that the register has to stand for. -/
def awaited? (r : Registry) (root : String) : List Frame → Option Station
  | [] => r.station? root
  | f :: _ => r.stationAfter? f.record.name f.onSuccess.isNone

/-- Each frame is one of a step on the way, and the frames below it waited for its record. -/
inductive Linked (r : Registry) (root : String) : List Frame → Prop where
  | nil :
    Linked r root []
  | cons {f rest} :
    f.record.kind.isFinish = false →
    Awaits r root rest f.record →
    Linked r root rest →
    Linked r root (f :: rest)

variable {r : Registry} {root : String}

/-- A record that is waited for is the first of its name. -/
lemma Awaits.found {frames : List Frame} {record : StepRecord}
    (h : Awaits r root frames record) : r.find? record.name = some record := by
  cases frames with
  | nil =>
    obtain rfl := Registry.name_of_find? h
    exact h
  | cons f rest => exact (StepRecord.route_of_edge h).2

/-- The station of the record that is waited for is the one the register has to stand for. -/
lemma Awaits.station {frames : List Frame} {record : StepRecord} (linked : Linked r root frames)
    (h : Awaits r root frames record) : awaited? r root frames = some record.station := by
  cases linked with
  | nil => exact congrArg (Option.map StepRecord.station) h
  | cons _ awaits _ => exact Registry.stationAfter?_of_edge awaits.found h

/-- The step of the innermost frame refers to the record that it waits for. -/
lemma Awaits.refers {f : Frame} {rest : List Frame} {record : StepRecord}
    (linked : Linked r root (f :: rest)) (h : Awaits r root (f :: rest) record) :
    r.Refers f.record.name record.name := by
  cases linked with
  | cons notFinish awaits _ =>
    obtain ⟨route, -⟩ := StepRecord.route_of_edge h
    exact ⟨f.record, awaits.found, StepRecord.mem_references notFinish route⟩

/-- The root leads to the record that is waited for. -/
lemma Awaits.referenced {frames : List Frame} {record : StepRecord}
    (linked : Linked r root frames) (h : Awaits r root frames record) :
    r.Referenced root record.name := by
  induction frames generalizing record with
  | nil =>
    obtain rfl := Registry.name_of_find? h
    exact .root
  | cons f rest ih =>
    have refers := h.refers linked
    cases linked with
    | cons _ awaits linked => exact .step (ih linked awaits) refers

/-- The step of each frame leads to the record that is waited for. -/
lemma Awaits.leadsTo {frames : List Frame} {record : StepRecord} {f : Frame}
    (linked : Linked r root frames) (h : Awaits r root frames record) (mem : f ∈ frames) :
    r.LeadsTo f.record.name record.name := by
  -- a frame further down leads to the innermost one, for which the others waited
  induction frames generalizing record with
  | nil => cases mem
  | cons g rest ih =>
    have refers := h.refers linked
    cases linked with
    | cons _ awaits linked =>
      cases mem with
      | head => exact .one refers
      | tail _ mem => exact (ih linked awaits mem).trans (.one refers)

/-- The root leads to the step of each frame. -/
lemma Linked.referenced {f : Frame} {rest : List Frame} (linked : Linked r root (f :: rest)) :
    r.Referenced root f.record.name := by
  cases linked with
  | cons _ awaits linked => exact awaits.referenced linked

/-- The record of a frame is the first of its name, and it does not end the pipeline. -/
lemma Linked.found {frames : List Frame} {f : Frame} (linked : Linked r root frames)
    (mem : f ∈ frames) :
    r.find? f.record.name = some f.record ∧ f.record.kind.isFinish = false := by
  induction linked with
  | nil => cases mem
  | cons notFinish awaits _ ih =>
    cases mem with
    | head => exact ⟨awaits.found, notFinish⟩
    | tail _ mem => exact ih mem

end Pipeline.Compile
