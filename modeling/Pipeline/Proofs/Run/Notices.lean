import Mathlib.Tactic.Lemma
import Pipeline.Run.Handler

/-!
# The events among notices

Taking the events out of notices goes along with putting notices together, and notices that are all
events or all log entries have those events or none. So what each handler receives are the events
among the notices (`Handler.emitAll_eq_map`).
-/

namespace Pipeline

/-- No notices have no events. -/
@[simp] lemma eventsOf_nil : eventsOf [] = [] := by simp [eventsOf]

/-- An event is among the events of notices that begin with it. -/
@[simp] lemma eventsOf_event (e : Event) (ns : List Notice) :
    eventsOf (.event e :: ns) = e :: eventsOf ns := rfl

/-- A log entry is no event. -/
@[simp] lemma eventsOf_log (entry : LogEntry) (ns : List Notice) :
    eventsOf (.log entry :: ns) = eventsOf ns := rfl

/-- The events keep their order when notices are put together. -/
@[simp] lemma eventsOf_append (ns ms : List Notice) :
    eventsOf (ns ++ ms) = eventsOf ns ++ eventsOf ms :=
  List.filterMap_append

/-- Notices of events are these events. -/
@[simp] lemma eventsOf_map_event (es : List Event) : eventsOf (es.map .event) = es := by
  induction es with
  | nil => rfl
  | cons e es ih => rw [List.map_cons, eventsOf_event, ih]

/-- There are no events among notices of log entries. -/
@[simp] lemma eventsOf_map_log (entries : List LogEntry) :
    eventsOf (entries.map .log) = [] := by
  induction entries with
  | nil => rfl
  | cons entry entries ih => rw [List.map_cons, eventsOf_log, ih]

end Pipeline
