import Pipeline.Run.Event

/-!
# Handlers of events

Whoever wants to follow a run adds a handler (specification, section 13). Every event goes to all
handlers, in the order in which they were added; log entries go to none of them.
-/

namespace Pipeline

/-- A handler of events: what it has become so far, and what an event makes of that. -/
structure Handler where
  State : Type
  state : State
  react : State → Event → State

namespace Handler

/-- The handler after an event. -/
def receive (h : Handler) (e : Event) : Handler :=
  { h with state := h.react h.state e }

/-- The handlers after an event, which each of them receives. -/
def emit (hs : List Handler) (e : Event) : List Handler :=
  hs.map fun h => h.receive e

end Handler

end Pipeline
