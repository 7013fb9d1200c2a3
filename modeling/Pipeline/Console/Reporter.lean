import Pipeline.Console.Display

/-!
# Reporting a run

The reporter turns the events of a run into text (specification, section 15). The label of a step is
held back until the event after the step's start and printed then, so that it stands right before
what the step brought about; a label that another step's start overtakes is lost.
-/

namespace Pipeline

/-- How events are reported. -/
structure Reporter where
  console : Console
  /-- The most lines of a step's output to print. -/
  maxOutputLines : Option Nat := none

namespace Reporter

/-- A label as it is printed: eight spaces for each tab. -/
def expandTabs (label : String) : String :=
  String.join (label.toList.map fun ch => if ch = '\t' then "        " else ch.toString)

/-- The output of a step as it is printed, nothing for a blank one. -/
def outputText (r : Reporter) (output : String) : String :=
  if Text.isBlankText output then ""
  else
    let trimmed := Text.trimEnd output
    (match r.maxOutputLines with
      | some max => r.console.truncate trimmed max
      | none => trimmed) ++ "\n"

/-- What an event prints, the label held back so far left aside. -/
def eventText (r : Reporter) : Event → String
  | .stepStarted _ _ _ => ""
  | .stepOutput _ output => r.outputText output
  | event => (r.console.eventLine? event).elim "" (· ++ "\n")

/-- The label that is printed before an event's own text. -/
def labelText (held : Option String) : String :=
  held.elim "" fun label => expandTabs label ++ "\n"

/-- The label held back after an event, and what the event prints. -/
def handle (r : Reporter) (held : Option String) : Event → Option String × String
  | .stepStarted sequence step stepType => (some (r.console.stepLabel sequence step stepType), "")
  | event => (none, labelText held ++ r.eventText event)

/-- What each of a list of events prints. -/
def transcript (r : Reporter) (held : Option String) : List Event → List String
  | [] => []
  | event :: events =>
    let (held, text) := r.handle held event
    text :: r.transcript held events

end Reporter

end Pipeline
