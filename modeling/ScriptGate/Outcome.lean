import ScriptGate.Json.Reader
import ScriptGate.Fault.Basic

/-!
What the text of an engine's answer means.

An engine reports a value, the absence of a value and a fault through one channel of text.
They are told apart by two questions in this order: is the text the sentinel, letter
for letter, and is it JSON?
-/

namespace ScriptGate

/-- The text by which an engine reports that there is no value. -/
def noValue : String := "undefined"

inductive Outcome where
  | absent
  | value (v : Json.Value)
  | fault (text : String)

namespace Outcome

/-- Tells the meaning of an answer. -/
def classify (text : String) : Outcome :=
  if text = noValue then .absent
  else match Json.read? text with
    | some v => .value v
    | none => .fault text

/-- An outcome as the result of a request; the absent value is null. -/
def result : Outcome → Except Fault Json.Value
  | .absent => .ok .null
  | .value v => .ok v
  | .fault text => .error (.script text)

end Outcome

end ScriptGate
