import ScriptGate.Json.Printer

/-!
What can go wrong with a request, and how it is told to a host that speaks JSON.

A fault is a request that never reached the engine, a fault of the script itself, or a
refusal of the engine. Its report is an object with the kind, the message and, for a
bad argument, the name of the parameter.
-/

namespace ScriptGate

inductive Fault where
  /-- The parameter `param` of a request is not as it has to be. -/
  | argument (param message : String)
  /-- The script did not yield a value; the text is the engine's own. -/
  | script (text : String)
  /-- The engine refused an operation. -/
  | engine (message : String)
deriving DecidableEq, Repr

/-- The report of a fault. -/
structure FaultReport where
  kind : String
  message : String
  param : Option String
deriving DecidableEq, Repr

namespace Fault

/-- The word for the kind of fault. -/
def kind : Fault → String
  | .argument .. => "argument"
  | .script _ => "script"
  | .engine _ => "engine"

/-- The bare message. -/
def message : Fault → String
  | .argument _ message => message
  | .script text => text
  | .engine message => message

/-- The parameter that is at fault. -/
def param? : Fault → Option String
  | .argument param _ => some param
  | _ => none

/-- The text that a person is shown. -/
def display : Fault → String
  | .argument param message => "Invalid argument \x60" ++ param ++ "\x60: " ++ message
  | .script text => text
  | .engine message => message

/-- The report of a fault. -/
def report (f : Fault) : FaultReport := ⟨f.kind, f.message, f.param?⟩

end Fault

namespace FaultReport

/-- A report as a JSON object; a missing parameter is left out. -/
def toJson (r : FaultReport) : Json.Value :=
  .object
    ([("error_type", .text r.kind), ("message", .text r.message)] ++
      (r.param.map fun p => ("param", Json.Value.text p)).toList)

/-- The JSON text of a report. -/
def render (r : FaultReport) : String := r.toJson.render

end FaultReport

end ScriptGate
