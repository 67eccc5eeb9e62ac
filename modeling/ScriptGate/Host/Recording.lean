import ScriptGate.Host.Basic
import ScriptGate.Json.Reader
import ScriptGate.Outcome

/-!
A host that runs no scripts: it answers from prepared texts and keeps books of its calls.

A source without a prepared answer has no value. A call without one answers its first argument, or no
value if there are no arguments, or the reader's complaint if the arguments are not a list.
Of several answers prepared for one key the last one counts.
-/

namespace ScriptGate

/-- How often each entry point was called. -/
structure Calls where
  evaluate : Nat
  invoke : Nat
  startDebugger : Nat
  stopDebugger : Nat
deriving DecidableEq, Repr

/-- The number of all calls. -/
def Calls.total (c : Calls) : Nat := c.evaluate + c.invoke + c.startDebugger + c.stopDebugger

structure RecordingHost where
  /-- Prepared answers to sources, the latest first. -/
  evaluations : List (String × String)
  /-- Prepared answers to calls, by name and argument text, the latest first. -/
  responses : List ((String × String) × String)
  debuggerFails : Bool
  calls : Calls
  /-- The name and the argument text of every call, oldest first. -/
  invocations : List (String × String)
deriving DecidableEq, Repr

namespace RecordingHost

/-- A host with nothing prepared. -/
def empty : RecordingHost := ⟨[], [], false, ⟨0, 0, 0, 0⟩, []⟩

/-- Prepares the answer to a source. -/
def respond (source answer : String) (h : RecordingHost) : RecordingHost :=
  { h with evaluations := (source, answer) :: h.evaluations }

/-- Prepares the answer to a call. -/
def respondInvoke (name args answer : String) (h : RecordingHost) : RecordingHost :=
  { h with responses := ((name, args), answer) :: h.responses }

/-- Lets every start of the debugger fail. -/
def failingDebugger (h : RecordingHost) : RecordingHost := { h with debuggerFails := true }

/-- The answer to a source. -/
def answerSource (h : RecordingHost) (source : String) : String :=
  (h.evaluations.lookup source).getD noValue

/-- What a call without a prepared answer yields. -/
def echo (args : String) : String :=
  match Json.readList args with
  | .ok (first :: _) => first.render
  | .ok [] => noValue
  | .error e => e.message

/-- The answer to a call. -/
def answerCall (h : RecordingHost) (name args : String) : String :=
  (h.responses.lookup (name, args)).getD (echo args)

instance : Host RecordingHost where
  evaluate source h :=
    .quiet (h.answerSource source)
      { h with calls := { h.calls with evaluate := h.calls.evaluate + 1 } }
  invoke name args h :=
    .quiet (h.answerCall name args)
      { h with
        calls := { h.calls with invoke := h.calls.invoke + 1 }
        invocations := h.invocations ++ [(name, args)] }
  startDebugger _ h :=
    .quiet (!h.debuggerFails)
      { h with calls := { h.calls with startDebugger := h.calls.startDebugger + 1 } }
  stopDebugger h :=
    .quiet () { h with calls := { h.calls with stopDebugger := h.calls.stopDebugger + 1 } }

end RecordingHost

end ScriptGate
