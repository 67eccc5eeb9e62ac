import ScriptGate.Host.Basic
import ScriptGate.Debugger
import ScriptGate.Outcome
import ScriptGate.Request

/-!
A bridge owns one host and its debug session, and speaks JSON values and faults where the host speaks
text. A request is checked as a whole before the host hears of it; each valid
request calls one entry point of the host, except that a session that is running is not started again.
-/

namespace ScriptGate

open Json (Value)

structure Bridge (H : Type) where
  host : H
  debugger : Debugger

namespace Bridge

variable {H : Type}

/-- A bridge over a host, with no session running. -/
def ofHost (host : H) : Bridge H := ⟨host, .stopped⟩

variable [Host H]

/-- The result that a host's answer stands for; a fault is reported together with its context. -/
def finish (context : String) (b : Bridge H) (turn : Turn H String) :
    Turn (Bridge H) (Except Fault Value) :=
  let result := (Outcome.classify turn.answer).result
  ⟨result, { b with host := turn.state },
    turn.events ++
      match result with
      | .error (.script text) => [.scriptFault context text]
      | _ => []⟩

/-- Runs a source text. -/
def evaluate (source : String) (b : Bridge H) : Turn (Bridge H) (Except Fault Value) :=
  finish "evaluate" b (Host.evaluate source b.host)

/-- Calls a function of a script. -/
def invoke (name : String) (args : List Value) (b : Bridge H) :
    Turn (Bridge H) (Except Fault Value) :=
  finish name b (Host.invoke name (Json.renderList args) b.host)

/-- Puts the parts of a bridge together again. -/
def assemble {α : Type} (turn : Turn (Debugger × H) α) : Turn (Bridge H) α :=
  turn.within fun (debugger, host) => ⟨host, debugger⟩

/-- Starts the debug session. -/
def enableDebugger (port : UInt16) (b : Bridge H) : Turn (Bridge H) (Except Fault Unit) :=
  assemble (b.debugger.enable port Host.startDebugger b.host)

/-- Ends the debug session. -/
def disableDebugger (b : Bridge H) : Turn (Bridge H) Unit :=
  assemble (b.debugger.disable Host.stopDebugger b.host)

/-- Carries out a request. -/
def dispatch : Request → Bridge H → Turn (Bridge H) (Except Fault Value)
  | .evaluate source, b => b.evaluate source
  | .invoke name args, b => b.invoke name args
  | .enableDebugger port, b => (b.enableDebugger port).map fun result => result.map fun _ => .null
  | .disableDebugger, b => b.disableDebugger.map fun _ => .ok .null

/-- Carries out the request that an operation and its parameters make. -/
def handle (op : String) (params : Value) (b : Bridge H) : Turn (Bridge H) (Except Fault Value) :=
  match Request.ofParams op params with
  | .ok request => b.dispatch request
  | .error fault => .quiet (.error fault) b

/-! ## All that can be asked of a bridge -/

/-- What can be asked of a bridge. -/
inductive Action where
  | evaluate (source : String)
  | invoke (name : String) (args : List Value)
  | enableDebugger (port : UInt16)
  | disableDebugger
  | dispatch (request : Request)
  | handle (op : String) (params : Value)

/-- Does what is asked; what answers nothing answers null. -/
def perform : Action → Bridge H → Turn (Bridge H) (Except Fault Value)
  | .evaluate source, b => b.evaluate source
  | .invoke name args, b => b.invoke name args
  | .enableDebugger port, b => b.dispatch (.enableDebugger port)
  | .disableDebugger, b => b.dispatch .disableDebugger
  | .dispatch request, b => b.dispatch request
  | .handle op params, b => b.handle op params

end Bridge

end ScriptGate
