import ScriptGate.Host.Basic
import ScriptGate.Json.Reader
import ScriptGate.Network.Listener
import ScriptGate.Outcome
import ScriptGate.Script.Engine
import ScriptGate.Script.Value.Json

/-!
The host that runs scripts: an engine beside a debug listener.

A result is told as its JSON text, the unit value as the sentinel for no value, and everything that has
no JSON form as a fault.
-/

namespace ScriptGate

/-- The text of a result. -/
def Script.Value.answerText (v : Script.Value) : String :=
  if v.isUnit then noValue
  else match v.toJson with
    | .ok json => json.render
    | .error e =>
      "Value of type '" ++ v.fullKind ++ "' has no JSON form: " ++ e.message

structure ScriptHost where
  engine : Script.Engine
  machine : Network.Machine
  /-- How many attempts to bind there were. -/
  attempts : Nat
  listener : Option Network.Listener

namespace ScriptHost

/-- A host on a machine, without a listener. -/
def new (settings : Settings) (machine : Network.Machine) : ScriptHost :=
  ⟨.new settings, machine, 0, none⟩

/-- The address that the listener is bound to. -/
def address? (h : ScriptHost) : Option (Network.Address × UInt16) :=
  h.listener.map fun l => (l.address, l.port)

/-- The text of how a script ended. -/
def answerText : Except String Script.Value → String
  | .ok v => v.answerText
  | .error text => text

/-- A turn of the engine as one of the host. -/
def ofEngine (h : ScriptHost) (turn : Turn Script.Engine (Except String Script.Value)) :
    Turn ScriptHost String :=
  (turn.map answerText).within fun engine => { h with engine := engine }

/-- How the engine runs a source. -/
def run (source : String) (h : ScriptHost) : Turn Script.Engine (Except String Script.Value) :=
  h.engine.evaluate source

/-- How the engine calls a function with the arguments that a text lists. -/
def call (name args : String) (h : ScriptHost) : Turn Script.Engine (Except String Script.Value) :=
  match Json.readList args with
  | .ok values => h.engine.invoke name (Script.Value.ofJsonItems values)
  | .error e => .quiet (.error ("Invalid argument list: " ++ e.message)) h.engine

/-- Runs a source. -/
def evaluate (source : String) (h : ScriptHost) : Turn ScriptHost String :=
  h.ofEngine (h.run source)

/-- Calls a function with the arguments that a text lists. -/
def invoke (name args : String) (h : ScriptHost) : Turn ScriptHost String :=
  h.ofEngine (h.call name args)

/-- Opens the debug listener, if there is none. -/
def startDebugger (port : UInt16) (h : ScriptHost) : Turn ScriptHost Bool :=
  match h.listener with
  | some _ => ⟨false, h, [.listenerPresent]⟩
  | none =>
    let tried := { h with attempts := h.attempts + 1 }
    match Network.Listener.bind? h.machine h.attempts h.engine.settings.debuggerHost port with
    | some listener => .quiet true { tried with listener := some listener }
    | none => ⟨false, tried, [.bindFailed port]⟩

/-- Closes the debug listener. -/
def stopDebugger (h : ScriptHost) : Turn ScriptHost Unit :=
  .quiet () { h with listener := none }

instance : Host ScriptHost where
  evaluate := evaluate
  invoke := invoke
  startDebugger := startDebugger
  stopDebugger := stopDebugger

end ScriptHost

end ScriptGate
