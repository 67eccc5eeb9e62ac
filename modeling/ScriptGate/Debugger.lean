import ScriptGate.Turn
import ScriptGate.Fault.Basic

/-!
The debug session of an instance: stopped, or running on a port.

Starting is only tried while the session is stopped, and only a start that succeeds changes the
session. Stopping always calls the stop operation and always leaves the session stopped. The
operations themselves belong to someone else, whose state is passed through.
-/

namespace ScriptGate

inductive Debugger where
  | stopped
  | running (port : UInt16)
deriving DecidableEq, Repr

namespace Debugger

/-- Whether a session is running. -/
def isRunning : Debugger → Bool
  | .stopped => false
  | .running _ => true

/-- Starts a session on a port by means of `start`, which tells whether it succeeded. -/
def enable {σ : Type} (port : UInt16) (start : UInt16 → σ → Turn σ Bool) (d : Debugger) (s : σ) :
    Turn (Debugger × σ) (Except Fault Unit) :=
  match d with
  | .running current =>
    ⟨.error (.engine ("debug server already running on port " ++ toString current)), (d, s),
      [.debuggerRejected current port]⟩
  | .stopped =>
    let started := start port s
    if started.answer then
      ⟨.ok (), (.running port, started.state), started.events ++ [.debuggerRunning port]⟩
    else
      ⟨.error (.engine "failed to start debug server"), (.stopped, started.state),
        started.events ++ [.debuggerFailed port]⟩

/-- Ends the session, if there is one, by means of `stop`. -/
def disable {σ : Type} (stop : σ → Turn σ Unit) (d : Debugger) (s : σ) :
    Turn (Debugger × σ) Unit :=
  let stopped := stop s
  ⟨(), (.stopped, stopped.state),
    stopped.events ++
      match d with
      | .running port => [.debuggerStopped port]
      | .stopped => []⟩

end Debugger

end ScriptGate
