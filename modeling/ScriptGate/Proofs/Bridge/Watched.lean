import ScriptGate.Bridge

/-!
# Bridges over a watched host

What a bridge asks of its host is not in its answers. `Watched H` is a host that passes every call
on to a host of type `H` and notes it together with its answer. A bridge over the watched host
answers, reports and ends as the bridge over the host alone (`Bridge.handle_unwatched`), so the
notes tell which calls the latter makes.
-/

namespace ScriptGate

open Json (Value)

/-- A call of an entry point, with its answer. -/
inductive HostCall where
  | evaluate (source answer : String)
  /-- The arguments are the JSON text of a list. -/
  | invoke (name args answer : String)
  | startDebugger (port : UInt16) (answer : Bool)
  | stopDebugger
deriving DecidableEq, Repr

/-- A host and the calls that were made of it, oldest first. -/
structure Watched (H : Type) where
  host : H
  calls : List HostCall

namespace Watched

variable {H α : Type}

/-- A turn of the host, noted. -/
def note (w : Watched H) (call : α → HostCall) (turn : Turn H α) : Turn (Watched H) α :=
  turn.within fun host => ⟨host, w.calls ++ [call turn.answer]⟩

instance [Host H] : Host (Watched H) where
  evaluate source w := w.note (.evaluate source) (Host.evaluate source w.host)
  invoke name args w := w.note (.invoke name args) (Host.invoke name args w.host)
  startDebugger port w := w.note (.startDebugger port) (Host.startDebugger port w.host)
  stopDebugger w := w.note (fun _ => .stopDebugger) (Host.stopDebugger w.host)

end Watched

namespace Bridge

variable {H : Type}

/-! ## The three ways of starting a session -/

section Starting

variable [Host H] {b : Bridge H} {port : UInt16}

/-- A session that is running is left alone, and so is the host. -/
theorem enableDebugger_of_running {current : UInt16} (running : b.debugger = .running current) :
    b.enableDebugger port =
      ⟨.error (.engine ("debug server already running on port " ++ toString current)), b,
        [.debuggerRejected current port]⟩ := by
  obtain ⟨host, debugger⟩ := b
  cases running
  rfl

theorem enableDebugger_of_started (stopped : b.debugger = .stopped)
    (started : (Host.startDebugger port b.host).answer = true) :
    b.enableDebugger port =
      ⟨.ok (), ⟨(Host.startDebugger port b.host).state, .running port⟩,
        (Host.startDebugger port b.host).events ++ [.debuggerRunning port]⟩ := by
  rw [enableDebugger, stopped, Debugger.enable]
  simp only [started, if_true]
  rfl

theorem enableDebugger_of_failed (stopped : b.debugger = .stopped)
    (failed : (Host.startDebugger port b.host).answer = false) :
    b.enableDebugger port =
      ⟨.error (.engine "failed to start debug server"),
        ⟨(Host.startDebugger port b.host).state, .stopped⟩,
        (Host.startDebugger port b.host).events ++ [.debuggerFailed port]⟩ := by
  rw [enableDebugger, stopped, Debugger.enable]
  simp only [failed, Bool.false_eq_true, if_false]
  rfl

end Starting

/-! ## Watching -/

/-- The bridge with its host watched from now on. -/
def watched (b : Bridge H) : Bridge (Watched H) := ⟨⟨b.host, []⟩, b.debugger⟩

/-- The bridge without the notes. -/
def unwatched (b : Bridge (Watched H)) : Bridge H := ⟨b.host.host, b.debugger⟩

variable [Host H] (w : Bridge (Watched H))

theorem evaluate_unwatched (source : String) :
    (w.evaluate source).within unwatched = w.unwatched.evaluate source := rfl

theorem invoke_unwatched (name : String) (args : List Value) :
    (w.invoke name args).within unwatched = w.unwatched.invoke name args := rfl

theorem enableDebugger_unwatched (port : UInt16) :
    (w.enableDebugger port).within unwatched = w.unwatched.enableDebugger port := by
  cases session : w.debugger with
  | running current =>
    rw [enableDebugger_of_running session, enableDebugger_of_running (b := w.unwatched) session]
    rfl
  | stopped =>
    cases answer : (Host.startDebugger port w.host.host).answer with
    | true =>
      rw [enableDebugger_of_started session answer,
        enableDebugger_of_started (b := w.unwatched) session answer]
      rfl
    | false =>
      rw [enableDebugger_of_failed session answer,
        enableDebugger_of_failed (b := w.unwatched) session answer]
      rfl

theorem disableDebugger_unwatched :
    w.disableDebugger.within unwatched = w.unwatched.disableDebugger := rfl

/-- Watching the host does not change how a request is carried out. -/
theorem dispatch_unwatched (request : Request) :
    (w.dispatch request).within unwatched = w.unwatched.dispatch request := by
  cases request with
  | evaluate source => exact w.evaluate_unwatched source
  | invoke name args => exact w.invoke_unwatched name args
  | enableDebugger port =>
    rw [dispatch, dispatch, ← enableDebugger_unwatched]
    rfl
  | disableDebugger =>
    rw [dispatch, dispatch, ← disableDebugger_unwatched]
    rfl

theorem handle_unwatched (op : String) (params : Value) :
    (w.handle op params).within unwatched = w.unwatched.handle op params := by
  unfold handle
  cases Request.ofParams op params with
  | error fault => rfl
  | ok request => exact w.dispatch_unwatched request

/-- The calls of the host by which a bridge carries out what an operation and its parameters ask,
oldest first. -/
def callsOf (op : String) (params : Value) (b : Bridge H) : List HostCall :=
  (b.watched.handle op params).state.host.calls

end Bridge

end ScriptGate
