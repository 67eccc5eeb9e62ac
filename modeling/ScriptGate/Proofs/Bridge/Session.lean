import ScriptGate.Proofs.Bridge.Run
import ScriptGate.Proofs.Bridge.Watched
import ScriptGate.Startup

/-!
# The session of a bridge and the listener of its host

That a debug session is running is recorded twice: a bridge keeps the port that was asked for, and the
host that runs scripts keeps the listener. Each is changed by code of its own. `Agreement` says when
the two tell the same, and every request preserves that (`Bridge.Agrees.dispatch`), whatever the
machine answers to the attempts to bind. So a host that holds a listener is never asked for another
one (`Bridge.session_held`).
-/

namespace ScriptGate

open Json (Value)
open Network (Address Listener Machine)

/-! ## What scripts leave alone -/

namespace Script.Engine

variable (e : Engine)

theorem turn_settings (keep : List Variable → List Variable)
    (ended : EStateM.Result Stop State Value) : (e.turn keep ended).state.settings = e.settings := by
  cases ended <;> rfl

theorem evaluate_settings (source : String) : (e.evaluate source).state.settings = e.settings := by
  unfold evaluate
  split
  · exact turn_settings _ id _
  · rfl

theorem invoke_settings (name : String) (args : List Value) :
    (e.invoke name args).state.settings = e.settings := by
  unfold invoke
  split
  · exact turn_settings _ _ _
  · rfl

/-- All that is reported is a remark of the script. -/
theorem turn_events (keep : List Variable → List Variable)
    (ended : EStateM.Result Stop State Value) {event : Event}
    (reported : event ∈ (e.turn keep ended).events) : ∃ remark : Remark, remark.event = event := by
  cases ended with
  | ok v s =>
    obtain ⟨remark, -, same⟩ := List.mem_map.mp reported
    exact ⟨remark, same⟩
  | error stop s =>
    obtain ⟨remark, -, same⟩ := List.mem_map.mp reported
    exact ⟨remark, same⟩

theorem evaluate_events (source : String) {event : Event}
    (reported : event ∈ (e.evaluate source).events) : ∃ remark : Remark, remark.event = event := by
  unfold evaluate at reported
  split at reported
  · exact turn_events _ id _ reported
  · cases reported

theorem invoke_events (name : String) (args : List Value) {event : Event}
    (reported : event ∈ (e.invoke name args).events) : ∃ remark : Remark, remark.event = event := by
  unfold invoke at reported
  split at reported
  · exact turn_events _ _ _ reported
  · cases reported

end Script.Engine

namespace ScriptHost

variable (h : ScriptHost)

theorem call_settings (name args : String) :
    (h.call name args).state.settings = h.engine.settings := by
  unfold call
  split
  · exact h.engine.invoke_settings name _
  · rfl

theorem call_events (name args : String) {event : Event}
    (reported : event ∈ (h.call name args).events) :
    ∃ remark : Script.Remark, remark.event = event := by
  unfold call at reported
  split at reported
  · exact h.engine.invoke_events name _ reported
  · cases reported

end ScriptHost

/-! ## Listeners -/

namespace Network.Listener

variable {machine : Machine} {attempt : Nat} {address : Address} {port : UInt16}
  {listener : Listener}

/-- A listener is where it was asked for: at the port, or at any but zero if the port was zero. -/
structure At (address : Address) (port : UInt16) (listener : Listener) : Prop where
  address_eq : listener.address = address
  port_eq : port ≠ 0 → listener.port = port
  port_ne_zero : port = 0 → listener.port ≠ 0

theorem at_of_bind? (bound : bind? machine attempt address port = some listener) :
    At address port listener := by
  unfold bind? at bound
  split at bound
  · cases bound
  · next free free_ne_zero granted =>
    cases bound
    refine ⟨rfl, fun nonzero => if_neg nonzero, fun zero => ?_⟩
    dsimp only
    rw [if_pos zero]
    exact free_ne_zero

end Network.Listener

namespace ScriptHost

variable {h : ScriptHost} {port : UInt16}

theorem startDebugger_of_bound {listener : Listener} (free : h.listener = none)
    (bound : Listener.bind? h.machine h.attempts h.engine.settings.debuggerHost port =
      some listener) :
    h.startDebugger port =
      .quiet true { h with attempts := h.attempts + 1, listener := some listener } := by
  rw [startDebugger, free]
  simp only [bound]

theorem startDebugger_of_refused (free : h.listener = none)
    (refused : Listener.bind? h.machine h.attempts h.engine.settings.debuggerHost port = none) :
    h.startDebugger port =
      ⟨false, { h with attempts := h.attempts + 1 }, [.bindFailed port]⟩ := by
  rw [startDebugger, free]
  simp only [refused]

end ScriptHost

/-! ## Agreement -/

/-- When a session and a listener tell the same; `address` is where listeners are asked for. -/
inductive Agreement (address : Address) : Debugger → Option Listener → Prop
  | stopped : Agreement address .stopped none
  | running {port : UInt16} {listener : Listener} (place : listener.At address port) :
    Agreement address (.running port) (some listener)

namespace Bridge

variable {settings : Settings} {b : Bridge ScriptHost}

/-- The session of a bridge agrees with the listener of its host, whose settings are the given
ones. -/
structure Agrees (settings : Settings) (b : Bridge ScriptHost) : Prop where
  settings_eq : b.host.engine.settings = settings
  agreement : Agreement settings.debuggerHost b.debugger b.host.listener

theorem agrees_ofHost (settings : Settings) (machine : Machine) :
    Agrees settings (.ofHost (.new settings machine)) :=
  ⟨rfl, .stopped⟩

theorem Agrees.listener_eq_none (agrees : Agrees settings b) (stopped : b.debugger = .stopped) :
    b.host.listener = none := by
  have agreement := agrees.agreement
  rw [stopped] at agreement
  generalize b.host.listener = listener at agreement
  cases agreement
  rfl

/-- What a start of the session comes to where the two agree: the session is left alone, or starts
with the listener that the machine has granted, or stays stopped without one. -/
theorem Agrees.enable_cases (agrees : Agrees settings b) (port : UInt16) :
    (∃ current, b.debugger = .running current ∧
      b.enableDebugger port =
        ⟨.error (.engine ("debug server already running on port " ++ toString current)), b,
          [.debuggerRejected current port]⟩) ∨
    (∃ listener : Listener, listener.At settings.debuggerHost port ∧
      b.enableDebugger port =
        ⟨.ok (), ⟨{ b.host with attempts := b.host.attempts + 1, listener := some listener },
          .running port⟩, [.debuggerRunning port]⟩) ∨
    (b.host.listener = none ∧
      b.enableDebugger port =
        ⟨.error (.engine "failed to start debug server"),
          ⟨{ b.host with attempts := b.host.attempts + 1 }, .stopped⟩,
          [.bindFailed port, .debuggerFailed port]⟩) := by
  cases session : b.debugger with
  | running current => exact .inl ⟨current, rfl, enableDebugger_of_running session⟩
  | stopped =>
    have free := agrees.listener_eq_none session
    cases bound : Listener.bind? b.host.machine b.host.attempts
        b.host.engine.settings.debuggerHost port with
    | some listener =>
      have started : Host.startDebugger port b.host = _ :=
        ScriptHost.startDebugger_of_bound free bound
      have place := Network.Listener.at_of_bind? bound
      rw [agrees.settings_eq] at place
      rw [enableDebugger_of_started session (congrArg Turn.answer started), started]
      exact .inr (.inl ⟨listener, place, rfl⟩)
    | none =>
      have failed : Host.startDebugger port b.host = _ :=
        ScriptHost.startDebugger_of_refused free bound
      rw [enableDebugger_of_failed session (congrArg Turn.answer failed), failed]
      exact .inr (.inr ⟨free, rfl⟩)

/-- Every request preserves the agreement. -/
theorem Agrees.dispatch (agrees : Agrees settings b) (request : Request) :
    Agrees settings (b.dispatch request).state := by
  cases request with
  | evaluate source =>
    exact ⟨(b.host.engine.evaluate_settings source).trans agrees.settings_eq, agrees.agreement⟩
  | invoke name args =>
    exact ⟨(b.host.call_settings name _).trans agrees.settings_eq, agrees.agreement⟩
  | disableDebugger => exact ⟨agrees.settings_eq, .stopped⟩
  | enableDebugger port =>
    rw [Bridge.dispatch]
    rcases agrees.enable_cases port with
      ⟨current, running, rejected⟩ | ⟨listener, place, started⟩ | ⟨free, failed⟩
    · rw [rejected]
      exact agrees
    · rw [started]
      exact ⟨agrees.settings_eq, .running place⟩
    · rw [failed]
      refine ⟨agrees.settings_eq, ?_⟩
      -- The host keeps what it held, so it is the old agreement that leaves no listener behind.
      change Agreement settings.debuggerHost .stopped b.host.listener
      rw [free]
      exact .stopped

/-! ## What is reported of listeners -/

/-- A script that is run or called reports its remarks, and perhaps its fault. -/
theorem finish_events {context : String} {turn : Turn ScriptHost String} {event : Event}
    (remarks : ∀ event ∈ turn.events, ∃ remark : Script.Remark, remark.event = event)
    (reported : event ∈ (finish context b turn).events) :
    (∃ remark : Script.Remark, remark.event = event) ∨
      ∃ text, event = .scriptFault context text := by
  rcases List.mem_append.mp reported with before | fault
  · exact .inl (remarks event before)
  · split at fault
    · exact .inr ⟨_, List.mem_singleton.mp fault⟩
    · cases fault

/-- What a request may report of listeners: never that there is one already, and that none could be
bound only if there is none then. -/
structure Blameless (event : Event) (next : Bridge ScriptHost) : Prop where
  free : event ≠ .listenerPresent
  refused : ∀ port, event = .bindFailed port →
    next.debugger = .stopped ∧ next.host.listener = none

theorem blameless_of_remark {event : Event} {context : String} (next : Bridge ScriptHost)
    (said : (∃ remark : Script.Remark, remark.event = event) ∨
      ∃ text, event = .scriptFault context text) : Blameless event next := by
  rcases said with ⟨remark, rfl⟩ | ⟨text, rfl⟩
  · cases remark <;> exact ⟨by simp [Script.Remark.event], by simp [Script.Remark.event]⟩
  · exact ⟨by simp, by simp⟩

theorem Agrees.blameless (agrees : Agrees settings b) (request : Request) {event : Event}
    (reported : event ∈ (b.dispatch request).events) :
    Blameless event (b.dispatch request).state := by
  cases request with
  | evaluate source =>
    exact blameless_of_remark _
      (finish_events (fun _ => b.host.engine.evaluate_events source) reported)
  | invoke name args =>
    exact blameless_of_remark _ (finish_events (fun _ => b.host.call_events name _) reported)
  | disableDebugger =>
    obtain ⟨host, debugger⟩ := b
    cases debugger with
    | stopped => cases reported
    | running port =>
      obtain rfl := List.mem_singleton.mp reported
      exact ⟨by simp, by simp⟩
  | enableDebugger port =>
    rw [Bridge.dispatch] at reported ⊢
    rcases agrees.enable_cases port with
      ⟨current, running, rejected⟩ | ⟨listener, place, started⟩ | ⟨free, failed⟩
    · rw [rejected] at reported
      obtain rfl := List.mem_singleton.mp reported
      exact ⟨by simp, by simp⟩
    · rw [started] at reported
      obtain rfl := List.mem_singleton.mp reported
      exact ⟨by simp, by simp⟩
    · rw [failed] at reported ⊢
      refine ⟨?_, fun _ _ => ⟨rfl, free⟩⟩
      rintro rfl
      rcases List.mem_cons.mp reported with here | later
      · cases here
      · cases List.mem_singleton.mp later

/-! ## Runs -/

theorem Agrees.after (agrees : Agrees settings b) (actions : List Action) :
    Agrees settings (b.after actions) :=
  after_induction (fun request _ agrees => agrees.dispatch request) agrees actions

/-- What the agreement shows to those who ask for the session and for the address of the
listener. -/
structure SessionHeld (settings : Settings) (b : Bridge ScriptHost) : Prop where
  running_iff : (∃ port, b.debugger = .running port) ↔ ∃ listener, b.host.listener = some listener
  place : ∀ port listener, b.debugger = .running port → b.host.listener = some listener →
    listener.address = settings.debuggerHost ∧ (port ≠ 0 → listener.port = port) ∧
      (port = 0 → listener.port ≠ 0)
  address_eq_none_iff : b.host.address? = none ↔ b.debugger = .stopped

theorem Agrees.held (agrees : Agrees settings b) : SessionHeld settings b := by
  obtain ⟨⟨engine, machine, attempts, listener⟩, debugger⟩ := b
  have agreement : Agreement settings.debuggerHost debugger listener := agrees.agreement
  cases agreement with
  | stopped =>
    constructor
    case running_iff => exact ⟨nofun, nofun⟩
    case place => nofun
    case address_eq_none_iff => exact ⟨fun _ => rfl, fun _ => rfl⟩
  | @running port listener place =>
    constructor
    case running_iff => exact ⟨fun _ => ⟨listener, rfl⟩, fun _ => ⟨port, rfl⟩⟩
    case place =>
      rintro _ _ ⟨⟩ ⟨⟩
      exact ⟨place.address_eq, place.port_eq, place.port_ne_zero⟩
    case address_eq_none_iff => exact ⟨nofun, nofun⟩

/-- Whatever is asked of a new bridge, one thing after the other, and whatever its machine answers to
attempts to bind: a session is running exactly if the host holds a listener, which is then where it
was asked for; and the host is never asked for a listener beside another. -/
theorem session_held (settings : Settings) (machine : Machine) (startup : Startup)
    (b : Bridge ScriptHost) (made : (startup.newBridge settings machine).answer = .ok b)
    (actions : List Action) :
    SessionHeld settings (b.after actions) ∧
      ∀ action, ∀ event ∈ ((b.after actions).perform action).events,
        Blameless event ((b.after actions).perform action).state := by
  have agrees : Agrees settings (b.after actions) := by
    cases startup with
    | pending => cases made
    | ready =>
      cases made
      exact (agrees_ofHost settings machine).after actions
  refine ⟨agrees.held, fun action event reported => ?_⟩
  rcases perform_cases action (b.after actions) with
    ⟨request, carriedOut⟩ | ⟨fault, refused⟩
  · rw [carriedOut] at reported ⊢
    exact agrees.blameless request reported
  · rw [refused] at reported
    cases reported

/-- A machine that refuses the first attempt to bind: the session stays stopped, and the next start
on any free port brings a listener. -/
theorem session_held_behind_refusal :
    ∃ listener, ((Bridge.ofHost (ScriptHost.new .standard fun attempt _ _ =>
        if attempt = 0 then .refused else .granted 49152 (by decide))).after
          [.enableDebugger 9222, .handle "enable_debugger" (.object [("port", .ofNat64 0)]),
            .evaluate "throw 1"]).host.listener = some listener ∧
      listener.address = .loopback ∧ listener.port ≠ 0 := by
  have held := (session_held .standard (fun attempt _ _ =>
    if attempt = 0 then .refused else .granted 49152 (by decide)) .ready _ rfl
      [.enableDebugger 9222, .handle "enable_debugger" (.object [("port", .ofNat64 0)]),
        .evaluate "throw 1"]).1
  obtain ⟨listener, found⟩ := held.running_iff.mp ⟨0, by decide +kernel⟩
  have place := held.place 0 listener (by decide +kernel) found
  exact ⟨listener, found, place.1, place.2.2 rfl⟩

end Bridge

end ScriptGate
