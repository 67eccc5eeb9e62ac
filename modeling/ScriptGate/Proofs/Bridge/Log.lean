import ScriptGate.Proofs.Bridge.Session

/-!
# Debug sessions in the log

What a bridge reports of its debug sessions brackets them: a session that begins is told, and so is
its end, with the same port, before the next one begins (`Event.Alternates`). So the log alone tells
whether a session is running (`Event.Alternates.running_iff`). A host might report under any name; what a
bridge reports itself is the log over a host that keeps to itself what its calls report (`Muted`), and it
is the whole log of sessions for a host that never speaks in the name of the debugger, as the host that
runs scripts does not (`ScriptHost.discreet`). `Bridge.sessions_bracketed` puts that together
for every run over every host.
-/

namespace ScriptGate

open Json (Value)

/-! ## What the debugger reports -/

namespace Event

/-- The part of the program that reports debug sessions. -/
def debuggerTarget : String := "evalbridge::debugger"

/-- The events of a log in which the debugger tells that a session began or ended. -/
def sessions (log : List Event) : List Event :=
  log.filter fun e => e.target = debuggerTarget ∧ e.level = .info

/-- The events of a log in which the debugger warns. -/
def warnings (log : List Event) : List Event :=
  log.filter fun e => e.target = debuggerTarget ∧ e.level = .warn

theorem sessions_append (front rest : List Event) :
    sessions (front ++ rest) = sessions front ++ sessions rest :=
  List.filter_append ..

theorem warnings_append (front rest : List Event) :
    warnings (front ++ rest) = warnings front ++ warnings rest :=
  List.filter_append ..

theorem sessions_eq_nil {log : List Event} (discreet : ∀ e ∈ log, e.target ≠ debuggerTarget) :
    sessions log = [] := by
  rw [sessions, List.filter_eq_nil_iff]
  exact fun e found => by simp [discreet e found]

theorem warnings_eq_nil {log : List Event} (discreet : ∀ e ∈ log, e.target ≠ debuggerTarget) :
    warnings log = [] := by
  rw [warnings, List.filter_eq_nil_iff]
  exact fun e found => by simp [discreet e found]

/-- Events that lead from one state of the session to another: the beginnings and the ends of sessions in
turn, each end with the port of its beginning. -/
inductive Alternates : Debugger → List Event → Debugger → Prop
  | nil (d : Debugger) : Alternates d [] d
  | running {port : UInt16} {rest : List Event} {d : Debugger}
    (later : Alternates (.running port) rest d) :
    Alternates .stopped (.debuggerRunning port :: rest) d
  | stopped {port : UInt16} {rest : List Event} {d : Debugger}
    (later : Alternates .stopped rest d) :
    Alternates (.running port) (.debuggerStopped port :: rest) d

theorem Alternates.append {first middle last : Debugger} {front rest : List Event}
    (before : Alternates first front middle) (later : Alternates middle rest last) :
    Alternates first (front ++ rest) last := by
  induction before with
  | nil d => exact later
  | running _ ih => exact .running (ih later)
  | stopped _ ih => exact .stopped (ih later)

/-- The line of the log that tells of a session that began. -/
theorem line_debuggerRunning (port : UInt16) :
    (debuggerRunning port).line =
      "INFO evalbridge::debugger: Debug server running on port " ++ toString port := by
  have words : "INFO" ++ " " ++ "evalbridge::debugger" ++ ": " ++ "Debug server running on port " =
      "INFO evalbridge::debugger: Debug server running on port " := by decide
  rw [← words, String.append_assoc]
  rfl

/-- The line of the log that tells of a session that ended. -/
theorem line_debuggerStopped (port : UInt16) :
    (debuggerStopped port).line =
      "INFO evalbridge::debugger: Debug server on port " ++ toString port ++ " stopped" := by
  have words : "INFO" ++ " " ++ "evalbridge::debugger" ++ ": " ++ "Debug server on port " =
      "INFO evalbridge::debugger: Debug server on port " := by decide
  have parts : (debuggerStopped port).line = "INFO" ++ " " ++ "evalbridge::debugger" ++ ": " ++
      ("Debug server on port " ++ toString port ++ " stopped") := rfl
  rw [parts, ← words]
  simp only [String.append_assoc]

/-- No line tells both of a beginning and of an end. -/
theorem line_debuggerStopped_ne (port other : UInt16) :
    (debuggerStopped port).line ≠ (debuggerRunning other).line := by
  intro same
  rw [line_debuggerStopped, line_debuggerRunning, String.append_assoc] at same
  -- The lines part where one goes on with the port and the other with a verb.
  have chars := congrArg (fun s : String => s.toList[40]?) same
  simp only [String.toList_append] at chars
  rw [List.getElem?_append_left (by decide), List.getElem?_append_left (by decide)] at chars
  revert chars
  decide

theorem line_debuggerRunning_inj {port other : UInt16}
    (same : (debuggerRunning port).line = (debuggerRunning other).line) : port = other := by
  rw [line_debuggerRunning, line_debuggerRunning, String.append_right_inj] at same
  have numeral : toString port.toNat = toString other.toNat := same
  rw [Nat.toString_eq_ofList_toDigits, Nat.toString_eq_ofList_toDigits, String.ofList_inj] at numeral
  have value := congrArg (fun digits => Nat.ofDigitChars 10 digits 0) numeral
  rw [Nat.ofDigitChars_toDigits (by decide) (by decide),
    Nat.ofDigitChars_toDigits (by decide) (by decide)] at value
  exact UInt16.toNat_inj.mp value

/-- The last event of sessions, if there is one, tells of the session that is running or that none is. -/
theorem Alternates.last {first d : Debugger} {log : List Event} (alternates : Alternates first log d) :
    log = [] ∧ d = first ∨
      (∃ port, d = .running port ∧ log.getLast? = some (.debuggerRunning port)) ∨
      ∃ port, d = .stopped ∧ log.getLast? = some (.debuggerStopped port) := by
  induction alternates with
  | nil d => exact .inl ⟨rfl, rfl⟩
  | @running port rest d later ih =>
    rcases ih with ⟨rfl, rfl⟩ | ⟨other, rfl, last⟩ | ⟨other, rfl, last⟩
    · exact .inr (.inl ⟨port, rfl, rfl⟩)
    · exact .inr (.inl ⟨other, rfl, by rw [List.getLast?_cons, last]; rfl⟩)
    · exact .inr (.inr ⟨other, rfl, by rw [List.getLast?_cons, last]; rfl⟩)
  | @stopped port rest d later ih =>
    rcases ih with ⟨rfl, rfl⟩ | ⟨other, rfl, last⟩ | ⟨other, rfl, last⟩
    · exact .inr (.inr ⟨port, rfl, rfl⟩)
    · exact .inr (.inl ⟨other, rfl, by rw [List.getLast?_cons, last]; rfl⟩)
    · exact .inr (.inr ⟨other, rfl, by rw [List.getLast?_cons, last]; rfl⟩)

/-- The last line of sessions tells whether one is running, and on what port. -/
theorem Alternates.running_iff {d : Debugger} {log : List Event}
    (alternates : Alternates .stopped log d) (port : UInt16) :
    d = .running port ↔ log.getLast?.map line =
      some ("INFO evalbridge::debugger: Debug server running on port " ++ toString port) := by
  rw [← line_debuggerRunning]
  rcases alternates.last with ⟨rfl, rfl⟩ | ⟨other, rfl, last⟩ | ⟨other, rfl, last⟩
  · exact ⟨nofun, nofun⟩
  · rw [last]
    constructor
    · rintro ⟨⟩
      rfl
    · intro same
      rw [line_debuggerRunning_inj (Option.some.inj same)]
  · rw [last]
    exact ⟨nofun, fun same => (line_debuggerStopped_ne other port (Option.some.inj same)).elim⟩

end Event

/-! ## Hosts that do not speak for the debugger -/

/-- Whether no call of a host reports anything in the name of the debugger. -/
structure Host.Discreet (H : Type) [Host H] : Prop where
  evaluate : ∀ source (h : H), ∀ e ∈ (Host.evaluate source h).events, e.target ≠ Event.debuggerTarget
  invoke : ∀ name args (h : H),
    ∀ e ∈ (Host.invoke name args h).events, e.target ≠ Event.debuggerTarget
  startDebugger : ∀ port (h : H),
    ∀ e ∈ (Host.startDebugger port h).events, e.target ≠ Event.debuggerTarget
  stopDebugger : ∀ h : H, ∀ e ∈ (Host.stopDebugger h).events, e.target ≠ Event.debuggerTarget

/-- What a script says is not said by the debugger. -/
theorem Script.Remark.target_ne (remark : Script.Remark) :
    remark.event.target ≠ Event.debuggerTarget := by
  cases remark <;> simp [event, Event.target, Event.debuggerTarget]

theorem ScriptHost.startDebugger_target_ne {port : UInt16} {h : ScriptHost} {e : Event}
    (reported : e ∈ (h.startDebugger port).events) : e.target ≠ Event.debuggerTarget := by
  unfold startDebugger at reported
  split at reported
  · obtain rfl := List.mem_singleton.mp reported
    simp [Event.target, Event.debuggerTarget]
  · dsimp only at reported
    split at reported
    · cases reported
    · obtain rfl := List.mem_singleton.mp reported
      simp [Event.target, Event.debuggerTarget]

theorem ScriptHost.discreet : Host.Discreet ScriptHost where
  evaluate source h e reported := by
    obtain ⟨remark, rfl⟩ := h.engine.evaluate_events source reported
    exact remark.target_ne
  invoke name args h e reported := by
    obtain ⟨remark, rfl⟩ := h.call_events name args reported
    exact remark.target_ne
  startDebugger port h e reported := startDebugger_target_ne reported
  stopDebugger h e reported := nomatch reported

/-- A host that keeps to itself what its calls report. -/
structure Muted (H : Type) where
  host : H

namespace Muted

variable {H α : Type}

/-- A turn of the host, of which nothing is reported. -/
def hush (turn : Turn H α) : Turn (Muted H) α := .quiet turn.answer ⟨turn.state⟩

instance [Host H] : Host (Muted H) where
  evaluate source m := hush (Host.evaluate source m.host)
  invoke name args m := hush (Host.invoke name args m.host)
  startDebugger port m := hush (Host.startDebugger port m.host)
  stopDebugger m := hush (Host.stopDebugger m.host)

theorem discreet [Host H] : Host.Discreet (Muted H) where
  evaluate _ _ _ reported := nomatch reported
  invoke _ _ _ _ reported := nomatch reported
  startDebugger _ _ _ reported := nomatch reported
  stopDebugger _ _ reported := nomatch reported

end Muted

namespace Bridge

variable {H : Type}

/-! ## What one request adds to the log -/

/-- What a turn of a bridge reports of sessions: how the session changed. -/
def Brackets {α : Type} (b : Bridge H) (turn : Turn (Bridge H) α) : Prop :=
  Event.Alternates b.debugger (Event.sessions turn.events) turn.state.debugger

/-- What a request adds to the log beside that: a start that fails is warned of once and is not told to
have begun, and scripts that are run or called add nothing. -/
def Remarks (request : Except Fault Request) (turn : Turn (Bridge H) (Except Fault Value)) : Prop :=
  match request with
  | .ok (.enableDebugger _) => ∀ fault, turn.answer = .error fault →
    (Event.warnings turn.events).length = 1 ∧ Event.sessions turn.events = []
  | .ok (.evaluate _) | .ok (.invoke ..) =>
    Event.warnings turn.events = [] ∧ Event.sessions turn.events = []
  | .ok .disableDebugger => Event.warnings turn.events = []
  | .error _ => turn.events = []

theorem brackets_of_discreet {α : Type} {b : Bridge H} {turn : Turn (Bridge H) α}
    (discreet : ∀ e ∈ turn.events, e.target ≠ Event.debuggerTarget)
    (same : turn.state.debugger = b.debugger) : Brackets b turn := by
  rw [Brackets, Event.sessions_eq_nil discreet, same]
  exact .nil _

/-- A bridge does not speak for the debugger where its host does not, be it to report a fault. -/
theorem finish_target_ne {context : String} {b : Bridge H} {turn : Turn H String}
    (discreet : ∀ e ∈ turn.events, e.target ≠ Event.debuggerTarget) :
    ∀ e ∈ (finish context b turn).events, e.target ≠ Event.debuggerTarget := by
  intro e reported
  rcases List.mem_append.mp reported with before | fault
  · exact discreet e before
  · split at fault
    · obtain rfl := List.mem_singleton.mp fault
      simp [Event.target, Event.debuggerTarget]
    · cases fault

/-! ## Bridges over muted hosts -/

/-- The bridge with its host muted. -/
def muted (b : Bridge H) : Bridge (Muted H) := ⟨⟨b.host⟩, b.debugger⟩

/-- Whether a turn of a bridge over a muted host is that of the bridge over the host itself, but for
what the host reports. -/
structure Mutes {α : Type} (muted : Turn (Bridge (Muted H)) α) (turn : Turn (Bridge H) α) : Prop where
  answer : muted.answer = turn.answer
  state : muted.state = turn.state.muted
  /-- The host reports before the bridge does. -/
  events : ∃ told, turn.events = told ++ muted.events

theorem finish_muted (context : String) (b : Bridge H) (turn : Turn H String) :
    Mutes (finish context b.muted (Muted.hush turn)) (finish context b turn) :=
  ⟨rfl, rfl, turn.events, rfl⟩

theorem Mutes.map {α β : Type} {muted : Turn (Bridge (Muted H)) α} {turn : Turn (Bridge H) α}
    (mutes : Mutes muted turn) (f : α → β) : Mutes (muted.map f) (turn.map f) :=
  ⟨congrArg f mutes.answer, mutes.state, mutes.events⟩

variable [Host H]

/-- What is reported while a bridge is asked one thing after the other, oldest first. -/
def log : List Action → Bridge H → List Event
  | [], _ => []
  | action :: rest, b => (b.perform action).events ++ log rest (b.perform action).state

theorem enableDebugger_muted (port : UInt16) (b : Bridge H) :
    Mutes (b.muted.enableDebugger port) (b.enableDebugger port) := by
  cases session : b.debugger with
  | running current =>
    rw [enableDebugger_of_running session, enableDebugger_of_running (b := b.muted) session]
    exact ⟨rfl, rfl, [], rfl⟩
  | stopped =>
    cases answer : (Host.startDebugger port b.host).answer with
    | true =>
      rw [enableDebugger_of_started session answer,
        enableDebugger_of_started (b := b.muted) session answer]
      exact ⟨rfl, rfl, _, rfl⟩
    | false =>
      rw [enableDebugger_of_failed session answer,
        enableDebugger_of_failed (b := b.muted) session answer]
      exact ⟨rfl, rfl, _, rfl⟩

theorem disableDebugger_muted (b : Bridge H) : Mutes b.muted.disableDebugger b.disableDebugger :=
  ⟨rfl, rfl, _, rfl⟩

theorem dispatch_muted (request : Request) (b : Bridge H) :
    Mutes (b.muted.dispatch request) (b.dispatch request) := by
  cases request with
  | evaluate source => exact finish_muted "evaluate" b (Host.evaluate source b.host)
  | invoke name args => exact finish_muted name b (Host.invoke name (Json.renderList args) b.host)
  | enableDebugger port => exact (enableDebugger_muted port b).map _
  | disableDebugger => exact (disableDebugger_muted b).map fun _ => Except.ok Value.null

theorem perform_muted (action : Action) (b : Bridge H) :
    Mutes (b.muted.perform action) (b.perform action) := by
  rw [perform_eq, perform_eq]
  cases action.request with
  | ok request => exact dispatch_muted request b
  | error fault => exact ⟨rfl, rfl, [], rfl⟩

theorem after_muted (actions : List Action) (b : Bridge H) :
    b.muted.after actions = (b.after actions).muted := by
  induction actions generalizing b with
  | nil => rfl
  | cons action rest ih => rw [after, after, (perform_muted action b).state, ih]

/-! ## What a run adds to the log -/

section Discreet

variable (discreet : Host.Discreet H)

include discreet

theorem evaluate_target_ne (source : String) (b : Bridge H) :
    ∀ e ∈ (b.evaluate source).events, e.target ≠ Event.debuggerTarget :=
  finish_target_ne (discreet.evaluate source b.host)

theorem invoke_target_ne (name : String) (args : List Value) (b : Bridge H) :
    ∀ e ∈ (b.invoke name args).events, e.target ≠ Event.debuggerTarget :=
  finish_target_ne (discreet.invoke name _ b.host)

/-- What a start of the session reports, in each of the three ways in which it can go. -/
theorem enableDebugger_told (port : UInt16) (b : Bridge H) :
    Brackets b (b.enableDebugger port) ∧
      ∀ fault, (b.enableDebugger port).answer = .error fault →
        (Event.warnings (b.enableDebugger port).events).length = 1 ∧
          Event.sessions (b.enableDebugger port).events = [] := by
  have quiet := discreet.startDebugger port b.host
  cases session : b.debugger with
  | running current =>
    rw [enableDebugger_of_running session, Brackets, session]
    exact ⟨.nil _, fun _ _ => ⟨rfl, rfl⟩⟩
  | stopped =>
    cases answer : (Host.startDebugger port b.host).answer with
    | true =>
      rw [enableDebugger_of_started session answer, Brackets, session, Event.sessions_append,
        Event.sessions_eq_nil quiet]
      exact ⟨.running (.nil _), nofun⟩
    | false =>
      rw [enableDebugger_of_failed session answer, Brackets, session, Event.sessions_append,
        Event.sessions_eq_nil quiet, Event.warnings_append, Event.warnings_eq_nil quiet]
      exact ⟨.nil _, fun _ _ => ⟨rfl, rfl⟩⟩

theorem disableDebugger_told (b : Bridge H) :
    Brackets b b.disableDebugger ∧ Event.warnings b.disableDebugger.events = [] := by
  have quiet := discreet.stopDebugger b.host
  obtain ⟨host, debugger⟩ := b
  cases debugger with
  | stopped =>
    have events : (disableDebugger ⟨host, .stopped⟩).events =
        (Host.stopDebugger host).events ++ [] := rfl
    rw [Brackets, events, List.append_nil, Event.sessions_eq_nil quiet, Event.warnings_eq_nil quiet]
    exact ⟨.nil _, rfl⟩
  | running port =>
    have events : (disableDebugger ⟨host, .running port⟩).events =
        (Host.stopDebugger host).events ++ [.debuggerStopped port] := rfl
    rw [Brackets, events, Event.sessions_append, Event.sessions_eq_nil quiet,
      Event.warnings_append, Event.warnings_eq_nil quiet]
    exact ⟨.stopped (.nil _), rfl⟩

theorem dispatch_told (request : Request) (b : Bridge H) :
    Brackets b (b.dispatch request) ∧ Remarks (.ok request) (b.dispatch request) := by
  cases request with
  | evaluate source =>
    have quiet := b.evaluate_target_ne discreet source
    exact ⟨brackets_of_discreet quiet rfl, Event.warnings_eq_nil quiet, Event.sessions_eq_nil quiet⟩
  | invoke name args =>
    have quiet := b.invoke_target_ne discreet name args
    exact ⟨brackets_of_discreet quiet rfl, Event.warnings_eq_nil quiet, Event.sessions_eq_nil quiet⟩
  | disableDebugger => exact b.disableDebugger_told discreet
  | enableDebugger port =>
    obtain ⟨brackets, failure⟩ := enableDebugger_told discreet port b
    refine ⟨brackets, fun fault failed => ?_⟩
    cases answer : (b.enableDebugger port).answer with
    | error other => exact failure other answer
    | ok _ =>
      rw [dispatch, Turn.map, answer] at failed
      cases failed

theorem perform_told (action : Action) (b : Bridge H) :
    Brackets b (b.perform action) ∧ Remarks action.request (b.perform action) := by
  rw [perform_eq]
  cases action.request with
  | ok request => exact b.dispatch_told discreet request
  | error fault => exact ⟨.nil _, rfl⟩

/-- The sessions in the log of a run lead from the session at its beginning to the one at its end. -/
theorem log_alternates (actions : List Action) (b : Bridge H) :
    Event.Alternates b.debugger (Event.sessions (b.log actions)) (b.after actions).debugger := by
  induction actions generalizing b with
  | nil => exact .nil _
  | cons action rest ih =>
    rw [log, Event.sessions_append]
    exact (perform_told discreet action b).1.append (ih _)

end Discreet

/-- What the log of a new bridge tells of the sessions in a run. -/
structure Bracketed (b : Bridge H) (actions : List Action) : Prop where
  alternates :
    Event.Alternates .stopped (Event.sessions (b.log actions)) (b.after actions).debugger
  running_iff : ∀ port, (b.after actions).debugger = .running port ↔
    (Event.sessions (b.log actions)).getLast?.map Event.line =
      some ("INFO evalbridge::debugger: Debug server running on port " ++ toString port)
  remarks : ∀ earlier action later, actions = earlier ++ action :: later →
    Remarks action.request ((b.after earlier).perform action)

theorem bracketed (discreet : Host.Discreet H) {b : Bridge H} (stopped : b.debugger = .stopped)
    (actions : List Action) : Bracketed b actions := by
  have alternates := log_alternates discreet actions b
  rw [stopped] at alternates
  exact ⟨alternates, alternates.running_iff, fun _ action _ _ => (perform_told discreet action _).2⟩

end Bridge

end ScriptGate
