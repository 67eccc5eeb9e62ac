import ScriptGate.CommandLine.Program
import ScriptGate.Proofs.Bridge.Log

/-!
# Debug sessions of a run of the program

Whatever a run of the program serves or evaluates, the sessions in its log are bracketed as those of
its bridge are: a line is a request, or is refused without a trace (`Bridge.handleLine_brackets`), and
serving ends with the session that the last line has left, also at a line that is no text. The
run then ends the session, so its log is balanced (`CommandLine.sessions_balanced`).
-/

namespace ScriptGate

namespace Bridge

variable {H : Type} [Host H] (discreet : Host.Discreet H)

include discreet

/-! ## Lines -/

theorem handle_brackets (op : String) (params : Json.Value) (b : Bridge H) :
    Brackets b (b.handle op params) :=
  (perform_told discreet (.handle op params) b).1

theorem handleLine_brackets (line : String) (b : Bridge H) : Brackets b (b.handleLine line) := by
  unfold handleLine
  split
  · exact .nil _
  · split
    · exact .nil _
    · exact handle_brackets discreet _ _ b

theorem serve_brackets (lines : List (List UInt8)) (b : Bridge H) :
    Brackets b (b.serve lines) := by
  induction lines generalizing b with
  | nil => exact .nil _
  | cons bytes rest ih =>
    unfold serve
    split
    · exact .nil _
    · next line _ =>
      split
      · exact ih b
      · rw [Brackets, Event.sessions_append]
        exact (handleLine_brackets discreet line b).append (ih _)

end Bridge

namespace CommandLine

section Work

variable {H : Type} [Host H] (discreet : Host.Discreet H)

include discreet

theorem work_brackets (o : Options) (input : List UInt8) (b : Bridge H) :
    b.Brackets (work o input b) := by
  unfold work
  split
  · exact (Bridge.perform_told discreet (.evaluate _) b).1
  · exact Bridge.serve_brackets discreet (Text.lines input) b

end Work

/-! ## The log of a run -/

theorem sessions_filter_isTold (verbose : Bool) (events : List Event) :
    Event.sessions (events.filter (isTold verbose)) = Event.sessions events := by
  rw [Event.sessions, Event.sessions, List.filter_filter]
  refine List.filter_congr fun e _ => ?_
  cases level : e.level <;> simp [isTold, level]

/-- The events among some notes. -/
def noted (notes : List Note) : List Event :=
  notes.filterMap fun
    | .event e => some e
    | .text _ => none

theorem noted_append (front rest : List Note) : noted (front ++ rest) = noted front ++ noted rest :=
  List.filterMap_append ..

theorem noted_notes (verbose : Bool) (events : List Event) :
    noted (notes verbose events) = events.filter (isTold verbose) := by
  rw [noted, notes, List.filterMap_map]
  exact List.filterMap_some

theorem noted_complaint (complaint : Option String) :
    noted (complaint.map Note.text).toList = [] := by
  cases complaint <;> rfl

/-- The sessions in the log of a run are those of its start-up, of its main part and of its end. -/
theorem sessions_finish {H : Type} [Host H] (verbose : Bool) (told : List Event)
    (main : Turn (Bridge H) Done) :
    Event.sessions (finish verbose (notes verbose told) main).events =
      Event.sessions told ++ Event.sessions main.events ++
        Event.sessions main.state.disableDebugger.events := by
  have events : (finish verbose (notes verbose told) main).events =
      noted (notes verbose told ++ notes verbose main.events ++
        (main.answer.complaint.map Note.text).toList ++
          notes verbose main.state.disableDebugger.events) := rfl
  rw [events, noted_append, noted_append, noted_append, noted_notes, noted_notes, noted_notes,
    noted_complaint, List.append_nil, Event.sessions_append, Event.sessions_append,
    sessions_filter_isTold, sessions_filter_isTold, sessions_filter_isTold]

/-- The bridge that a start-up makes before it begins a session. -/
def fresh (o : Options) (machine : Network.Machine) : Bridge ScriptHost :=
  .ofHost (.new o.settings machine)

theorem start_of_none {o : Options} {machine : Network.Machine} (port : o.debugPort = none) :
    start o machine = ⟨.ok (fresh o machine), .ready, [.runtimeStarted, .instanceCreated]⟩ := by
  unfold start
  rw [port]
  rfl

theorem start_of_some {o : Options} {machine : Network.Machine} {port : UInt16}
    (wanted : o.debugPort = some port) :
    start o machine =
      let enabled := (fresh o machine).enableDebugger port
      let events := [.runtimeStarted, .instanceCreated] ++ enabled.events
      match enabled.answer with
      | .ok _ => ⟨.ok enabled.state, .ready, events⟩
      | .error fault =>
        ⟨.error fault.display, .ready, events ++ [.startFailed fault.display]⟩ := by
  unfold start
  rw [wanted]
  rfl

/-- A start-up that succeeds tells of the session that it has begun, if it has begun one. -/
theorem start_brackets {o : Options} {machine : Network.Machine} {b : Bridge ScriptHost}
    (started : (start o machine).answer = .ok b) :
    Event.Alternates .stopped (Event.sessions (start o machine).events) b.debugger := by
  cases wanted : o.debugPort with
  | none =>
    rw [start_of_none wanted] at started ⊢
    cases started
    exact .nil _
  | some port =>
    have brackets :=
      (Bridge.enableDebugger_told ScriptHost.discreet port (fresh o machine)).1
    rw [start_of_some wanted] at started ⊢
    cases answer : ((fresh o machine).enableDebugger port).answer with
    | error fault =>
      simp only [answer] at started
      cases started
    | ok _ =>
      simp only [answer] at started ⊢
      cases started
      exact brackets

/-! ## Sessions -/

/-- What a run that gets past its start-up leaves of its sessions: none, and a log that tells the end of
each of them. -/
structure Balanced (o : Options) (machine : Network.Machine) (input : List UInt8)
    (b : Bridge ScriptHost) (ending : Ending) : Prop where
  /-- The run does its work on the bridge of the start-up, and the end of the session comes last. -/
  finished : ending = finish o.verbose (notes o.verbose (start o machine).events) (work o input b)
  log : Event.Alternates .stopped (Event.sessions ending.events) .stopped
  session : (work o input b).state.disableDebugger.state.debugger = .stopped
  listener : (work o input b).state.disableDebugger.state.host.listener = none

theorem run_eq_finish {machine : Network.Machine} {args : List String} {input : List UInt8}
    {o : Options} {b : Bridge ScriptHost} (read : Options.read args = .ok o)
    (started : (start o machine).answer = .ok b) :
    run machine args input =
      finish o.verbose (notes o.verbose (start o machine).events) (work o input b) := by
  unfold run
  rw [read]
  dsimp only
  rw [started]

theorem run_balanced {machine : Network.Machine} {args : List String} {input : List UInt8}
    {o : Options} {b : Bridge ScriptHost} (read : Options.read args = .ok o)
    (started : (start o machine).answer = .ok b) :
    Balanced o machine input b (run machine args input) where
  finished := run_eq_finish read started
  log := by
    have worked := work_brackets ScriptHost.discreet o input b
    have closed :=
      (Bridge.disableDebugger_told ScriptHost.discreet (work o input b).state).1
    rw [run_eq_finish read started, sessions_finish]
    exact ((start_brackets started).append worked).append closed
  session := rfl
  listener := rfl

/-- Every run of a new bridge, over a host of any kind, brackets its sessions in what the bridge reports,
and over the host that runs scripts in all that is reported; and every run of the program that gets past its
start-up tells the end of each session it has told the beginning of, and leaves none. -/
theorem sessions_balanced :
    (∀ (H : Type) [Host H] (host : H) (actions : List Bridge.Action),
      (Bridge.ofHost host).muted.Bracketed actions ∧
        (Bridge.ofHost host).muted.after actions = ((Bridge.ofHost host).after actions).muted ∧
        ∀ (b : Bridge H) (action : Bridge.Action),
          Bridge.Mutes (b.muted.perform action) (b.perform action)) ∧
    (∀ (settings : Settings) (machine : Network.Machine) (actions : List Bridge.Action),
      (Bridge.ofHost (ScriptHost.new settings machine)).Bracketed actions) ∧
    ∀ (machine : Network.Machine) (args : List String) (input : List UInt8) (o : Options)
      (b : Bridge ScriptHost), Options.read args = .ok o → (start o machine).answer = .ok b →
        Balanced o machine input b (run machine args input) := by
  refine ⟨fun H _ host actions => ⟨?_, ?_, fun b action => Bridge.perform_muted action b⟩,
    fun settings machine actions => ?_, fun machine args input o b read started => ?_⟩
  · exact Bridge.bracketed Muted.discreet rfl actions
  · exact Bridge.after_muted actions (.ofHost host)
  · exact Bridge.bracketed ScriptHost.discreet rfl actions
  · exact run_balanced read started

/-- A run with a session from its start whose input is no text: it fails, and its log still tells the end of
the session. -/
theorem sessions_balanced_at_unreadable_line :
    ∃ b, Options.read ["--debug-port", "9222"] =
        .ok { Options.none with debugPort := some 9222 } ∧
      (start { Options.none with debugPort := some 9222 } .versionFour).answer = .ok b ∧
      b.debugger = .running 9222 ∧
      Balanced { Options.none with debugPort := some 9222 } .versionFour [255, 10] b
        (run .versionFour ["--debug-port", "9222"] [255, 10]) ∧
      (run .versionFour ["--debug-port", "9222"] [255, 10]).code = 1 ∧
      Event.sessions (run .versionFour ["--debug-port", "9222"] [255, 10]).events =
        [.debuggerRunning 9222, .debuggerStopped 9222] :=
  ⟨_, rfl, rfl, rfl, sessions_balanced.2.2 _ _ _ _ _ rfl rfl, rfl, rfl⟩

end CommandLine

end ScriptGate
