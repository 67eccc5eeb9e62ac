import ScriptGate.CommandLine.Options
import ScriptGate.Reply
import ScriptGate.Startup

/-!
The program of the command line: it evaluates one source, or serves the lines of its input.

However a run ends once its bridge is there and its first session, if one is asked for, is running, the last
step is the end of the session. The log and the complaints go to one stream, the answers to
another.
-/

namespace ScriptGate.CommandLine

/-- What the program tells beside its answers. -/
inductive Note where
  | event (e : Event)
  | text (s : String)
deriving DecidableEq, Repr

/-- How a run of the program ends. -/
structure Ending where
  code : UInt8
  output : String
  /-- What the run told, oldest first. -/
  notes : List Note
deriving DecidableEq, Repr

namespace Ending

/-- The events of a run. -/
def events (e : Ending) : List Event :=
  e.notes.filterMap fun
    | .event e => some e
    | .text _ => none

end Ending

/-! ## What is told -/

/-- The spelling of a character in the log: one that steers a terminal is spelled out. -/
def logChar (c : Char) : String :=
  let n := c.toNat
  let hex := String.ofList (Nat.toDigits 16 n)
  if n = 0x07 ∨ n = 0x08 ∨ n = 0x0c then "\\x0" ++ hex
  else if n = 0x1b ∨ n = 0x7f then "\\x" ++ hex
  else if 0x80 ≤ n ∧ n ≤ 0x9f then "\\u\x7b" ++ hex ++ "\x7d"
  else c.toString

/-- An event as it stands in the log. -/
def logText (e : Event) : String :=
  e.level.name ++ " " ++ e.target ++ ": " ++ String.join (e.message.toList.map logChar)

/-- Whether an event is told: those of the lowest level only if more is asked for. -/
def isTold (verbose : Bool) (e : Event) : Bool := verbose || e.level ≠ .debug

/-- The notes of events. -/
def notes (verbose : Bool) (events : List Event) : List Note :=
  (events.filter (isTold verbose)).map .event

/-! ## Parts of a run -/

/-- Sets everything up that the options ask for. -/
def start (o : Options) (machine : Network.Machine) :
    Turn Startup (Except String (Bridge ScriptHost)) :=
  let ready := Startup.pending.setUp
  let created := ready.state.newBridge o.settings machine
  let events := ready.events ++ created.events
  match created.answer with
  | .error fault =>
    let text := "Failed to create script engine: " ++ fault.display
    ⟨.error text, created.state, events ++ [.startFailed text]⟩
  | .ok b =>
    match o.debugPort with
    | none => ⟨.ok b, created.state, events⟩
    | some port =>
      let enabled := b.enableDebugger port
      let events := events ++ enabled.events
      match enabled.answer with
      | .ok _ => ⟨.ok enabled.state, created.state, events⟩
      | .error fault =>
        ⟨.error fault.display, created.state, events ++ [.startFailed fault.display]⟩

/-- What the main part of a run comes to. -/
structure Done where
  output : String
  /-- What is told to the user, if something went wrong with a single source. -/
  complaint : Option String
  failed : Bool
deriving DecidableEq, Repr

variable {H : Type} [Host H]

/-- Evaluates one source. -/
def evalOnce (source : String) (b : Bridge H) : Turn (Bridge H) Done :=
  (b.evaluate source).map fun
    | .ok v => ⟨v.render ++ "\n", none, false⟩
    | .error fault => ⟨"", some fault.display, true⟩

/-- Serves the lines of the input. -/
def serveInput (input : List UInt8) (b : Bridge H) : Turn (Bridge H) Done :=
  let served := b.serve (Text.lines input)
  ⟨⟨String.join (served.answer.replies.map (· ++ "\n")), none, served.answer.unreadable⟩,
    served.state, .servingStarted :: served.events⟩

/-- The main part of a run. -/
def work (o : Options) (input : List UInt8) (b : Bridge H) : Turn (Bridge H) Done :=
  match o.source with
  | some source => evalOnce source b
  | none => serveInput input b

/-- The main part of a run, and the end of the session. -/
def finish (verbose : Bool) (told : List Note) (main : Turn (Bridge H) Done) : Ending :=
  let closed := main.state.disableDebugger
  { code := if main.answer.failed then 1 else 0
    output := main.answer.output
    notes :=
      told ++ notes verbose main.events ++ (main.answer.complaint.map Note.text).toList ++
        notes verbose closed.events }

/-- A run of the program on a machine, with its arguments and its input. -/
def run (machine : Network.Machine) (args : List String) (input : List UInt8) : Ending :=
  match Options.read args with
  | .error .help => ⟨0, helpText, []⟩
  | .error (.fault f) => ⟨2, "", [.text f.message]⟩
  | .ok o =>
    let started := start o machine
    let told := notes o.verbose started.events
    match started.answer with
    | .error _ => ⟨1, "", told⟩
    | .ok b => finish o.verbose told (work o input b)

end ScriptGate.CommandLine
