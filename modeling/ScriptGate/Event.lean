/-!
What the library reports in its log while it works.

Each event has a level, the part of the program it comes from, and a text.
-/

namespace ScriptGate

inductive Level where
  | debug
  | info
  | warn
  | error
deriving DecidableEq, Repr

inductive Event where
  /-- The parts that all instances share are set up. -/
  | runtimeStarted
  | instanceCreated
  /-- A script ended in a fault; the context is `evaluate` or the name of the function called. -/
  | scriptFault (context text : String)
  | debuggerRunning (port : UInt16)
  | debuggerStopped (port : UInt16)
  | debuggerFailed (port : UInt16)
  /-- A session was asked for while one was running. -/
  | debuggerRejected (current requested : UInt16)
  | listenerPresent
  | bindFailed (port : UInt16)
  /-- A script printed a text. -/
  | printed (text : String)
  /-- A script showed a value for debugging; the place is that of the call. -/
  | shown (text place : String)
  | servingStarted
  /-- The next line of input is not text. -/
  | inputUnreadable
  /-- Start-up ended with a fault. -/
  | startFailed (message : String)
deriving DecidableEq, Repr

namespace Level

/-- The name of a level. -/
def name : Level → String
  | .debug => "DEBUG"
  | .info => "INFO"
  | .warn => "WARN"
  | .error => "ERROR"

end Level

namespace Event

/-- How much an event matters. -/
def level : Event → Level
  | .runtimeStarted | .instanceCreated | .debuggerRunning _ | .debuggerStopped _
  | .printed _ | .servingStarted => .info
  | .scriptFault .. | .shown .. => .debug
  | .debuggerFailed _ | .debuggerRejected .. | .listenerPresent | .bindFailed _ => .warn
  | .inputUnreadable | .startFailed _ => .error

/-- The part of the program an event comes from. -/
def target : Event → String
  | .runtimeStarted => "evalbridge::runtime"
  | .instanceCreated | .scriptFault .. => "evalbridge::bridge"
  | .debuggerRunning _ | .debuggerStopped _ | .debuggerFailed _ | .debuggerRejected .. =>
    "evalbridge::debugger"
  | .listenerPresent | .bindFailed _ => "evalbridge::engine"
  | .printed _ | .shown .. => "evalbridge::script"
  | .servingStarted | .inputUnreadable | .startFailed _ => "evalbridge"

/-- The text of an event. -/
def message : Event → String
  | .runtimeStarted => "Initializing script runtime"
  | .instanceCreated => "Script engine instance created"
  | .scriptFault context text => "Script fault in " ++ context ++ ": " ++ text
  | .debuggerRunning port => "Debug server running on port " ++ toString port
  | .debuggerStopped port => "Debug server on port " ++ toString port ++ " stopped"
  | .debuggerFailed port => "Failed to start debug server on port " ++ toString port
  | .debuggerRejected current requested =>
    "Debug server already running on port " ++ toString current ++ ", rejecting start on " ++
      toString requested
  | .listenerPresent => "Debug listener already bound"
  | .bindFailed port => "Failed to bind debug listener on port " ++ toString port
  | .printed text => text
  | .shown text place => text ++ " (<main>, " ++ place ++ ")"
  | .servingStarted => "Reading requests from stdin"
  | .inputUnreadable => "Failed to read request: stream did not contain valid UTF-8"
  | .startFailed message => message

/-- The line of the log for an event, without the time. -/
def line (e : Event) : String := e.level.name ++ " " ++ e.target ++ ": " ++ e.message

end Event

end ScriptGate
