import ScriptGate.Bridge
import ScriptGate.Host.Script

/-!
What has to happen before there are engines.

The parts that all instances of a process share are set up once; setting them up again changes
nothing. Without them there are no instances.
-/

namespace ScriptGate

/-- Whether the shared parts are set up. -/
inductive Startup where
  | pending
  | ready
deriving DecidableEq, Repr

namespace Startup

/-- Whether the shared parts are set up. -/
def isReady : Startup → Bool
  | .pending => false
  | .ready => true

/-- Sets up the shared parts, unless that has happened. -/
def setUp : Startup → Turn Startup Unit
  | .pending => ⟨(), .ready, [.runtimeStarted]⟩
  | .ready => .quiet () .ready

/-- A new host, if the shared parts are set up. -/
def newHost (settings : Settings) (machine : Network.Machine) : Startup → Except Fault ScriptHost
  | .pending => .error (.engine "script runtime not initialized")
  | .ready => .ok (.new settings machine)

/-- A new bridge over a new host, if the shared parts are set up. -/
def newBridge (settings : Settings) (machine : Network.Machine) (s : Startup) :
    Turn Startup (Except Fault (Bridge ScriptHost)) :=
  match s.newHost settings machine with
  | .ok host => ⟨.ok (.ofHost host), s, [.instanceCreated]⟩
  | .error fault => .quiet (.error fault) s

end Startup

end ScriptGate
