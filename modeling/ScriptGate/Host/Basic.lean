import ScriptGate.Turn

/-!
A script engine as its owner sees it: four entry points that speak text.

The text that `evaluate` and `invoke` answer is a value, the sentinel for no value, or the
description of a fault; the host does not say which.
-/

namespace ScriptGate

/-- The entry points of a script engine whose state is `H`. -/
class Host (H : Type) where
  /-- Runs a source text. -/
  evaluate : (source : String) → H → Turn H String
  /-- Calls a function of a script; the arguments are the JSON text of a list. -/
  invoke : (name args : String) → H → Turn H String
  /-- Opens the debug listener on a port and tells whether that succeeded. -/
  startDebugger : (port : UInt16) → H → Turn H Bool
  /-- Closes the debug listener. -/
  stopDebugger : H → Turn H Unit

end ScriptGate
