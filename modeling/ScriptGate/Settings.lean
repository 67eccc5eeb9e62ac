import ScriptGate.Network.Address

/-!
The settings of an engine instance: how long a script may run and how much it may do and
hold, and where the debug listener is bound.
-/

namespace ScriptGate

structure Settings where
  /-- Wall-clock limit of one evaluation or call, in milliseconds. -/
  timeoutMs : Nat
  /-- Operations one evaluation or call may take; zero for any number. -/
  maxOperations : Nat
  /-- How deep calls of script functions may nest. -/
  maxCallDepth : Nat
  /-- How deep expressions may nest; zero for any depth. -/
  maxExprDepth : Nat
  /-- Bytes a string may have; zero for any number. -/
  maxStringLen : Nat
  /-- Elements a list or a map may have; zero for any number. -/
  maxCollectionLen : Nat
  debuggerHost : Network.Address
deriving DecidableEq, Repr

namespace Settings

/-- The settings of an instance nobody configured. -/
def standard : Settings where
  timeoutMs := 60000
  maxOperations := 1000000
  maxCallDepth := 64
  maxExprDepth := 64
  maxStringLen := 1048576
  maxCollectionLen := 100000
  debuggerHost := .loopback

end Settings

end ScriptGate
