import ScriptGate.Network.Address

/-!
Listeners, and the machine that is asked for them.

What a machine answers to an attempt to bind is not known in advance, but if it grants the attempt then at
the address that was asked for, and at the port that was asked for unless that is zero, which stands
for any free port.
-/

namespace ScriptGate.Network

/-- What a machine answers to an attempt to bind: `free` is the port that stands in for port zero. -/
inductive Bind where
  | refused
  | granted (free : UInt16) (free_ne_zero : free ≠ 0)
deriving DecidableEq

/-- What a machine answers to the attempts to bind: the number of the attempt, the address and the port
decide. -/
abbrev Machine := (attempt : Nat) → Address → UInt16 → Bind

/-- A listener: where it is bound, and the number of the attempt that made it. -/
structure Listener where
  address : Address
  port : UInt16
  attempt : Nat
deriving DecidableEq, Repr

namespace Listener

/-- The listener that an attempt to bind yields. -/
def bind? (machine : Machine) (attempt : Nat) (address : Address) (port : UInt16) :
    Option Listener :=
  match machine attempt address port with
  | .refused => none
  | .granted free _ => some ⟨address, if port = 0 then free else port, attempt⟩

end Listener

namespace Machine

/-- A machine that has addresses of version 4 only, and no other programs that use its ports. -/
def versionFour : Machine := fun _ address _ =>
  match address with
  | .v4 .. => .granted 49152 (by decide)
  | .v6 .. => .refused

end Machine

end ScriptGate.Network
