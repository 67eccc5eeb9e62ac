/-!
Integers written with digits, within bounds.

A sign may stand in front, a minus only where negative numbers are meant at all. The digits are read from
the left, and the first one that is none or that leaves the bounds decides what is wrong.
-/

namespace ScriptGate.Text

/-- Why a text is not the integer that was wanted. -/
inductive NumeralFault where
  | empty
  | digit
  | tooLarge
  | tooSmall
deriving DecidableEq, Repr

/-- The text of a complaint. -/
def NumeralFault.message : NumeralFault → String
  | .empty => "cannot parse integer from empty string"
  | .digit => "invalid digit found in string"
  | .tooLarge => "number too large to fit in target type"
  | .tooSmall => "number too small to fit in target type"

/-- The value of a digit in a base of up to thirty-six. -/
def digit? (base : Nat) (c : Char) : Option Nat :=
  let value :=
    if c.isDigit then some (c.toNat - 48)
    else if 'a' ≤ c ∧ c ≤ 'z' then some (c.toNat - 87)
    else if 'A' ≤ c ∧ c ≤ 'Z' then some (c.toNat - 55)
    else none
  value.filter (· < base)

/-- The number that digits stand for behind those of `n`, if it is never beyond the limit. -/
def magnitude (base limit : Nat) (beyond : NumeralFault) : (n : Nat) → List Char →
    Except NumeralFault Nat
  | n, [] => .ok n
  | n, c :: rest =>
    match digit? base c with
    | none => .error .digit
    | some d =>
      let n := n * base + d
      if limit < n then .error beyond else magnitude base limit beyond n rest

/-- The number that some digits stand for, of which there has to be one. -/
def digits (base limit : Nat) (beyond : NumeralFault) (cs : List Char) : Except NumeralFault Nat :=
  if cs.isEmpty then .error .digit else magnitude base limit beyond 0 cs

/-- The integer below `2 ^ 63` in magnitude, or just as far below zero, that a text stands for. -/
def signed64 (base : Nat) (s : String) : Except NumeralFault Int :=
  match s.toList with
  | [] => .error .empty
  | '-' :: cs => (digits base 0x8000000000000000 .tooSmall cs).map fun n => -(n : Int)
  | '+' :: cs => (digits base 0x7fffffffffffffff .tooLarge cs).map fun n => (n : Int)
  | cs => (digits base 0x7fffffffffffffff .tooLarge cs).map fun n => (n : Int)

/-- The natural number below `2 ^ 64` that a text stands for. -/
def unsigned64 (base : Nat) (s : String) : Except NumeralFault Nat :=
  match s.toList with
  | [] => .error .empty
  | '+' :: cs => digits base 0xffffffffffffffff .tooLarge cs
  | cs => digits base 0xffffffffffffffff .tooLarge cs

end ScriptGate.Text
