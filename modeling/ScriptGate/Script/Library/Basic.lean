import ScriptGate.Script.Operator

/-!
What a library function does: it answers, and it may change its first argument.

How a function takes its first argument matters beyond its answer. One that changes it cannot be called
on a constant, and one that takes it by reference has the limits on its size applied
to it, whether it changes it or not.
-/

namespace ScriptGate.Script

inductive Effect where
  /-- All arguments are taken by value. -/
  | answer (result : Except ErrorCause Value)
  /-- The first argument is taken by reference and stays as it is. -/
  | look (result : Except ErrorCause Value)
  /-- The first argument becomes another value. -/
  | change (target : Value) (result : Except ErrorCause Value)

namespace Effect

/-- Answers a value. -/
def value (v : Value) : Effect := .answer (.ok v)

/-- Answers a truth value. -/
def truth (b : Bool) : Effect := .answer (.ok (.boolean b))

/-- Answers an integer. -/
def count (n : Int) : Effect := .answer (.ok (.integer (Int64.ofInt n)))

/-- Answers a text. -/
def text (s : String) : Effect := .answer (.ok (.text s))

/-- Fails with an arithmetical fault. -/
def refuse (fault : ArithmeticFault) : Effect := .answer (.error (.arithmetic fault))

/-- Changes the first argument and answers nothing. -/
def become (target : Value) : Effect := .change target (.ok .unit)

/-- Looks at the first argument and answers a value. -/
def seen (v : Value) : Effect := .look (.ok v)

end Effect

namespace Library

/-- The integer that a value is, if it is one. -/
def integer? : Value → Option Int64
  | .integer n => some n
  | _ => none

/-- Where an index points to in a sequence; a negative one counts from the end. -/
def index? (count : Nat) (i : Int64) : Option Nat :=
  let i := i.toInt
  if 0 ≤ i then if i < count then some i.toNat else none
  else if -(count : Int) ≤ i then some (i + count).toNat
  else none

/-- Where a position lies in a sequence; one beyond an end stands for that end. -/
def position (count : Nat) (i : Int64) : Nat :=
  let i := i.toInt
  if 0 ≤ i then min i.toNat count
  else (i + count).toNat

/-- Where a range begins in a sequence, and how many items it has there. -/
def stretch (count : Nat) (first last : Int64) (inclusive : Bool) : Nat × Nat :=
  let start := max first.toInt 0
  let stop := max (last.toInt + if inclusive then 1 else 0) start
  let start := min start.toNat count
  (start, min stop.toNat count - start)

/-- Whether an integer lies in a range. -/
def inRange (first last : Int64) (inclusive : Bool) (n : Int64) : Bool :=
  first ≤ n && if inclusive then n ≤ last else n < last

/-- Whether a value matches a range: a number that lies in it, or the same range. -/
def holds (first last : Int64) (inclusive : Bool) : Value → Bool
  | .integer n => inRange first last inclusive n
  | .double x =>
    first.toFloat ≤ x && if inclusive then x ≤ last.toFloat else x < last.toFloat
  | .range a b i => a = first && b = last && i = inclusive
  | _ => false

end Library

end ScriptGate.Script
