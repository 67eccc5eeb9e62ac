import ScriptGate.Json.Failure

/-!
Number tokens.

A numeral is an optional minus sign, an integer part without superfluous zeros, and
optionally a fraction and a power of ten. Without fraction and power it stands for the
integer it spells if that is in the 64-bit ranges. All others stand for
a double, found by collecting digits into a significand as long as that fits 64 bits and
scaling it by one power of ten: not always the nearest double, but always the same one.
-/

namespace ScriptGate.Json

/-- The parts of a number token. -/
structure Numeral where
  negative : Bool
  whole : List Nat
  fraction : Option (List Nat)
  /-- The power of ten: whether it has a minus sign, and its digits. -/
  power : Option (Bool × List Nat)

/-! ## Scanning -/

/-- The value of a decimal digit. -/
def digit? (c : Char) : Option Nat :=
  if '0' ≤ c ∧ c ≤ '9' then some (c.toNat - 48) else none

/-- The digits a text starts with, and the rest. -/
def takeDigits : List Char → List Nat × List Char
  | [] => ([], [])
  | c :: rest =>
    match digit? c with
    | some d => let (ds, rest) := takeDigits rest; (d :: ds, rest)
    | none => ([], c :: rest)

namespace Numeral

/-- The integer part of a numeral. -/
def scanWhole (s : List Char) : Except Failure (List Nat × List Char) :=
  match s with
  | [] => .error (.before .endInValue [])
  | c :: rest =>
    match digit? c with
    | none => .error (.past .numberMalformed s)
    | some 0 =>
      match rest with
      | next :: _ =>
        if (digit? next).isSome then .error (.past .numberMalformed rest) else .ok ([0], rest)
      | [] => .ok ([0], rest)
    | some d => let (ds, rest) := takeDigits rest; .ok (d :: ds, rest)

/-- The fraction of a numeral, if a point follows. -/
def scanFraction : List Char → Except Failure (Option (List Nat) × List Char)
  | '.' :: rest =>
    match takeDigits rest with
    | ([], []) => .error (.before .endInValue [])
    | ([], other) => .error (.past .numberMalformed other)
    | (ds, rest) => .ok (some ds, rest)
  | s => .ok (none, s)

/-- The digits of a power of ten. -/
def scanPowerDigits (negative : Bool) (s : List Char) :
    Except Failure (Option (Bool × List Nat) × List Char) :=
  match takeDigits s with
  | ([], []) => .error (.before .endInValue [])
  | ([], other) => .error (.past .numberMalformed other)
  | (ds, rest) => .ok (some (negative, ds), rest)

/-- The power of ten of a numeral, if one follows. -/
def scanPower : List Char → Except Failure (Option (Bool × List Nat) × List Char)
  | [] => .ok (none, [])
  | c :: rest =>
    if c = 'e' ∨ c = 'E' then
      match rest with
      | '+' :: more => scanPowerDigits false more
      | '-' :: more => scanPowerDigits true more
      | _ => scanPowerDigits false rest
    else .ok (none, c :: rest)

/-- The parts of the numeral a text starts with, after its sign. -/
def scan (negative : Bool) (s : List Char) : Except Failure (Numeral × List Char) := do
  let (whole, rest) ← scanWhole s
  let (fraction, rest) ← scanFraction rest
  let (power, rest) ← scanPower rest
  return (⟨negative, whole, fraction, power⟩, rest)

/-! ## Values -/

/-- The greatest significand. -/
def maxSignificand : Nat := 0xffffffffffffffff

/-- Collects digits as long as the significand fits; the second part of the result
holds the digits that were left over. -/
def collect (significand : Nat) : List Nat → Nat × List Nat
  | [] => (significand, [])
  | d :: ds =>
    if significand * 10 + d ≤ maxSignificand then collect (significand * 10 + d) ds
    else (significand, d :: ds)

/-- The significand of a numeral and the power of ten that its digits alone give it. -/
def significand (n : Numeral) : Nat × Int :=
  let (whole, dropped) := collect 0 n.whole
  let fraction := n.fraction.getD []
  let (all, ignored) := collect whole fraction
  (all, (dropped.length : Int) - ((fraction.length : Int) - (ignored.length : Int)))

/-- The greatest written power of ten that is taken at its word. -/
def maxPower : Nat := 0x7fffffff

/-- The value of a power's digits, or the number of digits behind the one at which it
becomes too large. -/
def powerValue (value : Nat) : List Nat → Nat ⊕ Nat
  | [] => .inl value
  | d :: ds =>
    if value * 10 + d ≤ maxPower then powerValue (value * 10 + d) ds else .inr ds.length

/-- The double `10 ^ n`, for `n` at most 308. -/
def powerOfTen (n : Nat) : Float := Float.ofScientific 1 false n

/-- Scales a significand by a power of ten; `none` if the result is not finite. Powers below
`10 ^ -308` are reached in several divisions, at most `steps`. -/
def scale (significand : Float) (power : Int) : (steps : Nat) → Option Float
  | 0 => some 0
  | steps + 1 =>
    if power.natAbs ≤ 308 then
      if 0 ≤ power then
        let x := significand * powerOfTen power.natAbs
        if x.isInf then none else some x
      else some (significand / powerOfTen power.natAbs)
    else if significand == 0 then some significand
    else if 0 ≤ power then none
    else scale (significand / powerOfTen 308) (power + 308) steps

/-- A magnitude with the sign of the numeral. -/
def signed (n : Numeral) (x : Float) : Number := .double (if n.negative then -x else x)

/-- Forces an integer into the signed 32-bit range. -/
def saturate (i : Int) : Int := max (-0x80000000) (min i 0x7fffffff)

/-- The double a numeral stands for: on failure, the number of its characters behind
the place where it turned out to be too large. -/
def double (n : Numeral) : Except Nat Number :=
  let (significand, shift) := n.significand
  let scaled (power : Int) : Except Nat Number :=
    match scale (Float.ofNat significand) power 9 with
    | some x => .ok (n.signed x)
    | none => .error 0
  match n.power with
  | none => scaled shift
  | some (negative, digits) =>
    match powerValue 0 digits with
    | .inl value => scaled (saturate (if negative then shift - value else shift + value))
    | .inr left =>
      if significand ≠ 0 ∧ !negative then .error left else .ok (n.signed 0)

/-- The integer that the digits of a numeral spell, with its sign. -/
def integer (n : Numeral) : Int :=
  let magnitude : Nat := n.whole.foldl (fun value d => value * 10 + d) 0
  if n.negative then -magnitude else magnitude

/-- The number a numeral stands for. A minus sign before zero makes it a double. -/
def number (n : Numeral) : Except Nat Number :=
  match n.fraction, n.power with
  | none, none =>
    if n.negative ∧ n.integer = 0 then n.double
    else match Whole.ofInt? n.integer with
      | some i => .ok (.whole i)
      | none => n.double
  | _, _ => n.double

/-- The number a text starts with, after its sign. -/
def read (negative : Bool) (s : List Char) : Except Failure (Number × List Char) := do
  let (numeral, rest) ← scan negative s
  match numeral.number with
  | .ok n => return (n, rest)
  | .error behind => throw ⟨.numberTooLarge, byteCount rest + behind⟩

end Numeral

end ScriptGate.Json
