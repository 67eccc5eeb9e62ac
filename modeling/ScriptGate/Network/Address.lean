/-!
Internet addresses, read from and written in their usual text forms.

An address of version 4 is four decimal numbers without superfluous zeros. One of version 6 is eight
groups of up to four hexadecimal digits, of which one run of zeros may be left out; the last two
groups may be written as an address of version 4. Writing leaves out the longest run of two
or more zero groups, the first of several, and spells a mapped address with its version 4 part.
-/

namespace ScriptGate.Network

inductive Address where
  | v4 (a b c d : UInt8)
  | v6 (groups : List UInt16) (eight : groups.length = 8)
deriving DecidableEq, Repr

namespace Address

/-- The address by which a machine reaches itself. -/
def loopback : Address := .v4 127 0 0 1

/-! ## Writing -/

/-- Four numbers with points between them. -/
def dotted (a b c d : Nat) : String :=
  ".".intercalate [toString a, toString b, toString c, toString d]

/-- Groups with colons between them. -/
def coloned (groups : List UInt16) : String :=
  ":".intercalate (groups.map fun g => String.ofList (Nat.toDigits 16 g.toNat))

/-- The number of zero groups a list starts with. -/
def zeroRun (groups : List UInt16) : Nat := (groups.takeWhile (· == 0)).length

/-- Where the longest run of zero groups starts, and its length. -/
def longestZeroRun (groups : List UInt16) : Nat × Nat :=
  (List.range groups.length).foldl
    (fun best start =>
      let length := zeroRun (groups.drop start)
      if best.2 < length then (start, length) else best)
    (0, 0)

/-- The text form of an address. -/
def render : Address → String
  | .v4 a b c d => dotted a.toNat b.toNat c.toNat d.toNat
  | .v6 [0, 0, 0, 0, 0, 0xffff, high, low] _ =>
    "::ffff:" ++
      dotted (high.toNat / 256) (high.toNat % 256) (low.toNat / 256) (low.toNat % 256)
  | .v6 groups _ =>
    let (start, length) := longestZeroRun groups
    if 1 < length then
      coloned (groups.take start) ++ "::" ++ coloned (groups.drop (start + length))
    else coloned groups

/-! ## Reading -/

/-- The value of a digit of the given base, at most sixteen. -/
def digit? (base : Nat) (c : Char) : Option Nat :=
  let value :=
    if '0' ≤ c ∧ c ≤ '9' then c.toNat - 48
    else if 'a' ≤ c ∧ c ≤ 'f' then c.toNat - 87
    else if 'A' ≤ c ∧ c ≤ 'F' then c.toNat - 55
    else base
  if value < base then some value else none

/-- The number that the first digits of a text spell, if there are some and at most
`most`. A zero may stand in front of other digits only if `padded` holds. -/
def number? (base most : Nat) (padded : Bool) (s : List Char) : Option (Nat × List Char) :=
  let spelled := s.takeWhile fun c => (digit? base c).isSome
  let digits := spelled.filterMap (digit? base)
  if digits = [] ∨ most < digits.length ∨ (!padded ∧ 1 < digits.length ∧ digits.head? = some 0)
  then none
  else some (digits.foldl (fun n d => n * base + d) 0, s.drop digits.length)

/-- One of the four numbers of a version 4 address. -/
def octet? (s : List Char) : Option (Nat × List Char) := do
  let (n, rest) ← number? 10 3 false s
  if n < 256 then some (n, rest) else none

/-- The given character, taken off the front of a text. -/
def expect? (c : Char) (s : List Char) : Option (List Char) :=
  if s.head? = some c then some s.tail else none

/-- The version 4 address a text starts with. -/
def quad? (s : List Char) : Option ((Nat × Nat × Nat × Nat) × List Char) := do
  let (a, s) ← octet? s
  let (b, s) ← octet? (← expect? '.' s)
  let (c, s) ← octet? (← expect? '.' s)
  let (d, s) ← octet? (← expect? '.' s)
  return ((a, b, c, d), s)

/-- Up to `limit` groups, the first one with the given index among them, and whether the last two were
written as a version 4 address. -/
def groups (index : Nat) : (limit : Nat) → List Char → (List UInt16 × Bool) × List Char
  | 0, s => (([], false), s)
  | limit + 1, s =>
    let start := if index = 0 then some s else expect? ':' s
    match if limit = 0 then none else start.bind quad? with
    | some ((a, b, c, d), rest) =>
      (([UInt16.ofNat (a * 256 + b), UInt16.ofNat (c * 256 + d)], true), rest)
    | none =>
      match start.bind (number? 16 4 true) with
      | some (n, rest) =>
        let ((more, dotted), rest) := groups (index + 1) limit rest
        ((UInt16.ofNat n :: more, dotted), rest)
      | none => (([], false), s)

/-- The version 6 address a text starts with. -/
def eight? (s : List Char) : Option (List UInt16 × List Char) :=
  let ((front, dotted), rest) := groups 0 8 s
  if front.length = 8 then some (front, rest)
  else if dotted then none
  else do
    let rest ← expect? ':' (← expect? ':' rest)
    let ((back, _), rest) := groups 0 (7 - front.length) rest
    return (front ++ List.replicate (8 - front.length - back.length) 0 ++ back, rest)

/-- Reads an address of either version. -/
def parse? (text : String) : Option Address :=
  match quad? text.toList with
  | some ((a, b, c, d), []) =>
    some (.v4 (UInt8.ofNat a) (UInt8.ofNat b) (UInt8.ofNat c) (UInt8.ofNat d))
  | _ =>
    match eight? text.toList with
    | some (groups, []) => if eight : groups.length = 8 then some (.v6 groups eight) else none
    | _ => none

end Address

end ScriptGate.Network
