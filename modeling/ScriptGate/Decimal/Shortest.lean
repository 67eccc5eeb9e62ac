/-!
The shortest decimal form of a double.

Every finite double is `mantissa · 2 ^ exponent`. The reals that round to it
form an interval around it, which contains its ends exactly when the mantissa
is even. `Dyadic.shortest` looks for the coarsest power-of-ten grid with a point in
that interval, so no decimal with fewer digits reads back to the same double;
of two grid points in the interval it takes the nearer one, and of two equally
near ones the even one. All comparisons are exact, in natural numbers.
-/

namespace ScriptGate

/-- The number `significand · 10 ^ exponent`. -/
structure Decimal where
  significand : Nat
  exponent : Int
deriving DecidableEq, Repr

/-- A positive double `mantissa · 2 ^ exponent`. `narrow` holds at a power of
two, where the next smaller double is only half as far away as the next larger
one. -/
structure Dyadic where
  mantissa : Nat
  exponent : Int
  narrow : Bool
deriving DecidableEq, Repr

/-! ## Doubles as dyadic numbers -/

/-- The magnitude of a finite double other than zero. -/
def Dyadic.ofFloat (x : Float) : Dyadic :=
  let bits := x.toBits.toNat
  let fraction : Nat := bits % 0x10000000000000
  let scale : Nat := bits / 0x10000000000000 % 0x800
  if scale = 0 then
    ⟨fraction, -1074, false⟩
  else
    ⟨0x10000000000000 + fraction, (scale : Int) - 1075, decide (fraction = 0 ∧ 1 < scale)⟩

/-! ## The search -/

namespace Dyadic

/-- What one unit of the grid `10 ^ place` weighs, once both sides of a comparison
with quarters of the last binary place are multiplied up to integers. -/
def gridWeight (d : Dyadic) (place : Int) : Nat :=
  Nat.pow 10 place.toNat * Nat.pow 2 (2 - d.exponent).toNat

/-- What one quarter of the last binary place weighs on the same scale. -/
def quarterWeight (d : Dyadic) (place : Int) : Nat :=
  Nat.pow 2 (d.exponent - 2).toNat * Nat.pow 10 (-place).toNat

/-- The number itself, in quarters of its last binary place. -/
def quarters (d : Dyadic) : Nat := 4 * d.mantissa

/-- The lower end of the interval that rounds to `d`, in quarters. -/
def lowest (d : Dyadic) : Nat :=
  if d.narrow then d.quarters - 1 else d.quarters - 2

/-- The upper end of the interval that rounds to `d`, in quarters. -/
def highest (d : Dyadic) : Nat := d.quarters + 2

/-- Whether `point · 10 ^ place` rounds to `d`. -/
def covers (d : Dyadic) (place : Int) (point : Nat) : Bool :=
  let value := point * d.gridWeight place
  let low := d.lowest * d.quarterWeight place
  let high := d.highest * d.quarterWeight place
  if d.mantissa % 2 = 0 then low ≤ value && value ≤ high
  else low < value && value < high

/-- The grid point at `place` that rounds to `d` and is nearest to it. -/
def nearest? (d : Dyadic) (place : Int) : Option Nat :=
  let weight := d.gridWeight place
  let value := d.quarters * d.quarterWeight place
  let below := value / weight
  let above := below + 1
  match d.covers place below, d.covers place above with
  | false, false => none
  | true, false => some below
  | false, true => some above
  | true, true =>
    let down := value - below * weight
    let up := above * weight - value
    if down < up then some below
    else if up < down then some above
    else if below % 2 = 0 then some below
    else some above

/-- The first hit among `count` grids, from the one at `place` to finer ones. -/
def search (d : Dyadic) : (count : Nat) → (place : Int) → Decimal
  | 0, place => ⟨d.quarters * d.quarterWeight place / d.gridWeight place, place⟩
  | count + 1, place =>
    match d.nearest? place with
    | some point => ⟨point, place⟩
    | none => search d count (place - 1)

/-- A power of ten above `d`, at most two places too high. -/
def topPlace (d : Dyadic) : Int :=
  ((d.mantissa.log2 : Int) + d.exponent) * 30103 / 100000 + 2

/-- The shortest decimal that rounds to `d`. -/
def shortest (d : Dyadic) : Decimal := d.search 24 d.topPlace

end Dyadic

/-! ## Writing a decimal -/

namespace Decimal

/-- The digits of the significand, most significant first. -/
def digits (d : Decimal) : List Char := Nat.toDigits 10 d.significand

/-- The power of ten of the leading digit. -/
def leading (d : Decimal) : Int := d.exponent + ((d.digits.length : Int) - 1)

/-- Positional form with at least one digit on each side of the point. -/
def positional (d : Decimal) : List Char :=
  if 0 ≤ d.exponent then
    d.digits ++ List.replicate d.exponent.toNat '0' ++ ['.', '0']
  else
    let places := (-d.exponent).toNat
    let whole := d.digits.length - places
    if whole = 0 then
      ['0', '.'] ++ List.replicate (places - d.digits.length) '0' ++ d.digits
    else
      d.digits.take whole ++ '.' :: d.digits.drop whole

/-- Scientific form: one digit, the others after a point if there are any, and
the power of ten, whose plus sign is written if `plus` holds. -/
def scientific (plus : Bool) (d : Decimal) : List Char :=
  let mantissa :=
    match d.digits with
    | first :: second :: more => first :: '.' :: second :: more
    | short => short
  let power := d.leading
  let sign := if power < 0 then ['-'] else if plus then ['+'] else []
  mantissa ++ 'e' :: sign ++ Nat.toDigits 10 power.natAbs

end Decimal

end ScriptGate
