import ScriptGate.Decimal.Shortest

/-!
The double nearest to a decimal. Exponents far outside the range of doubles are decided
without computing a power of ten.
-/

namespace ScriptGate.Decimal

/-- The double nearest to a decimal; beyond the largest double it is infinite. -/
def toFloat (d : Decimal) : Float :=
  if d.significand = 0 then 0.0
  else if 400 < d.leading then 1.0 / 0.0
  else if d.leading < -400 then 0.0
  else if 0 ≤ d.exponent then Float.ofScientific d.significand false d.exponent.toNat
  else Float.ofScientific d.significand true (-d.exponent).toNat

/-- The number that a row of decimal digits stands for, behind an earlier one. -/
def ofDigits (before : Nat) (digits : List Char) : Nat :=
  digits.foldl (fun n c => n * 10 + (c.toNat - 48)) before

/-- Takes the leading digits off a text. -/
def span (s : List Char) : List Char × List Char := (s.takeWhile Char.isDigit, s.dropWhile Char.isDigit)

/-- The power of ten at the end of a numeral: `e` or `E`, perhaps a sign, and digits. -/
def power? : List Char → Option Int
  | [] => some 0
  | mark :: rest =>
    if mark = 'e' ∨ mark = 'E' then
      let (negative, digits) := match rest with
        | '-' :: digits => (true, digits)
        | '+' :: digits => (false, digits)
        | digits => (false, digits)
      if digits.isEmpty ∨ !digits.all Char.isDigit then none
      else
        let n := ofDigits 0 (digits.dropWhile (· = '0') |>.take 20)
        some (if negative then -(n : Int) else n)
    else none

/-- The decimal that a numeral without sign stands for: digits with an optional point among, before
or after them, and perhaps a power of ten. -/
def parse? (s : List Char) : Option Decimal :=
  let (whole, rest) := span s
  let (fraction, rest) := match rest with
    | '.' :: rest => span rest
    | rest => ([], rest)
  if whole.isEmpty ∧ fraction.isEmpty then none
  else (power? rest).map fun power =>
    ⟨ofDigits (ofDigits 0 whole) fraction, power - fraction.length⟩

/-- The double that a numeral stands for, with a sign, or infinity or not a number by name. -/
def parseFloat? (s : String) : Option Float :=
  let (negative, body) := match s.toList with
    | '-' :: body => (true, body)
    | '+' :: body => (false, body)
    | body => (false, body)
  let signed (x : Float) : Float := if negative then -x else x
  let word := (String.ofList body).toLower
  if word = "inf" ∨ word = "infinity" then some (signed (1.0 / 0.0))
  else if word = "nan" then some (0.0 / 0.0)
  else (parse? body).map fun d => signed d.toFloat

end ScriptGate.Decimal
