import ScriptGate.Decimal.Nearest
import ScriptGate.Script.Library.Basic
import ScriptGate.Text.Blank
import ScriptGate.Text.Numeral

/-!
Functions of numbers, and the functions that read numbers from texts.
-/

namespace ScriptGate.Script.Library

/-! ## Reading -/

/-- The function `parse_int`. -/
def parseInteger (s : String) (base : Int64) : Effect :=
  if base < 2 ∨ 36 < base then .refuse (.radix base)
  else match Text.signed64 base.toInt.toNat (Text.trim s) with
    | .ok n => .value (.integer (Int64.ofInt n))
    | .error e => .refuse (.integerText s e.message)

/-- The function `parse_float`. -/
def parseDouble (s : String) : Effect :=
  match Decimal.parseFloat? (Text.trim s) with
  | some x => .value (.double x)
  | none =>
    .refuse (.doubleText s
      (if Text.trim s = "" then "cannot parse float from empty string" else "invalid float literal"))

/-! ## Calculating -/

/-- The whole part of a double, towards zero. -/
def truncate (x : Float) : Float := if x < 0 then x.ceil else x.floor

/-- All digits of a double that has a whole value. -/
def wholeText (x : Float) : String :=
  if x.isInf then Value.doubleText x
  else Value.signed x ((Value.decimal x).positional.takeWhile (· ≠ '.'))

/-- The function `to_int` on a double. -/
def doubleToInteger (x : Float) : Effect :=
  if x > 9223372036854775807.0 ∨ x < -9223372036854775808.0 then
    .refuse (.noInteger (wholeText x))
  else .value (.integer (truncate x).toInt64)

/-- The sign of a double. -/
def doubleSign (x : Float) : Effect :=
  if x.isNaN then .refuse .signOfNaN
  else .count (if x == 0 then 0 else if x < 0 then -1 else 1)

/-- The functions of one integer. -/
def onInteger? (name : String) (n : Int64) : Option Effect :=
  match name with
  | "abs" =>
    some (if n = Int64.minValue then .refuse (.negation n)
      else .value (.integer (if n < 0 then -n else n)))
  | "sign" => some (.count (if n = 0 then 0 else if n < 0 then -1 else 1))
  | "is_odd" => some (.truth (n.toInt % 2 ≠ 0))
  | "is_even" => some (.truth (n.toInt % 2 = 0))
  | "is_zero" => some (.truth (n = 0))
  | "to_int" => some (.value (.integer n))
  | "to_float" => some (.value (.double n.toFloat))
  | _ => none

/-- The functions of one double. -/
def onDouble? (name : String) (x : Float) : Option Effect :=
  match name with
  | "abs" => some (.value (.double x.abs))
  | "sign" => some (doubleSign x)
  | "is_zero" => some (.truth (x == 0))
  | "sqrt" => some (.value (.double x.sqrt))
  | "floor" => some (.value (.double x.floor))
  | "ceiling" => some (.value (.double x.ceil))
  | "round" => some (.value (.double x.round))
  | "int" => some (.value (.double (truncate x)))
  | "fraction" => some (.value (.double (x - truncate x)))
  | "is_nan" => some (.truth x.isNaN)
  | "is_finite" => some (.truth x.isFinite)
  | "is_infinite" => some (.truth x.isInf)
  | "to_int" => some (doubleToInteger x)
  | "exp" => some (.value (.double x.exp))
  | "ln" => some (.value (.double x.log))
  | "sin" => some (.value (.double x.sin))
  | "cos" => some (.value (.double x.cos))
  | "tan" => some (.value (.double x.tan))
  | _ => none

/-- The functions of one byte. -/
def onByte? (name : String) (b : UInt8) : Option Effect :=
  match name with
  | "to_int" => some (.count b.toNat)
  | "to_float" => some (.value (.double (Float.ofNat b.toNat)))
  | "is_odd" => some (.truth (b.toNat % 2 = 1))
  | "is_even" => some (.truth (b.toNat % 2 = 0))
  | "is_zero" => some (.truth (b = 0))
  | _ => none

/-- The smaller or the larger of two doubles: the first one if the comparison holds of it. -/
def doubleBound (larger : Bool) (x y : Float) : Float :=
  if larger then if y ≤ x then x else y
  else if x ≤ y then x else y

/-- The smaller or the larger of two values. -/
def bound? (larger : Bool) : Value → Value → Option Effect
  | .integer a, .integer b =>
    some (.value (.integer (if larger then if a < b then b else a else if b < a then b else a)))
  | .double a, .double b => some (.value (.double (doubleBound larger a b)))
  | .integer a, .double b => some (.value (.double (doubleBound larger a.toFloat b)))
  | .double a, .integer b => some (.value (.double (doubleBound larger a b.toFloat)))
  | .text a, .text b =>
    some (.value (.text (if larger then if a < b then b else a else if b < a then b else a)))
  | .character a, .character b =>
    some (.value (.character (if larger then if a < b then b else a else if b < a then b else a)))
  | _, _ => none

/-- The functions of numbers. -/
def onNumbers? (name : String) (args : List Value) : Option Effect :=
  match name, args with
  | "min", [a, b] => bound? false a b
  | "max", [a, b] => bound? true a b
  | "parse_int", [.text s] => some (parseInteger s 10)
  | "parse_int", [.text s, .integer base] => some (parseInteger s base)
  | "parse_float", [.text s] => some (parseDouble s)
  | "to_int", [.character c] => some (.count c.toNat)
  | name, [.integer n] => onInteger? name n
  | name, [.double x] => onDouble? name x
  | name, [.byte b] => onByte? name b
  | _, _ => none

end ScriptGate.Script.Library
