import ScriptGate.Script.Error
import ScriptGate.Text.Bytes

/-!
What operators do with values.

Integers have 64 bits, and a result that does not fit is a fault. An integer beside a double counts as
a double. A text takes up whatever is added to it. Values of different
kinds are unequal, and no other comparison holds of them; but a range and a single byte can only be compared with
their like. An operator that the kinds of its operands do not have is no operator at all (`none`).

Some of these operators are at hand wherever values are known (`builtin?`); the others are functions of the
library, which take an operation more.
-/

namespace ScriptGate.Script

/-- The fault of calling something that no function fits. -/
def ErrorCause.unknownCall (name : String) (args : List Value) : ErrorCause :=
  .functionNotFound (name ++ " (" ++ ", ".intercalate (args.map Value.argumentKind) ++ ")")

namespace Operator

/-! ## Integers -/

/-- The fault of two operands. -/
def refuse (mishap : Mishap) (a : Int64) (sign : String) (b : Int64) : Except ErrorCause Value :=
  .error (.arithmetic (.operands mishap a sign b))

/-- An integer of 64 bits, or the fault of its operands. -/
def fit (mishap : Mishap) (a : Int64) (sign : String) (b : Int64) (result : Int) :
    Except ErrorCause Value :=
  if -0x8000000000000000 ≤ result ∧ result < 0x8000000000000000 then .ok (.integer (Int64.ofInt result))
  else refuse mishap a sign b

/-- A power of integers. A base beyond one overflows before its sixty-fourth power. -/
def power (a b : Int64) : Except ErrorCause Value :=
  if 4294967295 < b then refuse .power a "**" b
  else if b < 0 then refuse .negativePower a "**" b
  else if a = 0 ∨ a = 1 ∨ a = -1 then
    .ok (.integer (if b = 0 then 1 else if a = -1 ∧ b % 2 = 0 then 1 else a))
  else if 64 < b then refuse .power a "**" b
  else fit .power a "**" b (a.toInt.pow b.toInt.toNat)

/-- The bits of an integer moved by a number of places, to the left if it is positive. What is moved
out is lost; the sign is kept. -/
def shift (a : Int64) (places : Int) : Int64 :=
  if 64 ≤ places then 0
  else if 0 ≤ places then Int64.ofInt (a.toInt * Int.pow 2 places.toNat)
  else if places ≤ -64 then if a < 0 then -1 else 0
  else Int64.ofInt (a.toInt.fdiv (Int.pow 2 (-places).toNat))

/-- The operators on two integers. -/
def onIntegers (op : Binary) (a b : Int64) : Except ErrorCause Value :=
  match op with
  | .add => fit .addition a "+" b (a.toInt + b.toInt)
  | .subtract => fit .subtraction a "-" b (a.toInt - b.toInt)
  | .multiply => fit .multiplication a "*" b (a.toInt * b.toInt)
  | .divide =>
    if b = 0 then refuse .byZero a "/" b
    else fit .division a "/" b (a.toInt.tdiv b.toInt)
  | .modulo =>
    if b = 0 ∨ (a = Int64.minValue ∧ b = -1) then
      refuse .remainder a "%" b
    else .ok (.integer (Int64.ofInt (a.toInt.tmod b.toInt)))
  | .power => power a b
  | .shiftLeft => .ok (.integer (shift a b.toInt))
  | .shiftRight => .ok (.integer (shift a (-b.toInt)))
  | .bitAnd => .ok (.integer (a &&& b))
  | .bitOr => .ok (.integer (a ||| b))
  | .bitXor => .ok (.integer (a ^^^ b))
  | .equal => .ok (.boolean (a = b))
  | .notEqual => .ok (.boolean (a ≠ b))
  | .less => .ok (.boolean (a < b))
  | .lessEqual => .ok (.boolean (a ≤ b))
  | .greater => .ok (.boolean (b < a))
  | .greaterEqual => .ok (.boolean (b ≤ a))
  | .rangeTo => .ok (.range a b false)
  | .rangeThrough => .ok (.range a b true)

/-! ## Doubles -/

/-- The remainder of a division with the sign of the dividend, exactly. -/
def remainder (x y : Float) : Float :=
  if x.isNaN || y.isNaN || x.isInf || y == 0 then 0.0 / 0.0
  else if y.isInf || x == 0 then x
  else
    let a := Dyadic.ofFloat x
    let b := Dyadic.ofFloat y
    let place := min a.exponent b.exponent
    let rest := (a.mantissa * Nat.pow 2 (a.exponent - place).toNat) %
      (b.mantissa * Nat.pow 2 (b.exponent - place).toNat)
    let magnitude := (Float.ofNat rest).scaleB place
    if x < 0 then -magnitude else magnitude

/-- The operators on two doubles. -/
def onDoubles? (op : Binary) (x y : Float) : Option Value :=
  match op with
  | .add => some (.double (x + y))
  | .subtract => some (.double (x - y))
  | .multiply => some (.double (x * y))
  | .divide => some (.double (x / y))
  | .modulo => some (.double (remainder x y))
  | .power => some (.double (x.pow y))
  | .equal => some (.boolean (x == y))
  | .notEqual => some (.boolean (x != y))
  | .less => some (.boolean (x < y))
  | .lessEqual => some (.boolean (x ≤ y))
  | .greater => some (.boolean (y < x))
  | .greaterEqual => some (.boolean (y ≤ x))
  | _ => none

/-! ## Texts, truth values and collections -/

/-- A text without the places where another one stands in it, read from the left. -/
def without (part : List Char) : (fuel : Nat) → List Char → List Char
  | 0, s => s
  | _, [] => []
  | fuel + 1, c :: rest =>
    if !part.isEmpty && part.isPrefixOf (c :: rest) then
      without part fuel ((c :: rest).drop part.length)
    else c :: without part fuel rest

/-- The comparisons, by the answers to "equal" and "less". -/
def compare? (op : Binary) (equal less : Bool) : Option Value :=
  match op with
  | .equal => some (.boolean equal)
  | .notEqual => some (.boolean !equal)
  | .less => some (.boolean less)
  | .lessEqual => some (.boolean (less || equal))
  | .greater => some (.boolean !(less || equal))
  | .greaterEqual => some (.boolean !less)
  | _ => none

/-- The operators on two texts. -/
def onTexts? (op : Binary) (a b : String) : Option Value :=
  match op with
  | .add => some (.text (a ++ b))
  | .subtract =>
    some (.text (String.ofList (without b.toList (a.length + 1) a.toList)))
  | op => compare? op (a = b) (a < b)

/-- The operators on two characters. -/
def onCharacters? (op : Binary) (a b : Char) : Option Value :=
  match op with
  | .add => some (.text (a.toString ++ b.toString))
  | op => compare? op (a = b) (a < b)

/-- The operators on two truth values. -/
def onBooleans? (op : Binary) (a b : Bool) : Option Value :=
  match op with
  | .bitAnd => some (.boolean (a && b))
  | .bitOr => some (.boolean (a || b))
  | .bitXor => some (.boolean (a != b))
  | op => compare? op (a = b) (!a && b)

/-- What equality makes of an operator, if it is one of equality. -/
def byEquality? (op : Binary) (answer : Except (Value × Value) Bool) :
    Option (Except (Value × Value) Value) :=
  match op with
  | .equal => some (answer.map .boolean)
  | .notEqual => some (answer.map fun equal => .boolean !equal)
  | _ => none

/-- The comparisons of values of different kinds. -/
def byKind? : Binary → Option Value
  | .equal | .less | .lessEqual | .greater | .greaterEqual => some (.boolean false)
  | .notEqual => some (.boolean true)
  | _ => none

/-- Whether a value can only be compared with its like. -/
def isForeign : Value → Bool
  | .range .. | .byte _ => true
  | _ => false

/-- What an operator does with two values of kinds that every place knows. -/
def builtin? (op : Binary) (a b : Value) : Option (Except ErrorCause Value) :=
  match a, b with
  | .integer a, .integer b => some (onIntegers op a b)
  | .double a, .double b => (onDoubles? op a b).map .ok
  | .integer a, .double b => (onDoubles? op a.toFloat b).map .ok
  | .double a, .integer b => (onDoubles? op a b.toFloat).map .ok
  | .text a, .text b => (onTexts? op a b).map .ok
  | .text a, .character b => (onTexts? op a b.toString).map .ok
  | .character a, .text b =>
    if op = .subtract then none else (onTexts? op a.toString b).map .ok
  | .character a, .character b => (onCharacters? op a b).map .ok
  | .boolean a, .boolean b => (onBooleans? op a b).map .ok
  | .unit, .unit =>
    match op with
    | .equal => some (.ok (.boolean true))
    | op => (byKind? op).map fun _ => .ok (.boolean false)
  | .range a b i, .range c d j =>
    if i ≠ j then none
    else match op with
      | .equal => some (.ok (.boolean (a = c ∧ b = d)))
      | .notEqual => some (.ok (.boolean !(a = c ∧ b = d)))
      | _ => none
  | .blob a, .blob b =>
    match op with
    | .add => some (.ok (.blob (a ++ b)))
    | .equal => some (.ok (.boolean (a = b)))
    | .notEqual => some (.ok (.boolean (a ≠ b)))
    | _ => none
  | a, b =>
    match op with
    | .add => none
    | op => if a.kind = b.kind || isForeign a || isForeign b then none else (byKind? op).map .ok

/-- The integer of a byte. -/
def ofByte (b : UInt8) : Int64 := Int64.ofNat b.toNat

/-- What an operator of bytes makes of the result of integers: it has to be a byte again. -/
def fitByte (op : Binary) (a b : UInt8) : Except ErrorCause Value :=
  match onIntegers op (ofByte a) (ofByte b) with
  | .ok (.integer n) =>
    if 0 ≤ n ∧ n < 256 then .ok (.byte (UInt8.ofNat n.toInt.toNat))
    else
      let mishap := match op with
        | .add => Mishap.addition
        | .subtract => .subtraction
        | _ => .multiplication
      refuse mishap (ofByte a) op.text (ofByte b)
  | other => other

/-- The operators on two bytes. -/
def onBytes? (op : Binary) (a b : UInt8) : Option (Except ErrorCause Value) :=
  match op with
  | .rangeTo | .rangeThrough | .power | .shiftLeft | .shiftRight => none
  | op => some (fitByte op a b)

/-- The text of the bytes of a blob. -/
def blobText (bytes : List UInt8) : String := Text.ofBytes bytes

/-- What an operator of the library does with two values; equality hands back two values that it cannot
compare. -/
def library? (op : Binary) (a b : Value) : Option (Except ErrorCause Value) :=
  match op, a, b with
  | .add, .text a, .blob b => some (.ok (.text (a ++ blobText b)))
  | .add, .blob a, .text b => some (.ok (.text (blobText a ++ b)))
  | .add, .text a, b => some (.ok (.text (a ++ b.plainText)))
  | .add, a, .text b => some (.ok (.text (a.plainText ++ b)))
  | .add, .array a, .array b => some (.ok (.array (a ++ b)))
  | .add, .object a, .object b =>
    some (.ok (.object (b.foldl (fun entries (name, value) => Entries.insert name value entries) a)))
  | op, .byte a, .byte b => onBytes? op a b
  | op, .array a, .array b => (byEquality? op ((Value.array a).equal (.array b))).map told
  | op, .object a, .object b => (byEquality? op ((Value.object a).equal (.object b))).map told
  | op, .timestamp, .timestamp => (byEquality? op (Value.timestamp.equal .timestamp)).map told
  | _, _, _ => none
where
  /-- Tells two values without equality as a call that no function fits. -/
  told : Except (Value × Value) Value → Except ErrorCause Value
    | .ok v => .ok v
    | .error (a, b) => .error (.unknownCall "==" [a, b])

/-- What an operator does with two values. -/
def binary? (op : Binary) (a b : Value) : Option (Except ErrorCause Value) :=
  builtin? op a b <|> library? op a b

/-- What an operator does with one value. -/
def unary? (op : Unary) (a : Value) : Option (Except ErrorCause Value) :=
  match op, a with
  | .not, .boolean b => some (.ok (.boolean !b))
  | .minus, .integer n =>
    if n = Int64.minValue then some (.error (.arithmetic .minus))
    else some (.ok (.integer (-n)))
  | .minus, .double x => some (.ok (.double (-x)))
  | .plus, .integer n => some (.ok (.integer n))
  | .plus, .double x => some (.ok (.double x))
  | .plus, .byte b => some (.ok (.byte b))
  | _, _ => none

end Operator

end ScriptGate.Script
