import ScriptGate.Decimal.Shortest
import ScriptGate.Script.Value
import ScriptGate.Text.Quoted

/-!
The texts of values.

A value is shown plainly where it is printed or joined to a text, and with its texts in quotes inside a
collection or for debugging. What a fault tells about a thrown value quotes
characters too.
-/

namespace ScriptGate.Script

namespace Value

/-! ## Doubles -/

/-- The magnitude of a finite double other than zero, as decimal. -/
def decimal (x : Float) : Decimal := (Dyadic.ofFloat x).shortest

/-- A text behind a minus sign if the double is negative. -/
def signed (x : Float) (magnitude : List Char) : String :=
  String.ofList (if x.toBits ≥ 0x8000000000000000 then '-' :: magnitude else magnitude)

/-- The largest magnitude that is printed positionally: the float of thirty-two bits next to ten to the
thirteenth. -/
def largestPlain : Float := 9999999827968.0

/-- The smallest magnitude that is printed positionally: the float of thirty-two bits next to the inverse of ten to
the thirteenth. -/
def smallestPlain : Float := (14757395 : Float).scaleB (-67)

/-- A double as it is printed: positionally between two bounds, and else with a power of ten. Zero has no
sign. -/
def doubleText (x : Float) : String :=
  if x.isNaN then "NaN"
  else if x == 0 then "0.0"
  else if x.isInf then if x < 0 then "-inf" else "inf"
  else if largestPlain < x.abs ∨ x.abs < smallestPlain then signed x ((decimal x).scientific false)
  else signed x (decimal x).positional

/-- A double as it is shown for debugging: the sign of zero is kept, and it has a power of ten below one
ten-thousandth and from ten to the sixteenth on. -/
def doubleDebug (x : Float) : String :=
  if x.isNaN then "NaN"
  else if x == 0 then signed x ['0', '.', '0']
  else if x.isInf then if x < 0 then "-inf" else "inf"
  else if -4 ≤ (decimal x).leading ∧ (decimal x).leading < 16 then signed x (decimal x).positional
  else signed x ((decimal x).scientific false)

/-! ## Values -/

/-- The digit of value `n`, below sixteen. -/
def hexDigit (n : Nat) : Char := Char.ofNat (if n < 10 then 48 + n else 87 + n)

/-- A text between two others. -/
def enclose (left right : String) (parts : List String) : String :=
  left ++ ", ".intercalate parts ++ right

/-- The text of a value without parts. -/
def scalarText : Value → String
  | .boolean b => if b then "true" else "false"
  | .integer n => toString n
  | .double x => doubleText x
  | .character c => c.toString
  | .text s => s
  | .range a b inclusive => toString a ++ (if inclusive then "..=" else "..") ++ toString b
  | .byte b => toString b.toNat
  | .blob bytes =>
    String.ofList ('[' :: (bytes.flatMap fun b =>
      [hexDigit (b.toNat / 16), hexDigit (b.toNat % 16)]) ++ [']'])
  | .timestamp => "<timestamp>"
  | .function name .. => "Fn(" ++ name ++ ")"
  | _ => ""

mutual

/-- The text of a value for debugging. Where `quoteChars` holds a character is put into quotes. -/
def debugWith (quoteChars : Bool) : Value → String
  | .unit => "()"
  | .double x => doubleDebug x
  | .character c => if quoteChars then "'" ++ c.toString ++ "'" else c.toString
  | .text s => Text.quoted s
  | .array items => enclose "[" "]" (debugItems quoteChars items)
  | .object entries => enclose "#\x7b" "\x7d" (debugEntries quoteChars entries)
  | v => v.scalarText

/-- The texts of items. -/
def debugItems (quoteChars : Bool) : List Value → List String
  | [] => []
  | item :: rest => item.debugWith quoteChars :: debugItems quoteChars rest

/-- The texts of entries. -/
def debugEntries (quoteChars : Bool) : List (String × Value) → List String
  | [] => []
  | (name, value) :: rest =>
    (Text.quoted name ++ ": " ++ value.debugWith quoteChars) :: debugEntries quoteChars rest

end

/-- The text of a value for debugging. -/
def debugText (v : Value) : String := v.debugWith false

/-- The text of a value as it is printed. -/
def plainText : Value → String
  | .array items => debugText (.array items)
  | .object entries => debugText (.object entries)
  | v => v.scalarText

/-- The text of a thrown value. -/
def thrownText : Value → String
  | .array items => debugWith true (.array items)
  | .object entries => debugWith true (.object entries)
  | v => v.scalarText

end Value

end ScriptGate.Script
