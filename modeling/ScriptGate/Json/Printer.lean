import ScriptGate.Json.Value
import ScriptGate.Decimal.Shortest

/-!
Compact JSON text.

`Value.write v rest` is the text of `v` followed by `rest`. There is no white
space; members follow the order of the object; only the quote, the backslash
and the characters below the space are escaped. A double is written with the
fewest digits that read back to it: positionally when its leading digit stands
between the fifth place after the point and the sixteenth before it, else with a
signed power of ten. Writing has no nesting limit.
-/

namespace ScriptGate.Json

/-! ## Text -/

/-- The digit of value `n`, below sixteen, in lower case. -/
def hexDigit (n : Nat) : Char := Char.ofNat (if n < 10 then 48 + n else 87 + n)

/-- How a character is written inside quotes. -/
def escape (c : Char) : List Char :=
  if c = '"' then ['\\', '"']
  else if c = '\\' then ['\\', '\\']
  else if 32 ≤ c.toNat then [c]
  else if c = '\x08' then ['\\', 'b']
  else if c = '\x0c' then ['\\', 'f']
  else if c = '\n' then ['\\', 'n']
  else if c = '\r' then ['\\', 'r']
  else if c = '\t' then ['\\', 't']
  else ['\\', 'u', '0', '0', hexDigit (c.toNat / 16), hexDigit (c.toNat % 16)]

/-- A text in quotes, then `rest`. -/
def writeText (s : String) (rest : List Char) : List Char :=
  '"' :: (s.toList.flatMap escape ++ '"' :: rest)

/-! ## Numbers -/

/-- The text of a double; those that are not finite have none but `null`. -/
def doubleChars (x : Float) : List Char :=
  if !x.isFinite then ['n', 'u', 'l', 'l']
  else
    let magnitude :=
      if x == 0 then ['0', '.', '0']
      else
        let decimal := (Dyadic.ofFloat x).shortest
        if -5 ≤ decimal.leading ∧ decimal.leading < 16 then decimal.positional
        else decimal.scientific true
    if x.toBits ≥ 0x8000000000000000 then '-' :: magnitude else magnitude

/-- The digits of an integer, after a minus sign if it is negative. -/
def intChars (i : Int) : List Char :=
  if i < 0 then '-' :: Nat.toDigits 10 i.natAbs else Nat.toDigits 10 i.natAbs

/-- The text of a number. -/
def Number.chars : Number → List Char
  | .whole n => intChars n.val
  | .double x => doubleChars x

/-- The text of a number, as a string. -/
def Number.render (n : Number) : String := String.ofList n.chars

/-! ## Values -/

namespace Value

mutual

/-- The text of a value, then `rest`. -/
def write : Value → List Char → List Char
  | .null, rest => 'n' :: 'u' :: 'l' :: 'l' :: rest
  | .boolean true, rest => 't' :: 'r' :: 'u' :: 'e' :: rest
  | .boolean false, rest => 'f' :: 'a' :: 'l' :: 's' :: 'e' :: rest
  | .number n, rest => n.chars ++ rest
  | .text s, rest => writeText s rest
  | .list [], rest => '[' :: ']' :: rest
  | .list (item :: items), rest => '[' :: write item (writeItems items rest)
  | .object [], rest => '{' :: '}' :: rest
  | .object ((name, value) :: members), rest =>
    '{' :: writeText name (':' :: write value (writeMembers members rest))

/-- The items that follow an earlier one, with their commas and the closing
bracket. -/
def writeItems : List Value → List Char → List Char
  | [], rest => ']' :: rest
  | item :: items, rest => ',' :: write item (writeItems items rest)

/-- The members that follow an earlier one, with their commas and the closing
brace. -/
def writeMembers : List (String × Value) → List Char → List Char
  | [], rest => '}' :: rest
  | (name, value) :: members, rest =>
    ',' :: writeText name (':' :: write value (writeMembers members rest))

end

/-- The compact JSON text of a value. -/
def render (v : Value) : String := String.ofList (v.write [])

end Value

/-- The JSON text of an argument list. -/
def renderList (items : List Value) : String := (Value.list items).render

end ScriptGate.Json
