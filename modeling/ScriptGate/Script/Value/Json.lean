import ScriptGate.Json.Value
import ScriptGate.Script.Value

/-!
Values as JSON and back.

Every JSON value is a value; an integer beyond the signed range becomes a double. The other way
functions, ranges, blobs and timestamps have no form, nor has anything that contains one of them.
The unit value is null.
-/

namespace ScriptGate.Script

/-- What has no JSON form. -/
inductive NoForm where
  | function
  | range
  | rangeThrough
  | timestamp
  | blob
deriving DecidableEq, Repr

namespace NoForm

/-- The text of the complaint. -/
def message : NoForm → String
  | .function => wrongOutput "Fn"
  | .range => wrongOutput "Range<i64>"
  | .rangeThrough => wrongOutput "RangeInclusive<i64>"
  | .timestamp => wrongOutput "timestamp"
  | .blob => "Syntax error: invalid type: byte array, expected any valid JSON value"
where
  /-- The complaint about a kind of value. -/
  wrongOutput (kind : String) : String :=
    "Output type incorrect: " ++ kind ++ " (expecting serde_json::value::Value)"

end NoForm

/-- A signed integer of 64 bits as one of JSON. -/
def wholeOfInteger (n : Int64) : Json.Whole :=
  ⟨n.toInt, n.le_toInt, by have := n.toInt_lt; omega⟩

/-- A byte as an integer of JSON. -/
def wholeOfByte (b : UInt8) : Json.Whole :=
  ⟨b.toNat, by have := b.toNat_lt; omega, by have := b.toNat_lt; omega⟩

namespace Value

mutual

/-- The JSON form of a value. -/
def toJson : Value → Except NoForm Json.Value
  | .unit => .ok .null
  | .boolean b => .ok (.boolean b)
  | .integer n => .ok (.number (.whole (wholeOfInteger n)))
  | .double x => .ok (.number (.double x))
  | .character c => .ok (.text c.toString)
  | .text s => .ok (.text s)
  | .array items => (itemsToJson items).map .list
  | .object entries => (entriesToJson entries).map fun members => .object (Json.Members.ofList members)
  | .range _ _ false => .error .range
  | .range _ _ true => .error .rangeThrough
  | .byte b => .ok (.number (.whole (wholeOfByte b)))
  | .blob _ => .error .blob
  | .timestamp => .error .timestamp
  | .function .. => .error .function

/-- The JSON forms of items. -/
def itemsToJson : List Value → Except NoForm (List Json.Value)
  | [] => .ok []
  | item :: rest => do
    let first ← item.toJson
    return first :: (← itemsToJson rest)

/-- The JSON forms of entries. -/
def entriesToJson : List (String × Value) → Except NoForm (List (String × Json.Value))
  | [] => .ok []
  | (name, value) :: rest => do
    let first ← value.toJson
    return (name, first) :: (← entriesToJson rest)

end

/-- The value of a JSON number. -/
def ofNumber : Json.Number → Value
  | .whole n =>
    if n.val < 0x8000000000000000 then .integer (Int64.ofInt n.val) else .double (Float.ofInt n.val)
  | .double x => .double x

mutual

/-- The value of a JSON value. -/
def ofJson : Json.Value → Value
  | .null => .unit
  | .boolean b => .boolean b
  | .number n => ofNumber n
  | .text s => .text s
  | .list items => .array (ofJsonItems items)
  | .object members => .object (ofJsonMembers members)

/-- The values of items. -/
def ofJsonItems : List Json.Value → List Value
  | [] => []
  | item :: rest => ofJson item :: ofJsonItems rest

/-- The entries of an object. -/
def ofJsonMembers : List (String × Json.Value) → Entries
  | [] => []
  | (name, value) :: rest => (name, ofJson value) :: ofJsonMembers rest

end

end Value

end ScriptGate.Script
