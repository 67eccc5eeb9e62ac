import ScriptGate.Script.Library.Collection
import ScriptGate.Script.Library.Number
import ScriptGate.Script.Library.Text

/-!
The library of the script language.

A function is found by its name and by the kinds of all its arguments; there is nothing in between
"found" and "not found". Functions that call a function of the script are not part of it.
-/

namespace ScriptGate.Script.Library

/-- The functions that take values of any kind, or none. -/
def onAny? (name : String) (args : List Value) : Option Effect :=
  match name, args with
  | "to_string", [v] => some (.text v.plainText)
  | "to_debug", [v] => some (.text v.debugText)
  | "type_of", [v] => some (.text v.kind)
  | "blob", [] => some (.value (.blob []))
  | "blob", [v] => (integer? v).map fun n => .value (.blob (List.replicate n.toInt.toNat 0))
  | "blob", [v, w] => do
    return .value (.blob (List.replicate (← integer? v).toInt.toNat (byte (← integer? w))))
  | "timestamp", [] => some (.value .timestamp)
  | _, _ => none

/-- What the function of that name does with the arguments. -/
def effect? (name : String) (args : List Value) : Option Effect :=
  onAny? name args <|> onCollections? name args <|> onTexts? name args <|> onNumbers? name args

/-! ## Properties -/

/-- The functions without further arguments that can be read as properties. -/
def propertyNames : Value → List String
  | .text _ => ["len", "is_empty", "bytes", "chars"]
  | .array _ | .blob _ => ["len", "is_empty"]
  | .integer _ => ["is_odd", "is_even", "is_zero"]
  | .double _ =>
    ["is_zero", "is_nan", "is_finite", "is_infinite", "floor", "ceiling", "round", "int", "fraction"]
  | .range .. => ["start", "end", "is_inclusive", "is_exclusive", "is_empty"]
  | _ => []

/-- The property of that name of a value that is no object. -/
def property? (name : String) (v : Value) : Option (Except ErrorCause Value) :=
  match v, name with
  | .function f .., "name" => some (.ok (.text f))
  | .function _ body .., "is_anonymous" => some (.ok (.boolean body.isSome))
  | v, name =>
    if name ∈ propertyNames v then
      match effect? name [v] with
      | some (.answer result) => some result
      | some (.look result) => some result
      | _ => none
    else none

end ScriptGate.Script.Library
