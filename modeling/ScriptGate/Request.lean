import ScriptGate.Json.Value
import ScriptGate.Fault.Basic

/-!
Requests, and the checks that turn the name of an operation and its parameters into one.

Parameters are an object, or null in place of the empty one. The operation is judged before its
fields, and the fields in the order in which the operation lists them; members that
the operation does not read are ignored.
-/

namespace ScriptGate

open Json (Members Value)

inductive Request where
  | evaluate (source : String)
  | invoke (name : String) (args : List Value)
  | enableDebugger (port : UInt16)
  | disableDebugger

namespace Request

/-- The members of a parameter value. -/
def members : Value → Except Fault Members
  | .object members => .ok members
  | .null => .ok []
  | _ => .error (.argument "params" "params not object")

/-- A field that has to be a text. -/
def textField (params : Members) (name : String) : Except Fault String :=
  match Members.get? params name with
  | some (.text s) => .ok s
  | _ => .error (.argument name (name ++ " not text"))

/-- The field that has to be a list of arguments. -/
def argsField (params : Members) : Except Fault (List Value) :=
  match Members.get? params "args" with
  | some (.list items) => .ok items
  | _ => .error (.argument "args" "args not sequence")

/-- The field that has to be the number of a port: an integer, and below `2 ^ 16`. -/
def portField (params : Members) : Except Fault UInt16 :=
  match Members.get? params "port" with
  | some (.number (.whole n)) =>
    if 0 ≤ n.val ∧ n.val < 65536 then .ok (UInt16.ofNat n.val.toNat)
    else .error (.argument "port" ("port " ++ toString n.val ++ " out of range"))
  | _ => .error (.argument "port" "port not integer")

/-- The request that an operation and its parameters make. -/
def ofParams (op : String) (params : Value) : Except Fault Request := do
  let params ← members params
  if op = "evaluate" then
    return .evaluate (← textField params "source")
  else if op = "invoke" then
    let name ← textField params "name"
    let args ← argsField params
    return .invoke name args
  else if op = "enable_debugger" then
    return .enableDebugger (← portField params)
  else if op = "disable_debugger" then
    return .disableDebugger
  else
    throw (.argument "op" ("unknown operation '" ++ op ++ "'"))

end Request

end ScriptGate
