import ScriptGate.Script.Evaluate.Basic
import ScriptGate.Script.Token

/-!
Calls.

A function of the script is found by its name and the number of arguments, and goes before a library
function of that name. It gets its arguments by value and knows no other variables. A fault that leaves it
is wrapped with its name, if it has one, and the place of the call; a fault that ends the run
is told at that place instead.
-/

namespace ScriptGate.Script

/-- What a call did: how it ended, and what its first argument or `this` became, if it was changed. -/
structure Called where
  outcome : Except Stop Value
  target : Option Value

namespace Called

/-- A call that ends in a fault and changes nothing. -/
def fault (cause : ErrorCause) (p : Option Position) : Called :=
  ⟨.error (.fault (.plain cause p)), none⟩

/-- A call that answers a value and changes nothing. -/
def answer (v : Value) : Called := ⟨.ok v, none⟩

/-- The answer, or the fault, of a library function, after the limits on sizes; `first` is the first
argument afterwards where it is taken by reference. -/
def judge (env : Env) (p : Option Position) (first : Option Value) :
    Except ErrorCause Value → Except Stop Value
  | .error cause => .error (.fault (.plain cause p))
  | .ok v =>
    let tooLarge := ((first.map Value.size).bind fun size => Run.sizeFault? env size p) <|>
      Run.sizeFault? env v.size p
    match tooLarge with
    | some e => .error (.fault e)
    | none => .ok v

/-- What a library function did. -/
def ofEffect (env : Env) (p : Option Position) (args : List Value) : Effect → Called
  | .answer result => ⟨judge env p none result, none⟩
  | .look result => ⟨judge env p args.head? result, none⟩
  | .change target result => ⟨judge env p (some target) result, some target⟩

/-- A call that was just judged: the run remembers a limit that it exceeded. -/
def noted (c : Called) : Run Called := fun s =>
  match c.outcome with
  | .error (.fault e) => .ok c { s with exceeded := s.exceeded || e.isLimit }
  | _ => .ok c s

/-- How a call ends for the one who called. -/
def finish (c : Called) : Run Value :=
  match c.outcome with
  | .ok v => return v
  | .error stop => throw stop

/-- A call that changes nothing if it is stopped on the way. -/
def guard (body : Run Called) : Run Called := fun s =>
  match body s with
  | .ok called s => .ok called s
  | .error stop s => .ok ⟨.error stop, none⟩ s

end Called

/-- A way to call library functions. -/
abbrev Native := Env → String → List Value → Option Position → Run Called

/-- The name that a function is told by in the trace of a fault. -/
def Function.shownName? (f : Function) : Option String :=
  if f.name = Value.anonymous then none else some f.name

namespace Eval

variable (ev : Eval)

/-! ## Functions of the script -/

/-- How the end of a function's body looks to its caller. -/
def leave (f : Function) (p : Option Position) : Except Stop Value → Except Stop Value
  | .ok v => .ok v
  | .error (.giveBack v) => .ok v
  | .error (.fault e) =>
    .error (.fault (if e.endsRun then e.atPlace p else .inCall f.shownName? e p))
  | .error stop => .error stop

/-- The parameters of a function as variables, innermost first. -/
def bind (f : Function) (args : List Slot) : List Variable :=
  ((f.params.zip args).map fun (name, slot) => ⟨name, slot, none⟩).reverse

/-- Calls a function of the script. -/
def callFunction (env : Env) (f : Function) (args : List Slot) (this : Option Receiver)
    (p : Option Position) : Run Called := do
  Run.tick env p
  let env := { env with level := env.level + 1, atTop := false }
  if env.settings.maxCallDepth < env.level then return ← (Called.fault .stackOverflow p).noted
  let (result, this) ← Run.inFrame (bind f args) this (statements ev env f.body)
  return ⟨leave f p result, this⟩

/-- Calls a function of the script by name, with values; one that is empty is not even called. -/
def callByName (env : Env) (f : Function) (args : List Value) (this : Option Receiver)
    (p : Option Position) : Run Called :=
  if f.body.isEmpty then return .answer .unit
  else callFunction ev env f (args.map .own) this p

/-! ## Function values -/

/-- The function value with a name, unless no function can have it. -/
def pointerTo (name : String) : Except ErrorCause Value :=
  if isReservedText name then .error (.reservedName name)
  else if isNameShaped name then .ok (.function name none [] [])
  else .error (.functionNotFound name)

/-- Calls a function value. -/
def callPointerWith (native : Native) (env : Env) (callee : Value) (args : List Value)
    (this : Option Receiver) (p : Option Position) : Run Called :=
  match callee with
  | .function name (some f) cells bound =>
    if f.params.length = cells.length + bound.length + args.length then
      callFunction ev env f (cells.map .shared ++ (bound ++ args).map .own) this p
    else return .fault (.unknownCall name (bound ++ args)) p
  | .function name none _ bound =>
    let args := bound ++ args
    match env.functions.find? name args.length with
    | some f => callByName ev env f args this p
    | none => native env name ((this.map Receiver.value).toList ++ args) p
  | v => return .fault (.typeMismatch v.kind "Fn") p

/-! ## Library functions -/

/-- The fault of asking for a blob that is larger than allowed; it is not even made. -/
def oversized? (env : Env) (p : Option Position) : String → List Value → Option Error
  | "blob", [.integer n] | "blob", [.integer n, .integer _] =>
    Run.sizeFault? env ⟨n.toInt.toNat, 0, 0⟩ p
  | _, _ => none

/-- Why there is no function of that name: not even the module in front of the name is there, or no
function takes such arguments. -/
def notFound (name : String) (args : List Value) : ErrorCause :=
  match name.splitOn "::" with
  | [within, _] => .moduleNotFound within
  | _ => .unknownCall name args

/-- What a library function does that calls no function back. -/
def answer (env : Env) (name : String) (args : List Value) (p : Option Position) : Run Called := do
  match name, args with
  | "print", [] =>
    Run.say (.printed "")
    return .answer .unit
  | "print", [v] =>
    Run.say (.printed v.plainText)
    return .answer .unit
  | "debug", [] =>
    Run.say (.shown "" ((p.map Position.render).getD "none"))
    return .answer .unit
  | "debug", [v] =>
    Run.say (.shown v.debugText ((p.map Position.render).getD "none"))
    return .answer .unit
  | "exit", [] => throw (.exit .unit)
  | "exit", [v] => throw (.exit v)
  | _, _ =>
    match oversized? env p name args with
    | some e => return ⟨.error (.fault e), none⟩
    | none =>
      match Library.effect? name args with
      | some effect => return .ofEffect env p args effect
      | none => return .fault (notFound name args) p

/-- Whether a library function takes an operation of its own. -/
def takesOperation (name : String) (args : List Value) : Bool :=
  !(name = "type_of" && args.length = 1)

/-- Calls a library function that calls no function back. -/
def callPlain (env : Env) (name : String) (args : List Value) (p : Option Position) : Run Called := do
  if takesOperation name args then Run.tick env p
  (← answer env name args p).noted

end Eval

end ScriptGate.Script
