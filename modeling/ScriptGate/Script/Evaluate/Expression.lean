import ScriptGate.Script.Evaluate.Assign

/-!
Expressions.

Operands have values from left to right. An array or an object that stands in the source as a value
passes whatever its size; any other one is measured as it grows. An operator that is a function of the library
takes an operation more than one that is at hand everywhere.
-/

namespace ScriptGate.Script

namespace Eval

variable (ev : Eval) (env : Env)

/-! ## Names -/

/-- The value of a variable, or else the function of that name. -/
def named (name : String) (p : Position) : Run Value := do
  match ← Run.lookup? name with
  | some x => return Run.read (← get) x.slot
  | none =>
    match functionNamed? env name with
    | some f => return f
    | none => Run.fail (.variableNotFound name) (some p)

/-- The value of a constant of the run. -/
def constant (name : String) (p : Position) : Run Value := do
  match (← get).constants.lookup name with
  | some v => return v
  | none => Run.fail (.variableNotFound ("global::" ++ name)) (some p)

/-- The value of `this`. -/
def this (p : Position) : Run Value := do
  match (← get).this with
  | some this => return this.value
  | none => Run.fail .unboundThis (some p)

/-! ## Arrays and objects -/

/-- Gives items their values, from left to right, and measures what there is so far. -/
def items : (size : Value.Size) → List Expr → Run (List Value)
  | _, [] => return []
  | size, e :: rest => do
    let v ← expression ev env e
    let size := size.add (v.size.add ⟨1, 0, 0⟩)
    Run.checkSize env size (some e.pos)
    return v :: (← items size rest)

/-- Gives entries their values, from left to right, and measures what there is so far. -/
def entries : (size : Value.Size) → List (String × Expr) → Run Entries
  | _, [] => return []
  | size, (name, e) :: rest => do
    let v ← expression ev env e
    let size := size.add (v.size.add ⟨0, 1, 0⟩)
    Run.checkSize env size (some e.pos)
    return (← entries size rest).insert name v

/-! ## Operators -/

/-- Whether a text is added to a text and one of the two is empty; the sum is not measured then. -/
def isPlainSum : Value → Value → Bool
  | .text a, .text b => a.isEmpty || b.isEmpty
  | .text a, .character _ => a.isEmpty
  | .character _, .text b => b.isEmpty
  | _, _ => false

/-- What a function of the library for an operator makes of operands. -/
def operated (op : String) (args : List Value) (p : Position) :
    Option (Except ErrorCause Value) → Run Value
  | some result => do
    Run.tick env (some p)
    Run.checked env (some p) (← Run.ofResult (some p) result)
  | none => do
    Run.tick env (some p)
    Run.fail (.unknownCall op args) (some p)

/-- Evaluates an operator between two operands. -/
def binary (op : Binary) (left right : Expr) (p : Position) : Run Value := do
  let a ← expression ev env left
  let b ← expression ev env right
  match Operator.builtin? op a b with
  | some result =>
    let v ← Run.ofResult (some p) result
    if isPlainSum a b then return v
    Run.checked env (some p) v
  | none => operated env op.text [a, b] p (Operator.library? op a b)

/-- The opposite of a value. -/
def opposite (v : Value) (p : Position) : Run Value :=
  match v with
  | .boolean b => return .boolean !b
  | v => operated env Unary.not.text [v] p none

/-- Evaluates an operator before an operand. -/
def unary (op : Unary) (operand : Expr) (p : Position) : Run Value := do
  let a ← expression ev env operand
  match op with
  | .not => opposite env a p
  | op =>
    match Operator.unary? op a with
    | some result => Run.ofResult (some p) result
    | none => operated env op.text [a] p none

/-- Evaluates an operator whose second operand may be left alone. -/
def lazy (op : Lazy) (left right : Expr) : Run Value := do
  match op with
  | .and =>
    if ← condition ev env left then return .boolean (← condition ev env right)
    return .boolean false
  | .or =>
    if ← condition ev env left then return .boolean true
    return .boolean (← condition ev env right)
  | .coalesce =>
    let v ← expression ev env left
    if v.isUnit then expression ev env right else return v

/-- Evaluates whether a container has an item, by a call of its own if that is not wanted. -/
def member (item container : Expr) (negated : Bool) (p : Position) : Run Value := do
  if negated then
    Run.tick env (some p)
    opposite env (← apply ev env "contains" [container, item] p) p
  else apply ev env "contains" [container, item] p

/-! ## Anonymous functions -/

/-- The cells of captured variables. -/
def capture (p : Position) : List String → Run (List Nat)
  | [] => return []
  | name :: rest => do
    match ← Run.share? name with
    | some cell => return cell :: (← capture p rest)
    | none => Run.fail (.variableNotFound name) (some p)

/-- Takes so many operations. -/
def ticks (p : Position) : Nat → Run Unit
  | 0 => return ()
  | n + 1 => do
    Run.tick env (some p)
    ticks p n

/-- Makes an anonymous function: the variables that it captures are shared, what has a value already is
bound to it. -/
def closure (captured : List (String × Option Literal)) (params : List String)
    (body : List Statement) (p : Position) : Run Value := do
  let shared := captured.filterMap fun (name, value) => if value.isNone then some name else none
  let bound := captured.filterMap fun (name, value) => value.map fun v => (name, v)
  ticks env p (if shared.isEmpty then 1 else 2)
  let cells ← capture p shared
  ticks env p (captured.length + if shared.isEmpty then 0 else 1)
  let f : Function := ⟨Value.anonymous, shared ++ bound.map Prod.fst ++ params, body⟩
  return .function f.name (some f) cells (bound.map fun e => .ofLiteral e.2)

/-! ## The expression -/

/-- Evaluates an expression. -/
def evaluate (e : Expr) : Run Value := do
  match e with
  | .call name args p => call ev env name args p
  | .chain root links => chain ev env root links
  | e =>
    Run.tick env (some e.pos)
    match e with
    | .literal v _ => return .ofLiteral v
    | .variable name p => named env name p
    | .global name p => constant name p
    | .this p => this p
    | .array es _ => return .array (← items ev env ⟨0, 0, 0⟩ es)
    | .object es _ => return .object (← entries ev env ⟨0, 0, 0⟩ es)
    | .unary op operand p => unary ev env op operand p
    | .binary op left right p => binary ev env op left right p
    | .lazy op left right _ => lazy ev env op left right
    | .member item container negated p => member ev env item container negated p
    | .closure captured params body p => closure env captured params body p
    | .block body _ => block ev env body
    | .call .. | .chain .. => return .unit

end Eval

end ScriptGate.Script
