import ScriptGate.Script.Evaluate.CallBack

/-!
Calls as expressions.

A first argument that is a variable or `this` is handed over by reference if a library function is called:
its value comes last, and the function may change it.
-/

namespace ScriptGate.Script.Eval

variable (ev : Eval) (env : Env)

/-! ## Calls by name -/

/-- Calls a function whose first argument is a variable. A library function may change a variable that
is not constant and owns its value. -/
def callOnVariable (name target : String) (q : Position) (rest : List Expr) (p : Position) :
    Run Value := do
  let args ← arguments ev env rest
  Run.tick env (some q)
  match ← Run.lookup? target with
  | some x =>
    let called ← callNamed ev env name (Run.read (← get) x.slot :: args) (some p)
    match x.slot, x.made, called.target, env.functions.find? name (args.length + 1) with
    | .own _, none, some v, none => Run.store target v
    | _, _, _, _ => pure ()
    called.finish
  | none =>
    match functionNamed? env target with
    | some f => (← callNamed ev env name (f :: args) (some p)).finish
    | none => Run.fail (.variableNotFound target) (some q)

/-- Calls a function whose first argument is `this`. -/
def callOnThis (name : String) (q : Position) (rest : List Expr) (p : Position) : Run Value := do
  let args ← arguments ev env rest
  Run.tick env (some q)
  match (← get).this with
  | none => Run.fail .unboundThis (some q)
  | some this =>
    let called ← callNamed ev env name (this.value :: args) (some p)
    match this.made, called.target, env.functions.find? name (args.length + 1) with
    | none, some v, none => modify fun s => { s with this := some { this with value := v } }
    | _, _, _ => pure ()
    called.finish

/-- Calls a function by name. -/
def apply (name : String) (args : List Expr) (p : Position) : Run Value := do
  match args with
  | .variable x q :: rest => callOnVariable ev env name x q rest p
  | .this q :: rest => callOnThis ev env name q rest p
  | args => (← callNamed ev env name (← arguments ev env args) (some p)).finish

/-! ## Function values -/

/-- A name as a function value. -/
def pointer (e : Expr) : Run Value := do
  match ← expression ev env e with
  | .text name => Run.ofResult (some e.first) (pointerTo name)
  | v => Run.fail (.typeMismatch v.fullKind "string") (some e.first)

/-- Calls a function value. -/
def applyPointer (e : Expr) (args : List Expr) (p : Position) : Run Value := do
  match ← expression ev env e with
  | .function name none _ [] => apply ev env name args p
  | f@(.function ..) => (← callPointer ev env f (← arguments ev env args) none (some p)).finish
  | v => Run.fail (.typeMismatch v.kind "Fn") (some e.first)

/-- A function value with more arguments bound to it. -/
def curried (e : Expr) (args : List Expr) : Run Value := do
  match ← expression ev env e with
  | .function name body cells bound =>
    return .function name body cells (bound ++ (← arguments ev env args))
  | v => Run.fail (.typeMismatch v.kind "Fn") (some e.first)

/-! ## What is defined -/

/-- Whether there is a variable of that name. -/
def isVariable (e : Expr) : Run Value := do
  match ← expression ev env e with
  | .text x => return .boolean (← Run.lookup? x).isSome
  | v => Run.fail (.typeMismatch v.fullKind "string") (some e.first)

/-- Whether there is a function of that name and number of parameters. -/
def isFunction (e count : Expr) : Run Value := do
  match ← expression ev env e with
  | .text f =>
    match ← expression ev env count with
    | .integer n => return .boolean (0 ≤ n && (env.functions.find? f n.toInt.toNat).isSome)
    | v => Run.fail (.typeMismatch v.fullKind "i64") (some count.first)
  | v => Run.fail (.typeMismatch v.fullKind "string") (some e.first)

/-! ## The expression -/

/-- Evaluates a call. -/
def call (name : String) (args : List Expr) (p : Position) : Run Value := do
  Run.tick env (some p)
  match name, args with
  | "Fn", [e] => pointer ev env e
  | "call", e :: rest => applyPointer ev env e rest p
  | "curry", e :: next :: rest => curried ev env e (next :: rest)
  | "is_def_var", [e] => isVariable ev env e
  | "is_def_fn", [e, count] => isFunction ev env e count
  | name, args => apply ev env name args p

end ScriptGate.Script.Eval
