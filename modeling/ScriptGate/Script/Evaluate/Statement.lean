import ScriptGate.Script.Evaluate.Expression

/-!
Statements.

The value of a block is that of its last statement, the value of a loop the one that it was left with.
What can be caught is caught together with its place; what ends the run cannot.
-/

namespace ScriptGate.Script

namespace Eval

variable (ev : Eval) (env : Env)

/-! ## Definitions -/

/-- Defines a variable. The constants at the top of a script are kept for its functions. -/
def define (name : String) (constant : Bool) (value : Option Expr) : Run Value := do
  let v ← match value with
    | some e => expression ev env e
    | none => pure .unit
  if constant && env.atTop && !env.functions.isEmpty then
    modify fun s => { s with constants := (name, v) :: s.constants }
  Run.define name v constant
  return .unit

/-! ## Branches -/

/-- Whether a value matches a key of a switch; `ranges` says which keys are meant. -/
def matchesKey (ranges : Bool) (v : Value) : Key → Bool
  | .value key => !ranges && v.isLiteral key
  | .range first last inclusive => ranges && Library.holds first last inclusive v

/-- Whether the condition of a case holds. -/
def holds : Option Expr → Run Bool
  | none => return true
  | some (.literal (.boolean b) _) => return b
  | some e => condition ev env e

/-- The first of the cases with a matching key whose condition holds. -/
def select? (ranges : Bool) (v : Value) : List Case → Run (Option Expr)
  | [] => return none
  | .mk keys guard action :: rest => do
    if keys.any (matchesKey ranges v) then
      if ← holds ev env guard then return some action
    select? ranges v rest

/-- The value of an expression that may be left out, which is then the unit value. -/
def given (value : Option Expr) : Run Value :=
  match value with
  | some e => expression ev env e
  | none => return .unit

/-- Evaluates a switch: single values go before ranges. -/
def switch (subject : Expr) (cases : List Case) (otherwise : Option Expr) : Run Value := do
  let v ← expression ev env subject
  let action ← match ← select? ev env false v cases with
    | some action => pure (some action)
    | none =>
      match ← select? ev env true v cases with
      | some action => pure (some action)
      | none => pure otherwise
  given ev env action

/-! ## Loops -/

/-- Takes turns for as long as they do not end the loop. -/
def turns (body : Run (Option Value)) : Run Value :=
  Run.turns env body (env.patience + 1)

/-- The turn of a loop without end. -/
def foreverTurn (body : List Statement) (brace : Position) : Run (Option Value) := do
  if body.isEmpty then
    Run.tick env (some brace)
    return none
  Run.turn (block ev env body)

/-- The turn of a loop that asks before its body. -/
def whileTurn (e : Expr) (body : List Statement) : Run (Option Value) := do
  if ← condition ev env e then
    if body.isEmpty then return none
    Run.turn (block ev env body)
  else return some .unit

/-- The turn of a loop that asks after its body. A body that goes on with the next turn skips the
question. -/
def untilTurn (body : List Statement) (e : Expr) (goal : Bool) : Run (Option Value) := fun s =>
  match block ev env body s with
  | .error .next s => .ok none s
  | .error (.leave v) s => .ok (some v) s
  | .error stop s => .error stop s
  | .ok _ s =>
    match condition ev env e s with
    | .ok answer s => .ok (if answer = goal then none else some .unit) s
    | .error stop s => .error stop s

/-- Takes a turn for each of the values that are given. -/
def forValues (turn : Value → Nat → Run (Option Value)) : (index : Nat) → List Value → Run Value
  | _, [] => return .unit
  | index, v :: rest => do
    match ← turn v index with
    | some v => return v
    | none => forValues turn (index + 1) rest

/-- Takes a turn for each of so many successive integers. -/
def forIntegers (turn : Value → Nat → Run (Option Value)) (first : Int64) :
    (index count : Nat) → Run Value
  | _, 0 => return .unit
  | index, count + 1 => do
    match ← turn (.integer (first + Int64.ofNat index)) index with
    | some v => return v
    | none => forIntegers turn first (index + 1) count

/-- How many integers a range holds. -/
def extent (first last : Int64) (inclusive : Bool) : Nat :=
  (last.toInt - first.toInt + if inclusive then 1 else 0).toNat

/-- Takes a turn for each of the values in a value. -/
def forEach (source : Value) (q : Position) (turn : Value → Nat → Run (Option Value)) :
    Run Value :=
  match source with
  | .array items => forValues turn 0 items
  | .text s => forValues turn 0 (s.toList.map .character)
  | .blob bytes => forValues turn 0 (bytes.map .byte)
  | .range first last inclusive => forIntegers turn first 0 (extent first last inclusive)
  | _ => Run.fail .notIterable (some q)

/-- The turn of a loop over values. All turns have the same variables. Only an empty turn takes an operation of
its own. -/
def eachTurn (name : String) (counter : Option String) (body : List Statement) (brace : Position)
    (v : Value) (index : Nat) : Run (Option Value) := do
  match counter with
  | some counter => Run.store counter (.integer (Int64.ofNat index))
  | none => pure ()
  Run.store name v
  if body.isEmpty then
    Run.tick env (some brace)
    return none
  Run.turn (block ev env body)

/-- Evaluates a loop over values. -/
def loopOver (name : String) (counter : Option String) (source : Expr) (body : List Statement)
    (brace : Position) : Run Value := do
  let v ← expression ev env source
  Run.inBlock do
    match counter with
    | some counter => Run.define counter (.integer 0) false
    | none => pure ()
    Run.define name .unit false
    forEach v source.first (eachTurn ev env name counter body brace)

/-! ## Faults -/

/-- Raises a fault again if its handler raised nothing in its place. -/
def handled (caught : Error) : EStateM.Result Stop State Value →
    EStateM.Result Stop State Value
  | .ok _ s => .ok .unit s
  | .error (.fault (.plain (.thrown .unit) p)) s => .error (.fault (caught.atPlace p)) s
  | .error stop s => .error stop s

/-- Evaluates the handler of a fault, which may be told what was thrown. -/
def handle (name : Option String) (handler : List Statement) (caught : Error) : Run Value :=
  Run.inBlock do
    match name with
    | some name => Run.define name caught.caught false
    | none => pure ()
    block ev env handler

/-- Evaluates statements, and a handler without a value if a fault leaves them that can be caught. -/
def attempt (body : List Statement) (name : Option String) (handler : List Statement) : Run Value :=
  fun s =>
  match block ev env body s with
  | .ok v s => .ok v s
  | .error (.fault e) s =>
    if e.endsRun then .error (.fault e) s
    else handled e (handle ev env name handler e s)
  | .error stop s => .error stop s

/-! ## The statement -/

/-- Carries out a statement that is no expression. -/
def perform (s : Statement) : Run Value := do
  Run.tick env (some s.pos)
  match s with
  | .pass _ => return .unit
  | .expression e => expression ev env e
  | .define name constant value _ => define ev env name constant value
  | .assign op target value p => assign ev env op target value p
  | .block body _ => block ev env body
  | .branch e yes _ no _ _ => if ← condition ev env e then block ev env yes else block ev env no
  | .switch subject cases otherwise _ => switch ev env subject cases otherwise
  | .forever body brace _ => turns env (foreverTurn ev env body brace)
  | .repeatWhile e body _ _ => turns env (whileTurn ev env e body)
  | .repeatAfter body e goal _ => turns env (untilTurn ev env body e goal)
  | .forEach name counter source body brace _ => loopOver ev env name counter source body brace
  | .leave value _ => throw (.leave (← given ev env value))
  | .next _ => throw .next
  | .giveBack value _ => throw (.giveBack (← given ev env value))
  | .raise value p => Run.fail (.thrown (← given ev env value)) (some p)
  | .attempt body name handler _ _ => attempt ev env body name handler

/-- Carries out a statement. A call or an operator is an operation only once. -/
def execute (s : Statement) : Run Value :=
  match s with
  | .expression e@(.call ..) | .expression e@(.unary ..) | .expression e@(.binary ..)
  | .expression e@(.member ..) => expression ev env e
  | s => perform ev env s

end Eval

end ScriptGate.Script
