import ScriptGate.Script.Machine

/-!
What the rules of evaluation have in common.

Each rule evaluates the parts of a construct by means of an evaluator that is given to it (`Eval`),
so a rule is an ordinary function, and a fact about all of evaluation follows from the
facts about single rules by induction on the nesting.
-/

namespace ScriptGate.Script

/-- What can be evaluated. -/
inductive Task where
  | expression (e : Expr)
  | statement (s : Statement)

/-- A way to evaluate. -/
abbrev Eval := Env → Task → Run Value

namespace Eval

variable (ev : Eval) (env : Env)

/-- Evaluates statements in turn; the value is that of the last one. -/
def statements : List Statement → Run Value
  | [] => return .unit
  | [last] => ev env (.statement last)
  | first :: rest => do
    let _ ← ev env (.statement first)
    statements rest

/-- Evaluates the statements of a block. -/
def block (body : List Statement) : Run Value :=
  Run.inBlock (statements ev { env with atTop := false } body)

/-- Evaluates an expression. -/
def expression (e : Expr) : Run Value := ev env (.expression e)

/-- Evaluates arguments from left to right. -/
def arguments : List Expr → Run (List Value)
  | [] => return []
  | e :: rest => do
    let v ← ev env (.expression e)
    return v :: (← arguments rest)

/-- Evaluates a condition. -/
def condition (e : Expr) : Run Bool := do
  match ← ev env (.expression e) with
  | .boolean b => return b
  | v => Run.fail (.typeMismatch v.fullKind "bool") (some e.pos)

end Eval

/-- The value of a name that is no variable: a function of the script, as a value. -/
def functionNamed? (env : Env) (name : String) : Option Value :=
  if env.functions.any (·.name = name) then some (.function name none [] []) else none

end ScriptGate.Script
