import ScriptGate.Script.Tree

/-!
What can be left out of a script.

A pure construct does nothing but have a value. A construct may also be pure inside its block: a definition does
nothing that outlives the block. These are judgements from the outside: a variable is
taken to have a value, and a condition to be a truth value.
-/

namespace ScriptGate.Script

mutual

/-- Whether an expression does nothing but have a value. -/
def Expr.isPure : Expr → Bool
  | .literal .. | .variable .. | .global .. => true
  | .array items _ => arePure items
  | .object entries _ => areEntriesPure entries
  | .lazy _ left right _ => left.isPure && right.isPure
  | .block body _ => areAllPure body
  | _ => false

/-- Whether all items are pure. -/
def arePure : List Expr → Bool
  | [] => true
  | e :: rest => e.isPure && arePure rest

/-- Whether all entries are pure. -/
def areEntriesPure : List (String × Expr) → Bool
  | [] => true
  | (_, e) :: rest => e.isPure && areEntriesPure rest

/-- Whether a statement does nothing but have a value. A loop may go on without end, which is an effect, unless
it is plain that it does not. -/
def Statement.isPure : Statement → Bool
  | .pass _ => true
  | .expression e => e.isPure
  | .block body _ => areAllPure body
  | .branch condition yes _ no _ _ => condition.isPure && areAllPure yes && areAllPure no
  | .switch subject cases (some otherwise) _ =>
    subject.isPure && areCasesPure cases && otherwise.isPure
  | .repeatWhile (.literal (.boolean false) _) _ _ _ => true
  | .repeatAfter body (.literal (.boolean answer) _) goal _ => answer != goal && areAllPure body
  | .forEach _ _ source body _ _ => source.known?.isSome && areAllPure body
  | .attempt body _ handler _ _ => areAllPure body && areAllPure handler
  | _ => false

/-- Whether all statements are pure. -/
def areAllPure : List Statement → Bool
  | [] => true
  | s :: rest => s.isPure && areAllPure rest

/-- Whether all cases are pure. -/
def areCasesPure : List Case → Bool
  | [] => true
  | .mk _ (some condition) action :: rest =>
    condition.isPure && action.isPure && areCasesPure rest
  | .mk _ none action :: rest => action.isPure && areCasesPure rest

end

mutual

/-- Whether what a statement does ends with the block that it stands in. -/
def Statement.isPureInside : Statement → Bool
  | .define _ _ (some value) _ => value.isPure
  | .define _ _ none _ => true
  | .expression (.block body _) => areAllPureInside body
  | s => s.isPure

/-- Whether what statements do ends with their block. -/
def areAllPureInside : List Statement → Bool
  | [] => true
  | s :: rest => s.isPureInside && areAllPureInside rest

end

namespace Statement

/-- Whether a statement has a value of its own. -/
def hasValue : Statement → Bool
  | .branch .. | .switch .. | .block .. | .expression _ => true
  | _ => false

/-- Whether nothing behind a statement is ever reached. -/
def endsBlock : Statement → Bool
  | .leave .. | .next _ | .giveBack .. | .raise .. => true
  | _ => false

end Statement

mutual

/-- Whether a statement would do something else in the block around its own. -/
def Statement.needsBlock : Statement → Bool
  | .define .. => true
  | .expression (.block body _) => allNeedBlock body
  | _ => false

/-- Whether all statements would do something else in another block. -/
def allNeedBlock : List Statement → Bool
  | [] => true
  | s :: rest => s.needsBlock && allNeedBlock rest

end

end ScriptGate.Script
