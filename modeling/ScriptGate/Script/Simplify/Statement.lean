import ScriptGate.Script.Simplify.Block
import ScriptGate.Script.Simplify.Expression

/-!
Simpler statements.

Of a branch or a switch whose condition is known the part that will run is left. An assignment of a variable that is
joined to itself becomes one with an operator. What is tried and cannot fail is done
without a handler.
-/

namespace ScriptGate.Script

namespace Simplifier

open Simplify

variable (r : Simplifier)

/-! ## Branches -/

/-- The body of a branch, which will run. -/
def chosen (keep : Bool) (body : List Statement) (p : Position) : Simplify Statement := do
  match ← r.block keep true false body with
  | [] => changed (.pass p)
  | body => changed (.block body p)

/-- Simplifies a branch. -/
def branch (keep : Bool) (condition : Expr) (yes : List Statement) (yesPos : Position)
    (no : List Statement) (noPos p : Position) : Simplify Statement := do
  if yes.isEmpty && no.isEmpty then
    let q := condition.first
    let condition ← r.expression condition
    if keep then changed (.block [.expression condition, .pass q] q)
    else changed (.expression condition)
  else match condition with
    | .literal (.boolean false) q =>
      if no.isEmpty then changed (.pass q) else chosen r keep no noPos
    | .literal (.boolean true) _ => chosen r keep yes yesPos
    | condition =>
      let condition ← r.expression condition
      let yes ← r.block keep true false yes
      return .branch condition yes yesPos (← r.block keep true false no) noPos p

/-! ## Switches -/

/-- What a case does, with its condition. -/
abbrev Action := Option Expr × Expr

/-- The case that is taken, where the subject and so the case is known; `otherwise` is taken if its
condition does not hold. -/
def taken (otherwise : Option Expr) (p : Position) : Action → Simplify Statement
  | (none, action) => do changed (← r.statement true (.expression action))
  | (some condition, action) => do
    let condition ← r.expression condition
    let no ← otherwise.mapM fun e => r.statement true (.expression e)
    changed (.branch condition [.expression action] action.pos no.toList p p)

/-- The default case, where the subject is known and no other case is taken. -/
def fallback (otherwise : Option Expr) (p : Position) : Simplify Statement := do
  match otherwise with
  | some e => changed (← r.statement true (.expression e))
  | none => changed (.block [] p)

/-- The actions of the cases with a key. -/
def actionsWith (isMeant : Key → Bool) (cases : List Case) : List Action :=
  cases.flatMap fun
    | .mk keys condition action => (keys.filter isMeant).map fun _ => (condition, action)

/-- Whether a value that is known matches a range. -/
def inKeyRange (v : Literal) : Key → Bool
  | .range first last inclusive => Library.holds first last inclusive (Value.ofLiteral v)
  | .value _ => false

/-- Whether a key is a range. -/
def isKeyRange : Key → Bool
  | .range .. => true
  | .value _ => false

/-- Whether a key is a value that is known. -/
def isKeyValue (v : Literal) : Key → Bool
  | .value w => (Value.ofLiteral v).isLiteral w
  | .range .. => false

/-- The cases with those of their ranges that a value matches. -/
def matchingRanges (v : Literal) (cases : List Case) : List Case :=
  cases.filterMap fun
    | .mk keys condition action =>
      match keys.filter (inKeyRange v) with
      | [] => none
      | keys => some (.mk keys condition action)

/-- Simplifies a switch whose subject is known, as far as its ranges decide. Several ranges with conditions are
left to the run. -/
def byRange (subject : Expr) (v : Literal) (cases : List Case) (otherwise : Option Expr)
    (p : Position) : Simplify Statement := do
  let ranges := actionsWith isKeyRange cases
  if ranges.length ≤ 1 || ranges.all (fun action => action.1.isNone) then
    match actionsWith (inKeyRange v) cases with
    | action :: _ => taken r otherwise p action
    | [] => fallback r otherwise p
  else
    let left := matchingRanges v cases
    if left.length < cases.length then touch
    let left ← left.mapM fun
      | .mk keys condition action => do
        return .mk keys (← condition.mapM r.expression) (← r.expression action)
    return .switch subject left otherwise p

/-- Simplifies a switch whose subject is known. -/
def byValue (subject : Expr) (v : Literal) (cases : List Case) (otherwise : Option Expr)
    (p : Position) : Simplify Statement := do
  match actionsWith (isKeyValue v) cases with
  | [action] => taken r otherwise p action
  | actions =>
    match actions.find? fun action => action.1.isNone with
    | some action => taken r otherwise p action
    | none => byRange r subject v cases otherwise p

/-- Simplifies a case; one whose condition never holds goes. -/
def caseOf : Case → Simplify (Option Case)
  | .mk keys condition action => do
    match ← condition.mapM r.expression with
    | some (.literal (.boolean true) _) => return some (.mk keys none (← r.expression action))
    | some (.literal (.boolean false) _) => changed none
    | condition => return some (.mk keys condition (← r.expression action))

/-- Simplifies a switch. -/
def switch (subject : Expr) (cases : List Case) (otherwise : Option Expr) (p : Position) :
    Simplify Statement := do
  match subject.known? with
  | some v => byValue r subject v cases otherwise p
  | none =>
    let subject ← r.expression subject
    let cases ← cases.filterMapM (caseOf r)
    return .switch subject cases (← otherwise.mapM r.expression) p

/-! ## Assignments -/

/-- Whether there is an assignment with the operator. -/
def joins : Binary → Bool
  | .add | .subtract | .multiply | .divide | .modulo | .power | .shiftLeft | .shiftRight
  | .bitAnd | .bitOr | .bitXor => true
  | _ => false

/-- Simplifies an assignment. -/
def assign (op : Option Binary) (target value : Expr) (p : Position) : Simplify Statement := do
  match op, target, value with
  | none, .variable name q, .binary op (.variable other _) right at_ =>
    if name = other && joins op then changed (.assign (some op) (.variable name q) right at_)
    else return .assign none target (← r.expression value) p
  | op, .variable name q, value => return .assign op (.variable name q) (← r.expression value) p
  | op, target, value =>
    let target ← r.expression target
    return .assign op target (← r.expression value) p

/-! ## The statement -/

/-- Simplifies a statement. -/
def statementOf (keep : Bool) (s : Statement) : Simplify Statement := do
  match s with
  | .assign op target value p => assign r op target value p
  | .branch condition yes yesPos no noPos p => branch r keep condition yes yesPos no noPos p
  | .switch subject cases otherwise p => switch r subject cases otherwise p
  | .repeatWhile (.literal (.boolean false) q) _ _ _ => changed (.pass q)
  | .repeatWhile (.literal (.boolean true) _) body brace p =>
    return .forever (← r.block false true false body) brace p
  | .repeatWhile condition body brace p =>
    return .repeatWhile (← r.expression condition) (← r.block false true false body) brace p
  | .forever body brace p => return .forever (← r.block false true false body) brace p
  | .repeatAfter body condition goal p =>
    let condition ← r.expression condition
    return .repeatAfter (← r.block false true false body) condition goal p
  | .forEach name counter source body brace p =>
    let source ← r.expression source
    return .forEach name counter source (← r.block false true false body) brace p
  | .define name constant value p =>
    return .define name constant (← value.mapM r.expression) p
  | .block body p =>
    match ← r.block keep true false body with
    | [] => changed (.pass p)
    | [s] => if s.needsBlock then return .block [s] p else changed s
    | body => return .block body p
  | .attempt body name handler brace p =>
    let tried ← r.block false true false body
    if areAllPure body then changed (.block tried brace)
    else return .attempt tried name (← r.block false true false handler) brace p
  | .expression (.block [] p) => changed (.pass p)
  | .expression (.block body p) => changed (.block (← r.block true true false body) p)
  | .expression e => return .expression (← r.expression e)
  | .leave value p => return .leave (← value.mapM r.expression) p
  | .giveBack value p => return .giveBack (← value.mapM r.expression) p
  | .raise value p => return .raise (← value.mapM r.expression) p
  | .pass _ | .next _ => return s

end Simplifier

end ScriptGate.Script
