import ScriptGate.Proofs.Script.State
import ScriptGate.Script.Evaluate.Basic

/-!
# Names that are asked for

Which names a task asks for as those of variables can be read off its text, up to what `is_def_var` is
given. A task keeps to its own names if each of them is a variable of its own where it is asked for,
or none of those outside (`Statement.keepsTo`). The bodies of anonymous functions do not count: they run
with their own variables.
-/

namespace ScriptGate.Script

/-- Whether a name is no variable outside, or a variable that is known. -/
def ownName (outer known : List String) (name : String) : Bool := known.contains name || !outer.contains name

/-- The names that a statement adds to those that are known. -/
def Statement.introduced : Statement → List String
  | .define name _ _ _ => [name]
  | _ => []

/-- Whether the argument of `is_def_var` is known to be a name that is no variable outside. -/
def asksOwn (outer known : List String) : List Expr → Bool
  | [.literal (.text name) _] => ownName outer known name
  | [_] => false
  | _ => true

mutual

/-- Whether an expression keeps to its own names. -/
def Expr.keepsTo (outer known : List String) : Expr → Bool
  | .literal .. | .global .. | .this _ => true
  | .variable name _ => ownName outer known name
  | .array items _ => keepAll outer known items
  | .object entries _ => keepEntries outer known entries
  | .unary _ operand _ => operand.keepsTo outer known
  | .binary _ left right _ | .lazy _ left right _ | .member right left _ _ =>
    left.keepsTo outer known && right.keepsTo outer known
  | .call name args _ =>
    keepAll outer known args && (name != "is_def_var" || asksOwn outer known args)
  | .chain root links => root.keepsTo outer known && keepLinks outer known links
  | .closure captured _ _ _ => captured.all fun (name, value) => value.isSome || ownName outer known name
  | .block body _ => keepBody outer known body

/-- Whether all expressions keep to their own names. -/
def keepAll (outer known : List String) : List Expr → Bool
  | [] => true
  | e :: rest => e.keepsTo outer known && keepAll outer known rest

/-- Whether all entries keep to their own names. -/
def keepEntries (outer known : List String) : List (String × Expr) → Bool
  | [] => true
  | (_, e) :: rest => e.keepsTo outer known && keepEntries outer known rest

/-- Whether an expression that may be left out keeps to its own names. -/
def keepGiven (outer known : List String) : Option Expr → Bool
  | none => true
  | some e => e.keepsTo outer known

/-- Whether a link keeps to its own names. -/
def Link.keepsTo (outer known : List String) : Link → Bool
  | .property .. => true
  | .index key _ => key.keepsTo outer known
  | .method _ args _ _ => keepAll outer known args

/-- Whether all links keep to their own names. -/
def keepLinks (outer known : List String) : List Link → Bool
  | [] => true
  | link :: rest => link.keepsTo outer known && keepLinks outer known rest

/-- Whether a statement keeps to its own names. -/
def Statement.keepsTo (outer known : List String) : Statement → Bool
  | .pass _ | .next _ => true
  | .expression e => e.keepsTo outer known
  | .define _ _ value _ | .leave value _ | .giveBack value _ | .raise value _ => keepGiven outer known value
  | .assign _ target value _ => target.keepsTo outer known && value.keepsTo outer known
  | .block body _ | .forever body _ _ => keepBody outer known body
  | .branch e yes _ no _ _ =>
    e.keepsTo outer known && keepBody outer known yes && keepBody outer known no
  | .switch subject cases otherwise _ =>
    subject.keepsTo outer known && keepCases outer known cases && keepGiven outer known otherwise
  | .repeatWhile e body _ _ | .repeatAfter body e _ _ => e.keepsTo outer known && keepBody outer known body
  | .forEach name counter source body _ _ =>
    source.keepsTo outer known && keepBody outer (name :: counter.toList ++ known) body
  | .attempt body name handler _ _ =>
    keepBody outer known body && keepBody outer (name.toList ++ known) handler

/-- Whether statements in turn keep to their own names. -/
def keepBody (outer known : List String) : List Statement → Bool
  | [] => true
  | s :: rest => s.keepsTo outer known && keepBody outer (s.introduced ++ known) rest

/-- Whether a case keeps to its own names. -/
def Case.keepsTo (outer known : List String) : Case → Bool
  | .mk _ guard action => keepGiven outer known guard && action.keepsTo outer known

/-- Whether all cases keep to their own names. -/
def keepCases (outer known : List String) : List Case → Bool
  | [] => true
  | c :: rest => c.keepsTo outer known && keepCases outer known rest

end

namespace Shift

variable {σ : Shift} {a b : Bool}

/-- Whether a check is passed where it matters: where there are variables that only the other run has. -/
def Grants (σ : Shift) (check : Bool) : Prop := σ.behind = [] ∨ check = true

theorem Grants.left (h : σ.Grants (a && b)) : σ.Grants a :=
  h.imp_right fun both => (Bool.and_eq_true_iff.mp both).1

theorem Grants.right (h : σ.Grants (a && b)) : σ.Grants b :=
  h.imp_right fun both => (Bool.and_eq_true_iff.mp both).2

theorem Grants.owns {name : String} (h : σ.Grants (ownName σ.outer σ.known name)) : σ.Owns name := by
  rcases h with none | own
  · exact .of_none none
  · rcases Bool.or_eq_true_iff.mp own with known | foreign
    · exact .inl (List.contains_iff_mem.mp known)
    · exact .inr fun inside => by simp [inside] at foreign

/-- Whether a task keeps to names that stand for the same in both runs. -/
def Spares (σ : Shift) : Task → Prop
  | .expression e => σ.Grants (e.keepsTo σ.outer σ.known)
  | .statement s => σ.Grants (s.keepsTo σ.outer σ.known)

theorem Spares.of_none (none : σ.behind = []) (task : Task) : σ.Spares task := by
  cases task <;> exact .inl none

end Shift

end ScriptGate.Script
