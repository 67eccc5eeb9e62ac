import ScriptGate.Proofs.Script.Mirror.Assign
import ScriptGate.Script.Evaluate.Expression

/-!
# Expressions that mirror others
-/

namespace ScriptGate.Script

variable {constants : Bool} {lead : Nat} {ground : Ground} {ev ev' : Eval} {env env' : Env}

/-! ## What anonymous functions capture -/

section Captured

variable (captured : List (String × Option Literal))

/-- The names that an anonymous function shares with what is around it. -/
def sharedNames : List String :=
  captured.filterMap fun (name, value) => if value.isNone then some name else none

/-- The names that are bound to values. -/
def boundNames : List String :=
  (captured.filterMap fun (name, value) => value.map fun v => (name, v)).map Prod.fst

/-- The values that names are bound to. -/
def boundValues : List Value :=
  (captured.filterMap fun (name, value) => value.map fun v => (name, v)).map fun e => .ofLiteral e.2

theorem sharedNames_bare : sharedNames (bareCaptured captured) = sharedNames captured := by
  induction captured with
  | nil => rfl
  | cons entry rest ih =>
    obtain ⟨name, _ | v⟩ := entry
    · exact congrArg (name :: ·) ih
    · exact ih

theorem boundNames_bare : boundNames (bareCaptured captured) = boundNames captured := by
  induction captured with
  | nil => rfl
  | cons entry rest ih =>
    obtain ⟨name, _ | v⟩ := entry
    · exact ih
    · exact congrArg (name :: ·) ih

theorem length_bareCaptured : (bareCaptured captured).length = captured.length := by
  induction captured with
  | nil => rfl
  | cons entry rest ih => obtain ⟨name, _ | v⟩ := entry <;> exact congrArg (· + 1) ih

variable {captured}

theorem boundValues_mirrors (plain : isPlainCaptured constants captured = true) :
    Mirrors constants (boundValues captured) (boundValues (bareCaptured captured)) := by
  induction captured with
  | nil => exact .nil
  | cons entry rest ih =>
    obtain ⟨name, _ | v⟩ := entry
    · exact ih plain
    · obtain ⟨here, others⟩ := Bool.and_eq_true_iff.mp plain
      exact .cons (.literal here) (ih others)

end Captured

namespace Eval.Mirrors

variable (h : Mirrors constants lead ev ev') (w : Script.Mirrors constants env env')

/-! ## Names and operators -/

section Plain

include w

theorem named (name : String) (p : Position) :
    Run.Alike constants lead ground (Eval.named env name p) (Eval.named env' name .start) := by
  refine .bind (.lookup? name) fun found => ?_
  rcases found.option_cases with ⟨rfl, rfl⟩ | ⟨x, x', rfl, rfl, same⟩
  · dsimp only
    rcases (Env.mirrors_functionNamed? w name).option_cases with
      ⟨none, none'⟩ | ⟨f, f', some, some', functions⟩
    · rw [none, none']
      exact .fail (fun _ => rfl) (.at_ p)
    · rw [some, some']
      exact .pure functions
  · exact .bind .get fun states => .pure (Run.Mirrors.read states (Run.Mirrors.slot same))

omit w in
/-- Constants of the run are only read where they count. -/
theorem constant (counts : constants = true) (name : String) (p : Position) :
    Run.Alike constants lead ground (Eval.constant name p) (Eval.constant name .start) := by
  refine .bind .get fun {s s'} states => ?_
  have found : Script.Mirrors constants (s.constants.lookup name) (s'.constants.lookup name) :=
    (states.constants counts).natural (f := fun defined : List (String × Value) => defined.lookup name)
      fun c defined => by
      induction defined with
      | nil => rfl
      | cons entry rest ih =>
        obtain ⟨other, v⟩ := entry
        simp only [recast_list, List.map_cons, recast_pair, recast_string, List.lookup_cons] at ih ⊢
        split
        · rfl
        · exact ih
  rcases found.option_cases with ⟨none, none'⟩ | ⟨v, v', some, some', values⟩
  · rw [none, none']
    exact .fail (fun _ => rfl) (.at_ p)
  · rw [some, some']
    exact .pure values

omit w in
theorem this (p : Position) : Run.Alike constants lead ground (Eval.this p) (Eval.this .start) := by
  refine .bind .get fun {s s'} states => ?_
  rcases states.this.option_cases with ⟨none, none'⟩ | ⟨this, this', some, some', same⟩
  · rw [none, none']
    exact .fail (fun _ => rfl) (.at_ p)
  · rw [some, some']
    exact .pure (same.natural fun _ _ => rfl)

theorem operated (op : String) {args args' : List Value} (values : Script.Mirrors constants args args')
    (p : Position) {found found' : Option (Except ErrorCause Value)}
    (results : Script.Mirrors constants found found') :
    Run.Alike constants lead ground (Eval.operated env op args p found)
      (Eval.operated env' op args' .start found') := by
  rcases results.option_cases with ⟨rfl, rfl⟩ | ⟨r, r', rfl, rfl, same⟩
  · refine .bind (.tick w (.at_ p)) fun _ => .raise (.caused ?_ (.at_ p))
    exact values.natural fun c vs => ErrorCause.unknownCall_recast c op vs
  · exact .bind (.tick w (.at_ p)) fun _ => .bind (.ofResult (.at_ p) same) fun values =>
      .checked w (.at_ p) values

theorem opposite {v v' : Value} (values : Script.Mirrors constants v v') (p : Position) :
    Run.Alike constants lead ground (Eval.opposite env v p) (Eval.opposite env' v' .start) := by
  have usual : Run.Alike constants lead ground _ _ :=
    operated w Unary.not.text (.cons values .nil) p .none
  obtain rfl := values.bare
  cases v with
  | boolean b => exact .pure (.refl_of fun _ => rfl)
  | _ => exact usual

/-! ## Anonymous functions -/

theorem ticks (p : Position) (n : Nat) :
    Run.Alike constants lead ground (Eval.ticks env p n) (Eval.ticks env' .start n) := by
  induction n with
  | zero => exact .pure (.unit ())
  | succ n ih => exact .bind (.tick w (.at_ p)) fun _ => ih

omit w in
theorem capture (p : Position) (names : List String) :
    Run.Alike constants lead ground (Eval.capture p names) (Eval.capture .start names) := by
  induction names with
  | nil => exact .pure .nil
  | cons name rest ih =>
    refine .bind (.share? name) fun found => ?_
    rcases found.option_cases with ⟨rfl, rfl⟩ | ⟨cell, cell', rfl, rfl, same⟩
    · exact .fail (fun _ => rfl) (.at_ p)
    · exact .bind ih fun cells => .pure (.cons same cells)

theorem closure {captured : List (String × Option Literal)}
    (capturedPlain : isPlainCaptured constants captured = true) (params : List String)
    {body : List Statement} (bodyPlain : isPlainBody constants body = true) (p : Position) :
    Run.Alike constants lead ground (Eval.closure env captured params body p)
      (Eval.closure env' (bareCaptured captured) params (bareBody body) .start) := by
  have eq (env : Env) (captured : List (String × Option Literal)) (body : List Statement) (p : Position) :
      Eval.closure env captured params body p = do
        Eval.ticks env p (if (sharedNames captured).isEmpty then 1 else 2)
        let cells ← Eval.capture p (sharedNames captured)
        Eval.ticks env p (captured.length + if (sharedNames captured).isEmpty then 0 else 1)
        return .function Value.anonymous
          (some ⟨Value.anonymous, sharedNames captured ++ boundNames captured ++ params, body⟩) cells
          (boundValues captured) := rfl
  rw [eq, eq, sharedNames_bare, boundNames_bare, length_bareCaptured]
  refine .bind (ticks w p _) fun _ => .bind (capture p _) fun {cells cells'} same =>
    .bind (ticks w p _) fun _ => .pure ?_
  obtain rfl : cells' = cells := same.bare.trans (List.map_id cells)
  refine .function (.some ⟨rfl, ?_⟩) (boundValues_mirrors capturedPlain)
  have kept : (if isPlainBody constants body then body else []) = body := if_pos bodyPlain
  exact congrArg (Function.mk _ _) kept

end Plain

/-! ## Arrays and objects -/

section Containers

include h w

protected theorem items (size : Value.Size) {es : List Expr} (plain : arePlainExprs constants es = true) :
    Run.Alike constants lead ground (items ev env size es) (items ev' env' size (bareExprs es)) := by
  induction es generalizing size with
  | nil => exact .pure .nil
  | cons e rest ih =>
    obtain ⟨here, others⟩ := Bool.and_eq_true_iff.mp plain
    refine .bind (h.expression w here) fun {v v'} values => ?_
    rw [values.eq_of Value.size_recast]
    exact .bind (.checkSize w (.some (.pos e)) _) fun _ => .bind (ih _ others) fun more =>
      .pure (.cons values more)

protected theorem entries (size : Value.Size) {es : List (String × Expr)}
    (plain : arePlainEntries constants es = true) :
    Run.Alike constants lead ground (entries ev env size es)
      (entries ev' env' size (bareEntries es)) := by
  induction es generalizing size with
  | nil => exact .pure .nil
  | cons entry rest ih =>
    obtain ⟨name, e⟩ := entry
    obtain ⟨here, others⟩ := Bool.and_eq_true_iff.mp plain
    refine .bind (h.expression w here) fun {v v'} values => ?_
    rw [values.eq_of Value.size_recast]
    exact .bind (.checkSize w (.some (.pos e)) _) fun _ => .bind (ih _ others) fun more =>
      .pure (.natural₂ (f := fun (v : Value) (entries : Entries) => entries.insert name v)
        (fun c v entries => Entries.insert_recast c name v entries) values more)

/-! ## Operators -/

protected theorem binary (op : Binary) {left right : Expr} (leftPlain : left.isPlain constants = true)
    (rightPlain : right.isPlain constants = true) (p : Position) :
    Run.Alike constants lead ground (binary ev env op left right p)
      (binary ev' env' op left.bare right.bare .start) := by
  refine .bind (h.expression w leftPlain) fun {a a'} as => .bind (h.expression w rightPlain)
    fun {b b'} bs => ?_
  have built : Script.Mirrors constants (Operator.builtin? op a b) (Operator.builtin? op a b) :=
    .refl_of fun c => Operator.recast_builtin? c op a b
  have sum : isPlainSum a' b' = isPlainSum a b := by
    rw [as.bare, bs.bare]
    cases a <;> cases b <;> rfl
  have library : Script.Mirrors constants (Operator.library? op a b) (Operator.library? op a' b') :=
    .natural₂ (fun c a b => Operator.library?_recast c op a b) as bs
  have same : Operator.builtin? op a' b' = Operator.builtin? op a b := by
    rw [as.bare, bs.bare]
    exact Operator.builtin?_of_recast _ op a b
  rw [same, sum]
  rcases built.option_cases with ⟨none, -⟩ | ⟨r, r', some, some', results⟩
  · rw [none]
    exact operated w _ (.cons as (.cons bs .nil)) p library
  · obtain rfl : r' = r := Option.some.inj (some'.symm.trans some)
    rw [some]
    refine .bind (.ofResult (.at_ p) results) fun values => ?_
    split
    · exact .pure values
    · exact .checked w (.at_ p) values

omit h in
/-- An operator with one operand, as it applies unless the operand is turned over. -/
theorem operatedUnary (op : Unary) {a a' : Value} (values : Script.Mirrors constants a a') (p : Position) :
    Run.Alike constants lead ground
      (match Operator.unary? op a with
        | some result => Run.ofResult (some p) result
        | none => Eval.operated env op.text [a] p none)
      (match Operator.unary? op a' with
        | some result => Run.ofResult (some .start) result
        | none => Eval.operated env' op.text [a'] .start none) := by
  have known : Script.Mirrors constants (Operator.unary? op a) (Operator.unary? op a') :=
    values.natural fun c a => Operator.unary?_recast c op a
  rcases known.option_cases with ⟨none, none'⟩ | ⟨r, r', some, some', results⟩
  · rw [none, none']
    exact operated w _ (.cons values .nil) p .none
  · rw [some, some']
    exact .ofResult (.at_ p) results

protected theorem unary (op : Unary) {operand : Expr} (plain : operand.isPlain constants = true)
    (p : Position) :
    Run.Alike constants lead ground (unary ev env op operand p)
      (unary ev' env' op operand.bare .start) := by
  refine .bind (h.expression w plain) fun {a a'} values => ?_
  have usual : Run.Alike constants lead ground _ _ := operatedUnary w op values p
  cases op with
  | not => exact opposite w values p
  | _ => exact usual

protected theorem lazy (op : Lazy) {left right : Expr} (leftPlain : left.isPlain constants = true)
    (rightPlain : right.isPlain constants = true) :
    Run.Alike constants lead ground (lazy ev env op left right)
      (lazy ev' env' op left.bare right.bare) := by
  have answered {b b' : Bool} (same : Script.Mirrors constants b b') :
      Script.Mirrors constants (Value.boolean b) (.boolean b') := same.natural fun _ _ => rfl
  unfold lazy
  cases op with
  | and =>
    refine .bind (h.condition w leftPlain) fun {b b'} same => ?_
    obtain rfl : b = b' := same.bare.symm
    split
    · exact .bind (h.condition w rightPlain) fun same => .pure (answered same)
    · exact .pure (answered (.bool false))
  | or =>
    refine .bind (h.condition w leftPlain) fun {b b'} same => ?_
    obtain rfl : b = b' := same.bare.symm
    split
    · exact .pure (answered (.bool true))
    · exact .bind (h.condition w rightPlain) fun same => .pure (answered same)
  | coalesce =>
    refine .bind (h.expression w leftPlain) fun {v v'} values => ?_
    rw [values.eq_of Value.isUnit_recast]
    split
    · exact h.expression w rightPlain
    · exact .pure values

protected theorem member {item container : Expr} (itemPlain : item.isPlain constants = true)
    (containerPlain : container.isPlain constants = true) (negated : Bool) (p : Position) :
    Run.Alike constants lead ground (member ev env item container negated p)
      (member ev' env' item.bare container.bare negated .start) := by
  have plain : arePlainExprs constants [container, item] = true := by
    simp only [arePlainExprs, itemPlain, containerPlain, Bool.and_true]
  have asked : Run.Alike constants lead ground _ _ := h.apply w "contains" plain p
  unfold member
  split
  · exact .bind (.tick w (.at_ p)) fun _ => .bind asked fun values => opposite w values p
  · exact asked

protected theorem evaluate {e : Expr} (plain : e.isPlain constants = true) :
    Run.Alike constants lead ground (evaluate ev env e) (evaluate ev' env' e.bare) := by
  rcases e with ⟨v, p⟩ | ⟨name, p⟩ | ⟨name, p⟩ | p | ⟨es, p⟩ | ⟨es, p⟩ | ⟨op, operand, p⟩ |
    ⟨op, left, right, p⟩ | ⟨op, left, right, p⟩ | ⟨item, container, negated, p⟩ |
    ⟨name, args, p⟩ | ⟨root, links⟩ | ⟨captured, params, body, p⟩ | ⟨body, p⟩
  · exact .bind (.tick w (.at_ p)) fun _ => .pure (.literal plain)
  · exact .bind (.tick w (.at_ p)) fun _ => named w name p
  · exact .bind (.tick w (.at_ p)) fun _ => constant plain name p
  · exact .bind (.tick w (.at_ p)) fun _ => this p
  · exact .bind (.tick w (.at_ p)) fun _ => .bind (h.items w _ plain) fun vs => .pure vs.array
  · exact .bind (.tick w (.at_ p)) fun _ => .bind (h.entries w _ plain) fun vs => .pure vs.object
  · have operandPlain : operand.isPlain constants = true := plain
    exact .bind (.tick w (.at_ p)) fun _ => h.unary w op operandPlain p
  · obtain ⟨leftPlain, rightPlain⟩ := Bool.and_eq_true_iff.mp plain
    exact .bind (.tick w (.at_ p)) fun _ => h.binary w op leftPlain rightPlain p
  · obtain ⟨leftPlain, rightPlain⟩ := Bool.and_eq_true_iff.mp plain
    exact .bind (.tick w (.at_ p)) fun _ => h.lazy w op leftPlain rightPlain
  · obtain ⟨itemPlain, containerPlain⟩ := Bool.and_eq_true_iff.mp plain
    exact .bind (.tick w (.at_ p)) fun _ => h.member w itemPlain containerPlain negated p
  · exact h.call w name plain p
  · exact h.chain w plain
  · obtain ⟨capturedPlain, bodyPlain⟩ := Bool.and_eq_true_iff.mp plain
    exact .bind (.tick w (.at_ p)) fun _ => closure w capturedPlain params bodyPlain p
  · exact .bind (.tick w (.at_ p)) fun _ => h.block w plain

end Containers

end Eval.Mirrors

end ScriptGate.Script
