import ScriptGate.Proofs.Script.Split.Run

/-!
# Expressions that only look

An expression that only puts together what is there leaves the engine as it is (`Engine.run_looking`). If it
stands at the end of a source, it is the result of that source; within a longer one nobody asks for
it, and it is left out.
-/

namespace ScriptGate.Script

mutual

/-- Whether an expression only puts together values that are there. -/
def Expr.isLook : Expr → Bool
  | .literal .. | .variable .. | .global .. | .this _ => true
  | .array items _ => areLooks items
  | .object entries _ => areEntriesLooks entries
  | .lazy _ left right _ => left.isLook && right.isLook
  | _ => false

/-- Whether all items only put together values that are there. -/
def areLooks : List Expr → Bool
  | [] => true
  | e :: rest => e.isLook && areLooks rest

/-- Whether all entries only put together values that are there. -/
def areEntriesLooks : List (String × Expr) → Bool
  | [] => true
  | (_, e) :: rest => e.isLook && areEntriesLooks rest

end

/-! ## Runs that only look -/

/-- A run that leaves all variables as they are, if it does not end with a fault. -/
structure Run.Looks {α : Type} (m : Run α) : Prop where
  same : ∀ s, match m s with
    | .ok _ t => t.scope = s.scope ∧ t.cells = s.cells
    | .error stop _ => ∃ cause, stop = .fault cause

namespace Run.Looks

variable {α β : Type} {m m' : Run α} {f : α → Run β}

protected theorem pure (a : α) : Looks (pure a) := ⟨fun _ => ⟨rfl, rfl⟩⟩

protected theorem get : Looks (get : Run State) := ⟨fun _ => ⟨rfl, rfl⟩⟩

theorem raise (cause : Error) : Looks (Run.raise cause : Run α) := ⟨fun _ => ⟨cause, rfl⟩⟩

theorem fail (cause : ErrorCause) (p : Option Position) : Looks (Run.fail cause p : Run α) := raise _

protected theorem bind (h : Looks m) (further : ∀ a, Looks (f a)) : Looks (m >>= f) := by
  constructor
  intro s
  rw [bind_apply]
  have first := h.same s
  cases ended : m s with
  | ok a t =>
    rw [ended] at first
    have second := (further a).same t
    dsimp only at first second ⊢
    cases more : f a t with
    | ok b u =>
      rw [more] at second
      exact ⟨second.1.trans first.1, second.2.trans first.2⟩
    | error stop u =>
      rw [more] at second
      exact second
  | error stop t =>
    rw [ended] at first
    exact first

protected theorem ite {c : Prop} [Decidable c] (h : Looks m) (h' : Looks m') :
    Looks (if c then m else m') := by
  split
  · exact h
  · exact h'

theorem tick (env : Env) (p : Option Position) : Looks (Run.tick env p) :=
  .bind .get fun _ => .bind ⟨fun _ => ⟨rfl, rfl⟩⟩ fun _ =>
    .ite (fail _ _) (.ite (fail _ _) (.pure _))

theorem checkSize (env : Env) (size : Value.Size) (p : Option Position) :
    Looks (Run.checkSize env size p) := by
  unfold Run.checkSize
  split
  · exact raise _
  · exact .pure _

end Run.Looks

/-! ## The rules for such expressions -/

namespace Eval

/-- Whether expressions only look that look like it. -/
def Looks (ev : Eval) : Prop :=
  ∀ env {e : Expr}, e.isLook = true → Run.Looks (ev env (.expression e))

variable {ev : Eval} (env : Env)

theorem named_looks (name : String) (p : Position) : Run.Looks (named env name p) := by
  refine .bind (.bind .get fun _ => .pure _) fun found => ?_
  cases found with
  | some x => exact .bind .get fun _ => .pure _
  | none =>
    dsimp only
    split
    · exact .pure _
    · exact .fail _ _

theorem constant_looks (name : String) (p : Position) : Run.Looks (constant name p) := by
  refine .bind .get fun s => ?_
  split
  · exact .pure _
  · exact .fail _ _

theorem this_looks (p : Position) : Run.Looks (this p) := by
  refine .bind .get fun s => ?_
  split
  · exact .pure _
  · exact .fail _ _

namespace Looks

variable (h : ev.Looks)

include h

protected theorem items {es : List Expr} (looks : areLooks es = true) (size : Value.Size) :
    Run.Looks (items ev env size es) := by
  induction es generalizing size with
  | nil => exact .pure _
  | cons e rest ih =>
    obtain ⟨first, others⟩ := Bool.and_eq_true_iff.mp looks
    exact .bind (h env first) fun _ => .bind (.checkSize ..) fun _ => .bind (ih others _) fun _ =>
      .pure _

protected theorem entries {es : List (String × Expr)} (looks : areEntriesLooks es = true)
    (size : Value.Size) : Run.Looks (entries ev env size es) := by
  induction es generalizing size with
  | nil => exact .pure _
  | cons entry rest ih =>
    obtain ⟨name, e⟩ := entry
    obtain ⟨first, others⟩ := Bool.and_eq_true_iff.mp looks
    exact .bind (h env first) fun _ => .bind (.checkSize ..) fun _ => .bind (ih others _) fun _ =>
      .pure _

protected theorem condition {e : Expr} (looks : e.isLook = true) :
    Run.Looks (condition ev env e) := by
  refine .bind (h env looks) fun v => ?_
  split
  · exact .pure _
  · exact .fail _ _

protected theorem lazy (op : Lazy) {left right : Expr} (leftLooks : left.isLook = true)
    (rightLooks : right.isLook = true) : Run.Looks (lazy ev env op left right) := by
  cases op with
  | and =>
    exact .bind (h.condition env leftLooks) fun _ =>
      .ite (.bind (h.condition env rightLooks) fun _ => .pure _) (.pure _)
  | or =>
    exact .bind (h.condition env leftLooks) fun _ =>
      .ite (.pure _) (.bind (h.condition env rightLooks) fun _ => .pure _)
  | coalesce => exact .bind (h env leftLooks) fun _ => .ite (h env rightLooks) (.pure _)

protected theorem step : (step ev).Looks := by
  intro env e looks
  change Run.Looks (evaluate ev env e)
  rcases e with ⟨v, p⟩ | ⟨name, p⟩ | ⟨name, p⟩ | p | ⟨es, p⟩ | ⟨es, p⟩ | ⟨op, operand, p⟩ |
    ⟨op, left, right, p⟩ | ⟨op, left, right, p⟩ | ⟨item, container, negated, p⟩ |
    ⟨name, args, p⟩ | ⟨root, links⟩ | ⟨captured, params, body, p⟩ | ⟨body, p⟩
  case lazy =>
    obtain ⟨leftLooks, rightLooks⟩ := Bool.and_eq_true_iff.mp looks
    exact .bind (.tick ..) fun _ => h.lazy env op leftLooks rightLooks
  case literal => exact .bind (.tick ..) fun _ => .pure _
  case global => exact .bind (.tick ..) fun _ => constant_looks name p
  case this => exact .bind (.tick ..) fun _ => this_looks p
  case array => exact .bind (.tick ..) fun _ => .bind (h.items env looks _) fun _ => .pure _
  case object => exact .bind (.tick ..) fun _ => .bind (h.entries env looks _) fun _ => .pure _
  case «variable» => exact .bind (.tick ..) fun _ => named_looks env name p
  all_goals cases looks

end Looks

theorem looks_toDepth (depth : Nat) : (toDepth depth).Looks := by
  induction depth with
  | zero => exact fun _ _ _ => .fail _ _
  | succ depth ih => exact ih.step

theorem looks_statements {es : List Expr} (looks : ∀ e ∈ es, e.isLook = true) :
    Run.Looks (statements full env (es.map .expression)) := by
  have one {e : Expr} (looks : e.isLook = true) :
      Run.Looks (full env (.statement (.expression e))) := by
    change Run.Looks (execute (toDepth (2 * env.patience + 2)) env (.expression e))
    cases e <;> first
      | exact .bind (.tick ..) fun _ => looks_toDepth _ env looks
      | cases looks
  induction es with
  | nil => exact .pure _
  | cons e rest ih =>
    have first := one (looks e List.mem_cons_self)
    have others := ih fun e inside => looks e (List.mem_cons_of_mem _ inside)
    cases rest with
    | nil => exact first
    | cons next rest => exact .bind first fun _ => others

end Eval

namespace Engine

/-- What only looks at the end of a script changes nothing of what the script leaves, unless it faults. -/
theorem run_looking {a : List Statement} {es : List Expr} (looks : ∀ e ∈ es, e.isLook = true)
    {e : Engine} (succeeds : es = [] ∨ ∃ v, (e.run ⟨a ++ es.map .expression, []⟩).answer = .ok v) :
    (e.run ⟨a ++ es.map .expression, []⟩).state = (e.run ⟨a, []⟩).state := by
  rcases succeeds with rfl | ⟨v, succeeds⟩
  · rw [List.map_nil, List.append_nil]
  · cases es with
    | nil => rw [List.map_nil, List.append_nil]
    | cons x rest =>
      have parts := ending_append a (List.cons_ne_nil (.expression x) (rest.map .expression)) e
      rw [← List.map_cons] at parts
      rw [run_body, parts] at succeeds
      rw [run_body, run_body, parts]
      cases first : e.ending a with
      | error stop s => rfl
      | ok u s =>
        rw [first] at succeeds
        have last := (Eval.looks_statements (e.env e.functions true) looks).same s
        dsimp only at succeeds ⊢
        cases ended : Eval.statements Eval.full (e.env e.functions true)
            ((x :: rest).map .expression) s with
        | ok w t =>
          rw [ended] at last
          exact congrArg₂ (fun scope cells => ({ e with scope := scope, cells := cells } : Engine))
            last.1 last.2
        | error stop t =>
          rw [ended] at last succeeds
          obtain ⟨cause, rfl⟩ := last
          cases succeeds

end Engine

end ScriptGate.Script
