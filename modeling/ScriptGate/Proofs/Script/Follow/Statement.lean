import ScriptGate.Proofs.Script.Follow.Chain
import ScriptGate.Script.Evaluate

/-!
# Evaluation that follows evaluation

Evaluation to a depth follows evaluation to another depth that is not less, wherever there is at
least the room (`Eval.follows_toDepth`): each level does by the rules for expressions and
statements, and what lies beyond the depth is a limit like the others.
-/

namespace ScriptGate.Script

variable {watch : Prop} {σ : Shift} {table : Functions} {ev ev' : Eval} {env env' : Env}

/-! ## What looks at how a part ended -/

/-- Whether a loop asks its question goes by how its body ended. -/
theorem Eval.untilTurn_eq (body : List Statement) (e : Expr) (goal : Bool) :
    untilTurn ev env body e goal = Run.andThen (fun s => s) (block ev env body)
      (fun _ _ => do return if (← condition ev env e) = goal then none else some .unit)
      fun _ stop => match stop with
        | .next => pure none
        | .leave v => pure (some v)
        | stop => throw stop := by
  funext s
  unfold untilTurn Run.andThen
  cases block ev env body s with
  | ok v t =>
    dsimp only
    rw [Run.bind_apply]
    cases condition ev env e t <;> rfl
  | error stop t => cases stop <;> rfl

/-- Only a fault that can be caught is handled. -/
theorem Eval.attempt_eq (body : List Statement) (name : Option String) (handler : List Statement) :
    attempt ev env body name handler = Run.andThen (fun s => s) (block ev env body)
      (fun _ v => pure v) fun _ stop s => match stop with
        | .fault e =>
          if e.endsRun then .error (.fault e) s
          else handled e (handle ev env name handler e s)
        | stop => .error stop s := by
  funext s
  unfold attempt Run.andThen
  cases block ev env body s with
  | ok v t => rfl
  | error stop t => cases stop <;> rfl

/-- A handler that ends has no value. -/
theorem Eval.handled_eq (caught : Error) (m : Run Value) :
    (fun s => handled caught (m s)) = Run.andThen (fun s => s) m (fun _ _ => pure .unit)
      fun _ stop s => handled caught (.error stop s) := by
  funext s
  unfold Run.andThen
  cases m s <;> rfl

/-- A handler that is stopped is so by what stopped it, or by the fault that it was told of. -/
theorem Eval.handled_error (caught : Error) (stop : Stop) :
    ∃ raised, (raised = stop ∨ ∃ p, raised = .fault (caught.atPlace p)) ∧
      (fun s => handled caught (.error stop s)) = (throw raised : Run Value) := by
  by_cases unit : ∃ p, stop = .fault (.plain (.thrown .unit) p)
  · obtain ⟨p, rfl⟩ := unit
    exact ⟨_, .inr ⟨p, rfl⟩, rfl⟩
  · refine ⟨stop, .inl rfl, funext fun s => ?_⟩
    unfold handled
    split
    · next equal => cases equal
    · next equal =>
      cases equal
      exact (unit ⟨_, rfl⟩).elim
    · next equal =>
      cases equal
      rfl

namespace Eval.Follows

variable (h : Follows watch table ev ev') (w : env.Within watch σ table env')

/-! ## Expressions -/

section Plain

include w

theorem named (name : String) (p : Position) (own : σ.Owns name) :
    Run.Follows watch σ (Eval.named env name p) (Eval.named env' name p) := by
  refine .bind (.lookup? own) fun found => ?_
  split
  · exact .get fun agrees => by rw [agrees.read]; exact .pure _
  · rw [w.functionNamed?]
    split
    · exact .pure _
    · exact .raise _

theorem operated (op : String) (args : List Value) (p : Position)
    (found : Option (Except ErrorCause Value)) :
    Run.Follows watch σ (Eval.operated env op args p found) (Eval.operated env' op args p found) := by
  cases found with
  | none => exact .bind (.tick w _) fun _ => .raise _
  | some result =>
    exact .bind (.tick w _) fun _ => .bind (.ofResult _ result) fun v => .checked w _ v

theorem opposite (v : Value) (p : Position) :
    Run.Follows watch σ (Eval.opposite env v p) (Eval.opposite env' v p) := by
  unfold Eval.opposite
  split
  · exact .pure _
  · exact operated w _ _ p none

theorem ticks (p : Position) (n : Nat) :
    Run.Follows watch σ (Eval.ticks env p n) (Eval.ticks env' p n) := by
  induction n with
  | zero => exact .pure ()
  | succ n ih => exact .bind (.tick w _) fun _ => ih

omit w in
theorem capture (p : Position) (names : List String) (own : ∀ name ∈ names, σ.Owns name) :
    Run.Follows watch σ (Eval.capture p names) (Eval.capture p names) := by
  induction names with
  | nil => exact .pure _
  | cons name rest ih =>
    refine .bind (.share? (own name List.mem_cons_self)) fun found => ?_
    split
    · exact .bind (ih fun name inside => own name (List.mem_cons_of_mem _ inside)) fun _ => .pure _
    · exact .raise _

theorem closure (captured : List (String × Option Literal)) (params : List String)
    (body : List Statement) (p : Position)
    (own : σ.Grants ((Expr.closure captured params body p).keepsTo σ.outer σ.known)) :
    Run.Follows watch σ (Eval.closure env captured params body p)
      (Eval.closure env' captured params body p) := by
  refine .bind (ticks w p _) fun _ => .bind (capture p _ fun name shared => ?_) fun _ =>
    .bind (ticks w p _) fun _ => .pure _
  rcases own with none | own
  · exact .of_none none
  · obtain ⟨⟨other, value⟩, inside, kept⟩ := List.mem_filterMap.mp shared
    have checked := List.all_eq_true.mp own _ inside
    cases value with
    | some v => cases kept
    | none =>
      cases kept
      exact Shift.Grants.owns (.inr checked)

omit w in
theorem constant (name : String) (p : Position) :
    Run.Follows watch σ (Eval.constant name p) (Eval.constant name p) := by
  refine .get fun agrees => ?_
  rw [agrees.constants]
  split
  · exact .pure _
  · exact .raise _

omit w in
theorem this (p : Position) : Run.Follows watch σ (Eval.this p) (Eval.this p) := by
  refine .get fun agrees => ?_
  rw [agrees.this]
  split
  · exact .pure _
  · exact .raise _

end Plain

include h w

protected theorem items (size : Value.Size) (es : List Expr)
    (own : σ.Grants (keepAll σ.outer σ.known es)) :
    Run.Follows watch σ (items ev env size es) (items ev' env' size es) := by
  induction es generalizing size with
  | nil => exact .pure _
  | cons e rest ih =>
    exact .bind (h.task w (.expression e) own.left) fun v => .bind (.checkSize w _ _) fun _ =>
      .bind (ih _ own.right) fun _ => .pure _

protected theorem entries (size : Value.Size) (es : List (String × Expr))
    (own : σ.Grants (keepEntries σ.outer σ.known es)) :
    Run.Follows watch σ (entries ev env size es) (entries ev' env' size es) := by
  induction es generalizing size with
  | nil => exact .pure _
  | cons entry rest ih =>
    exact .bind (h.task w (.expression entry.2) own.left) fun v => .bind (.checkSize w _ _) fun _ =>
      .bind (ih _ own.right) fun _ => .pure _

protected theorem binary (op : Binary) (left right : Expr) (p : Position)
    (own : σ.Grants (left.keepsTo σ.outer σ.known && right.keepsTo σ.outer σ.known)) :
    Run.Follows watch σ (binary ev env op left right p) (binary ev' env' op left right p) := by
  refine .bind (h.task w (.expression left) own.left) fun a =>
    .bind (h.task w (.expression right) own.right) fun b => ?_
  split
  · refine .bind (.ofResult _ _) fun v => ?_
    split
    · exact .pure v
    · exact .checked w _ v
  · exact operated w _ _ p _

protected theorem unary (op : Unary) (operand : Expr) (p : Position)
    (own : σ.Grants (operand.keepsTo σ.outer σ.known)) :
    Run.Follows watch σ (unary ev env op operand p) (unary ev' env' op operand p) := by
  refine .bind (h.task w (.expression operand) own) fun a => ?_
  split
  · exact opposite w a p
  · split
    · exact .ofResult _ _
    · exact operated w _ _ p none

protected theorem lazy (op : Lazy) (left right : Expr)
    (own : σ.Grants (left.keepsTo σ.outer σ.known && right.keepsTo σ.outer σ.known)) :
    Run.Follows watch σ (lazy ev env op left right) (lazy ev' env' op left right) := by
  unfold lazy
  cases op with
  | and =>
    refine .bind (h.condition w left own.left) fun holds => ?_
    split
    · exact .bind (h.condition w right own.right) fun _ => .pure _
    · exact .pure _
  | or =>
    refine .bind (h.condition w left own.left) fun holds => ?_
    split
    · exact .pure _
    · exact .bind (h.condition w right own.right) fun _ => .pure _
  | coalesce =>
    refine .bind (h.task w (.expression left) own.left) fun v => ?_
    split
    · exact h.task w (.expression right) own.right
    · exact .pure v

protected theorem member (item container : Expr) (negated : Bool) (p : Position)
    (own : σ.Grants (container.keepsTo σ.outer σ.known && item.keepsTo σ.outer σ.known)) :
    Run.Follows watch σ (member ev env item container negated p)
      (member ev' env' item container negated p) := by
  have both : σ.Grants (keepAll σ.outer σ.known [container, item]) :=
    own.imp_right fun kept => by simpa [keepAll] using kept
  unfold member
  split
  · exact .bind (.tick w _) fun _ => .bind (h.apply w _ _ p both) fun v => opposite w v p
  · exact h.apply w _ _ p both

protected theorem evaluate (e : Expr) (own : σ.Grants (e.keepsTo σ.outer σ.known)) :
    Run.Follows watch σ (evaluate ev env e) (evaluate ev' env' e) := by
  unfold evaluate
  split
  · exact h.call w _ _ _ own
  · exact h.chain w _ _ own
  · refine .bind (.tick w _) fun _ => ?_
    split
    · exact .pure _
    · exact named w _ _ own.owns
    · exact constant _ _
    · exact this _
    · exact .bind (h.items w _ _ own) fun _ => .pure _
    · exact .bind (h.entries w _ _ own) fun _ => .pure _
    · exact h.unary w _ _ _ own
    · exact h.binary w _ _ _ _ own
    · exact h.lazy w _ _ _ own
    · exact h.member w _ _ _ _ own
    · exact closure w _ _ _ _ own
    · exact h.block w _ own
    · exact .pure _
    · exact .pure _

/-! ## Definitions and branches -/

protected theorem define (name : String) (constant : Bool) (value : Option Expr)
    (own : σ.Grants (keepGiven σ.outer σ.known value)) :
    Run.Follows watch σ (define ev env name constant value) (define ev' env' name constant value) := by
  have defined (v : Value) : Run.Follows watch σ
      (do
        Run.define name v constant
        return Value.unit)
      (do
        Run.define name v constant
        return Value.unit) :=
    .bind (.define name v constant) fun _ => .pure _
  have after (v : Value) : Run.Follows watch σ
      (do
        if constant && env.atTop && !env.functions.isEmpty then
          modify fun s => { s with constants := (name, v) :: s.constants }
        Run.define name v constant
        return Value.unit)
      (do
        if constant && env'.atTop && !env'.functions.isEmpty then
          modify fun s => { s with constants := (name, v) :: s.constants }
        Run.define name v constant
        return Value.unit) := by
    rw [w.atTop, w.functions_eq]
    split
    · refine .bind (.modify (fun abreast => ?_) fun _ => .of_same rfl rfl fun h => h) fun _ => defined v
      exact { abreast with constants := congrArg ((name, v) :: ·) abreast.constants }
    · exact defined v
  cases value with
  | none => exact .bind (.pure Value.unit) after
  | some e => exact .bind (h.task w (.expression e) own) after

protected theorem holds (test : Option Expr) (own : σ.Grants (keepGiven σ.outer σ.known test)) :
    Run.Follows watch σ (holds ev env test) (holds ev' env' test) := by
  unfold holds
  split
  · exact .pure _
  · exact .pure _
  · exact h.condition w _ own

protected theorem select? (ranges : Bool) (v : Value) (cases : List Case)
    (own : σ.Grants (keepCases σ.outer σ.known cases)) :
    Run.Follows watch σ (select? ev env ranges v cases) (select? ev' env' ranges v cases) := by
  induction cases with
  | nil => exact .pure _
  | cons case rest ih =>
    obtain ⟨keys, guard, action⟩ := case
    unfold select?
    split
    · refine .bind (h.holds w guard own.left.left) fun isTaken => ?_
      split
      · exact .pure _
      · exact ih own.right
    · exact ih own.right

omit h w in
/-- What is selected is the action of a case. -/
theorem selected {ranges : Bool} {v : Value} {cases : List Case} {action : Expr} {s t : State}
    (ended : Eval.select? ev env ranges v cases s = .ok (some action) t)
    (own : σ.Grants (keepCases σ.outer σ.known cases)) : σ.Grants (action.keepsTo σ.outer σ.known) := by
  induction cases generalizing s with
  | nil => cases ended
  | cons case rest ih =>
    obtain ⟨keys, guard, other⟩ := case
    unfold select? at ended
    split at ended
    · obtain ⟨isTaken, u, -, ended⟩ := Run.exists_of_bind ended
      dsimp only at ended
      split at ended
      · cases ended
        exact own.left.right
      · exact ih ended own.right
    · exact ih ended own.right

protected theorem given (value : Option Expr) (own : σ.Grants (keepGiven σ.outer σ.known value)) :
    Run.Follows watch σ (given ev env value) (given ev' env' value) := by
  cases value with
  | none => exact .pure _
  | some e => exact h.task w (.expression e) own

protected theorem switch (subject : Expr) (cases : List Case) (otherwise : Option Expr)
    (own : σ.Grants (subject.keepsTo σ.outer σ.known && keepCases σ.outer σ.known cases &&
      keepGiven σ.outer σ.known otherwise)) :
    Run.Follows watch σ (switch ev env subject cases otherwise)
      (switch ev' env' subject cases otherwise) := by
  refine .bind (h.task w (.expression subject) own.left.left) fun v =>
    .bind_ending (h.select? w false v cases own.left.right) fun found ⟨s, t, ended⟩ => ?_
  cases found with
  | some action => exact h.given w (some action) (selected ended own.left.right)
  | none =>
    refine .bind_ending (h.select? w true v cases own.left.right) fun found ⟨s, t, ended⟩ => ?_
    cases found with
    | some action => exact h.given w (some action) (selected ended own.left.right)
    | none => exact h.given w otherwise own.right

/-! ## Loops -/

omit h in
protected theorem turns {body body' : Run (Option Value)} (follows : Run.Follows watch σ body body') :
    Run.Follows watch σ (turns env body) (turns env' body') := by
  refine .turns w follows ?_
  rcases w.limits with ⟨-, same, -, -⟩ | ⟨watched, -, patience⟩
  · exact .inl (congrArg (· + 1) same)
  · exact .inr ⟨watched, Nat.succ_le_succ patience⟩

protected theorem foreverTurn (body : List Statement) (brace : Position)
    (own : σ.Grants (keepBody σ.outer σ.known body)) :
    Run.Follows watch σ (foreverTurn ev env body brace) (foreverTurn ev' env' body brace) := by
  unfold foreverTurn
  split
  · exact .bind (.tick w _) fun _ => .pure _
  · exact .turn (h.block w body own)

protected theorem whileTurn (e : Expr) (body : List Statement)
    (own : σ.Grants (e.keepsTo σ.outer σ.known && keepBody σ.outer σ.known body)) :
    Run.Follows watch σ (whileTurn ev env e body) (whileTurn ev' env' e body) := by
  refine .bind (h.condition w e own.left) fun holds => ?_
  split
  · split
    · exact .pure _
    · exact .turn (h.block w body own.right)
  · exact .pure _

protected theorem untilTurn (body : List Statement) (e : Expr) (goal : Bool)
    (own : σ.Grants (e.keepsTo σ.outer σ.known && keepBody σ.outer σ.known body)) :
    Run.Follows watch σ (untilTurn ev env body e goal) (untilTurn ev' env' body e goal) := by
  rw [untilTurn_eq, untilTurn_eq]
  refine .andThen (h.block w body own.right)
    (fun _ => .bind (h.condition w e own.left) fun _ => .pure _) fun stop => ?_
  cases stop with
  | next => exact .pure _
  | leave v => exact .pure _
  | fault | giveBack | exit => exact .throw _

omit h w in
theorem forValues {turn turn' : Value → Nat → Run (Option Value)}
    (turns : ∀ v i, Run.Follows watch σ (turn v i) (turn' v i)) (index : Nat) (vs : List Value) :
    Run.Follows watch σ (Eval.forValues turn index vs) (Eval.forValues turn' index vs) := by
  induction vs generalizing index with
  | nil => exact .pure _
  | cons v rest ih =>
    refine .bind (turns v index) fun ended => ?_
    split
    · exact .pure _
    · exact ih (index + 1)

omit h w in
theorem forIntegers {turn turn' : Value → Nat → Run (Option Value)}
    (turns : ∀ v i, Run.Follows watch σ (turn v i) (turn' v i)) (first : Int64) (index count : Nat) :
    Run.Follows watch σ (Eval.forIntegers turn first index count)
      (Eval.forIntegers turn' first index count) := by
  induction count generalizing index with
  | zero => exact .pure _
  | succ count ih =>
    refine .bind (turns _ index) fun ended => ?_
    split
    · exact .pure _
    · exact ih (index + 1)

omit h w in
theorem forEach {turn turn' : Value → Nat → Run (Option Value)}
    (turns : ∀ v i, Run.Follows watch σ (turn v i) (turn' v i)) (source : Value) (q : Position) :
    Run.Follows watch σ (Eval.forEach source q turn) (Eval.forEach source q turn') := by
  unfold Eval.forEach
  split
  · exact forValues turns 0 _
  · exact forValues turns 0 _
  · exact forValues turns 0 _
  · exact forIntegers turns _ 0 _
  · exact .raise _

protected theorem eachTurn (name : String) (counter : Option String) (body : List Statement)
    (brace : Position) (own : σ.Grants (keepBody σ.outer σ.known body))
    (there : ∀ x ∈ name :: counter.toList, x ∈ σ.known) (v : Value) (index : Nat) :
    Run.Follows watch σ (eachTurn ev env name counter body brace v index)
      (eachTurn ev' env' name counter body brace v index) := by
  unfold eachTurn
  dsimp only
  have taken : Run.Follows watch σ
      (if body.isEmpty = true then do
          Run.tick env (some brace)
          return none
        else Run.turn (block ev env body))
      (if body.isEmpty = true then do
          Run.tick env' (some brace)
          return none
        else Run.turn (block ev' env' body)) := by
    split
    · exact .bind (.tick w _) fun _ => .pure _
    · exact .turn (h.block w body own)
  have named : Run.Follows watch σ (Run.store name v) (Run.store name v) :=
    .store (.inl (there name List.mem_cons_self)) v
  split
  · next counter =>
    have counted : counter ∈ σ.known := there counter (List.mem_cons_of_mem _ List.mem_cons_self)
    exact .bind (.store (.inl counted) _) fun _ => .bind named fun _ => taken
  · exact .bind named fun _ => taken

protected theorem loopOver (name : String) (counter : Option String) (source : Expr)
    (body : List Statement) (brace : Position)
    (own : σ.Grants (source.keepsTo σ.outer σ.known &&
      keepBody σ.outer (name :: counter.toList ++ σ.known) body)) :
    Run.Follows watch σ (loopOver ev env name counter source body brace)
      (loopOver ev' env' name counter source body brace) := by
  refine .bind (h.task w (.expression source) own.left) fun v => .inBlock ?_
  have turns := forEach (h.eachTurn (w.knowing (name :: counter.toList)) name counter body brace own.right
    fun x inside => List.mem_append_left _ inside) v source.first
  cases counter with
  | some counter =>
    exact .bind_knowing [counter] (.define counter _ _) Run.Follows.defined_of_define fun _ _ =>
      .bind_knowing [name] (.define name _ _) Run.Follows.defined_of_define fun _ _ => turns
  | none => exact .bind_knowing [name] (.define name _ _) Run.Follows.defined_of_define fun _ _ => turns

/-! ## Faults -/

omit h w in
protected theorem handled (caught : Error) {m m' : Run Value} (follows : Run.Follows watch σ m m') :
    Run.Follows watch σ (fun s => handled caught (m s)) fun s => handled caught (m' s) := by
  rw [handled_eq, handled_eq]
  refine .andThen follows (fun _ => .pure _) fun stop => ?_
  obtain ⟨raised, -, ended⟩ := handled_error caught stop
  rw [ended]
  exact .throw raised

protected theorem handle (name : Option String) (handler : List Statement) (caught : Error)
    (own : σ.Grants (keepBody σ.outer (name.toList ++ σ.known) handler)) :
    Run.Follows watch σ (handle ev env name handler caught)
      (handle ev' env' name handler caught) := by
  refine .inBlock ?_
  cases name with
  | some name =>
    exact .bind_knowing [name] (.define name _ _) Run.Follows.defined_of_define fun _ _ =>
      h.block (w.knowing [name]) handler own
  | none => exact h.block w handler own

protected theorem attempt (body : List Statement) (name : Option String) (handler : List Statement)
    (own : σ.Grants (keepBody σ.outer σ.known body &&
      keepBody σ.outer (name.toList ++ σ.known) handler)) :
    Run.Follows watch σ (attempt ev env body name handler)
      (attempt ev' env' body name handler) := by
  rw [attempt_eq, attempt_eq]
  refine .andThen (h.block w body own.left) (fun _ => .pure _) fun stop => ?_
  cases stop with
  | fault e =>
    by_cases ends : e.endsRun = true
    · simp only [ends, if_true]
      exact .throw _
    · simp only [if_neg ends]
      exact Follows.handled e (h.handle w name handler e own.right)
  | leave | next | giveBack | exit => exact .throw _

/-! ## Statements -/

protected theorem perform (s : Statement) (own : σ.Grants (s.keepsTo σ.outer σ.known)) :
    Run.Follows watch σ (perform ev env s) (perform ev' env' s) := by
  refine .bind (.tick w _) fun _ => ?_
  cases s with
  | pass => exact .pure _
  | expression e => exact h.task w (.expression e) own
  | define name constant value p => exact h.define w name constant value own
  | assign op target value p => exact h.assign w op target value p own
  | block body p => exact h.block w body own
  | branch e yes yesPos no noPos p =>
    refine .bind (h.condition w e own.left.left) fun holds => ?_
    split
    · exact h.block w yes own.left.right
    · exact h.block w no own.right
  | switch subject cases otherwise p => exact h.switch w subject cases otherwise own
  | forever body brace p => exact Follows.turns w (h.foreverTurn w body brace own)
  | repeatWhile e body brace p => exact Follows.turns w (h.whileTurn w e body own)
  | repeatAfter body e goal p => exact Follows.turns w (h.untilTurn w body e goal own)
  | forEach name counter source body brace p => exact h.loopOver w name counter source body brace own
  | leave value p => exact .bind (h.given w value own) fun _ => .throw _
  | next p => exact .throw _
  | giveBack value p => exact .bind (h.given w value own) fun _ => .throw _
  | raise value p => exact .bind (h.given w value own) fun _ => .raise _
  | attempt body name handler brace p => exact h.attempt w body name handler own

protected theorem execute (s : Statement) (own : σ.Grants (s.keepsTo σ.outer σ.known)) :
    Run.Follows watch σ (execute ev env s) (execute ev' env' s) := by
  unfold execute
  split
  · exact h.task w (.expression _) own
  · exact h.task w (.expression _) own
  · exact h.task w (.expression _) own
  · exact h.task w (.expression _) own
  · exact h.perform w s own

omit h w in
/-- What a statement defines is there once it has ended. -/
theorem introduced {env : Env} {st : Statement} {s t : State} {v : Value}
    (ended : Eval.execute ev env st s = .ok v t) : ∀ name ∈ st.introduced, name ∈ t.names := by
  cases st with
  | define name constant value p =>
    obtain ⟨_, _, -, defining⟩ := Run.exists_of_bind ended
    change Eval.define _ env name constant value _ = .ok v t at defining
    have here {made : Value} {u : State}
        (defining : (Run.define name made constant >>= fun _ => pure .unit) u = .ok v t) :
        ∀ x ∈ [name], x ∈ t.names := by
      cases defining
      exact fun x inside => List.mem_singleton.mp inside ▸ List.mem_cons_self
    unfold Eval.define at defining
    cases value
    all_goals
      obtain ⟨_, _, -, defining⟩ := Run.exists_of_bind defining
      dsimp only at defining
      split at defining
      · obtain ⟨_, _, -, defining⟩ := Run.exists_of_bind defining
        exact here defining
      · exact here defining
  | _ => exact fun _ none => nomatch none

omit w in
/-- One level of evaluation follows, if what is inside does. -/
protected theorem step : Follows watch table (step ev) (step ev') where
  task w task own := by
    cases task with
    | expression e => exact h.evaluate w e own
    | statement s => exact h.execute w s own
  introduces := introduced
  literals ended := by
    obtain ⟨_, _, -, answered⟩ := Run.exists_of_bind ended
    cases answered
    rfl

end Eval.Follows

/-- Evaluation to a depth follows evaluation to one that is not less. -/
theorem Eval.follows_toDepth {depth depth' : Nat}
    (enough : depth' = depth ∨ watch ∧ depth ≤ depth') :
    Eval.Follows watch table (toDepth depth) (toDepth depth') := by
  -- Beyond the depth evaluation gives up as if the time were up, so nothing has to be done like it.
  induction depth generalizing depth' with
  | zero =>
    refine ⟨fun w task own => ?_, fun ended => (nomatch ended), fun ended => (nomatch ended)⟩
    rcases enough with rfl | ⟨watched, -⟩
    · exact .timedOut w none
    · exact .raise_limit rfl watched _
  | succ depth ih =>
    obtain ⟨depth', rfl, still⟩ : ∃ k, depth' = k + 1 ∧ (k = depth ∨ watch ∧ depth ≤ k) := by
      rcases enough with rfl | ⟨watched, le⟩
      · exact ⟨depth, rfl, .inl rfl⟩
      · exact ⟨depth' - 1, by omega, .inr ⟨watched, by omega⟩⟩
    exact Follows.step (ih still)

/-- All of evaluation follows where the room is at least the same. -/
theorem Eval.follows_full : Eval.Follows watch table full full where
  task w task own := by
    refine (follows_toDepth ?_).task w task own
    rcases w.limits with ⟨-, same, -, -⟩ | ⟨watched, -, patience⟩
    · exact .inl (by rw [same])
    · exact .inr ⟨watched, by omega⟩
  introduces {env _ _ _ _} ended :=
    have itself : Eval.Follows watch table (toDepth (2 * env.patience + 3)) _ := follows_toDepth (.inl rfl)
    itself.introduces ended
  literals {env _ _ _ _ _} ended :=
    have itself : Eval.Follows watch table (toDepth (2 * env.patience + 3)) _ := follows_toDepth (.inl rfl)
    itself.literals ended

end ScriptGate.Script
