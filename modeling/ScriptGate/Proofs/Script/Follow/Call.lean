import ScriptGate.Proofs.Script.Follow
import ScriptGate.Script.Evaluate.Invocation

/-!
# Calls that follow other calls

Each rule of evaluation evaluates parts by means of an evaluator that it is given. If that one
follows another one (`Eval.Follows`), then so does the rule, in surroundings that leave at least the
room of the others. Here are the rules for sequences and for calls. What a library function does is
judged by the limits on sizes, and the run notes what was found (`Run.Follows.noted`).
-/

namespace ScriptGate.Script

/-- An evaluator follows another one in all surroundings with these functions that leave at least
the room of the others, with tasks that keep to names that stand for the same in both runs. What it defines is
there afterwards, and the value of a literal is what it stands for. -/
structure Eval.Follows (watch : Prop) (table : Functions) (ev ev' : Eval) : Prop where
  task : ∀ {σ : Shift} {env env' : Env}, env.Within watch σ table env' →
    ∀ task, σ.Spares task → Run.Follows watch σ (ev env task) (ev' env' task)
  introduces : ∀ {env : Env} {st : Statement} {s t : State} {v : Value},
    ev env (.statement st) s = .ok v t → ∀ name ∈ st.introduced, name ∈ t.names
  literals : ∀ {env : Env} {x : Literal} {p : Position} {s t : State} {v : Value},
    ev env (.expression (.literal x p)) s = .ok v t → v = .ofLiteral x

variable {watch : Prop} {σ : Shift} {table : Functions} {ev ev' : Eval} {env env' : Env}

/-! ## Surroundings further inside -/

namespace Env.Within

variable (w : env.Within watch σ table env')

include w

/-- Inside a block. -/
theorem inside : { env with atTop := false }.Within watch σ table { env' with atTop := false } :=
  ⟨w.functions, w.functions', w.level, rfl, w.limits⟩

/-- Some calls further inside. -/
theorem deeper (levels : Nat) :
    { env with level := env.level + levels }.Within watch σ table
      { env' with level := env'.level + levels } :=
  ⟨w.functions, w.functions', by have := w.level; dsimp only; omega, w.atTop, w.limits⟩

/-- Inside a function, which has its own variables. -/
theorem framed : env.Within watch σ.inside table env' :=
  ⟨w.functions, w.functions', w.level, w.atTop, w.limits⟩

/-- Where more variables are known. -/
theorem knowing (names : List String) : env.Within watch (σ.knowing names) table env' :=
  ⟨w.functions, w.functions', w.level, w.atTop, w.limits⟩

theorem functions_eq : env'.functions = env.functions := w.functions'.trans w.functions.symm

theorem functionNamed? (name : String) :
    Script.functionNamed? env' name = Script.functionNamed? env name := by
  unfold Script.functionNamed?
  rw [w.functions_eq]

end Env.Within

/-! ## Judged calls -/

namespace Called

/-- Whether a call ended because a limit is exceeded. -/
def Exceeds (c : Called) : Prop := ∃ e, c.outcome = .error (.fault e) ∧ e.isLimit = true

/-- Two calls are the same, unless the first one exceeds a limit and this is watched for. -/
def Agrees (watch : Prop) (c c' : Called) : Prop := c' = c ∨ watch ∧ c.Exceeds

theorem Agrees.refl (c : Called) : Agrees watch c c := .inl rfl

/-- A guarded call ends with what stops it. -/
theorem guard_eq_andThen (m : Run Called) :
    guard m = Run.andThen (fun s => s) m (fun _ c => pure c) fun _ stop => pure ⟨.error stop, none⟩ := by
  funext s
  unfold guard Run.andThen
  cases m s <;> rfl

end Called

namespace Run.Follows

/-- The run remembers a limit, or is left alone. -/
theorem noted_cases (c : Called) :
    (∃ e : Error, ∀ s, c.noted s = .ok c { s with exceeded := s.exceeded || e.isLimit }) ∨
      ∀ s, c.noted s = .ok c s := by
  unfold Called.noted
  split
  · next e _ => exact .inl ⟨e, fun _ => rfl⟩
  · exact .inr fun _ => rfl

theorem noted_refl (c : Called) : Follows watch σ c.noted c.noted := by
  rcases noted_cases c with ⟨e, same⟩ | same
  · refine ⟨fun abreast => .inr ?_, fun s => ?_⟩
    · rw [same, same]
      exact .ok { abreast with exceeded := congrArg (· || e.isLimit) abreast.exceeded }
    · unfold finalState
      rw [same]
      exact later_raise e s
  · refine ⟨fun abreast => .inr ?_, fun s => ?_⟩
    · rw [same, same]
      exact .ok abreast
    · unfold finalState
      rw [same]
      exact .refl s

/-- Nothing has to be done like a call that exceeds a limit. -/
theorem noted_exceeds {c : Called} (exceeds : c.Exceeds) (watched : watch) (m' : Run Called) :
    Follows watch σ c.noted m' := by
  have alone : Follows watch σ c.noted c.noted := noted_refl c
  refine ⟨fun _ => .inl ⟨watched, ?_⟩, alone.kept⟩
  obtain ⟨e, ended, limit⟩ := exceeds
  unfold finalState Called.noted
  rw [ended]
  exact Bool.or_eq_true_iff.mpr (.inr limit)

protected theorem noted {c c' : Called} (h : Called.Agrees watch c c') :
    Follows watch σ c.noted c'.noted := by
  rcases h with rfl | ⟨watched, exceeds⟩
  · exact noted_refl _
  · exact noted_exceeds exceeds watched _

protected theorem finish (c : Called) : Follows watch σ c.finish c.finish := by
  unfold Called.finish
  cases c.outcome with
  | ok v => exact .pure v
  | error stop => exact .throw stop

protected theorem guard {m m' : Run Called} (h : Follows watch σ m m') :
    Follows watch σ (Called.guard m) (Called.guard m') := by
  rw [Called.guard_eq_andThen, Called.guard_eq_andThen]
  exact .andThen h (fun _ => .pure _) fun _ => .pure _

protected theorem say (r : Remark) : Follows watch σ (say r) (say r) :=
  .modify (fun abreast => { abreast with remarks := congrArg (r :: ·) abreast.remarks })
    fun _ => .of_same rfl rfl fun h => h

protected theorem ofResult (p : Option Position) (r : Except ErrorCause Value) :
    Follows watch σ (ofResult p r) (ofResult p r) := by
  cases r with
  | ok v => exact .pure v
  | error cause => exact .raise _

end Run.Follows

namespace Env.Within

variable (w : env.Within watch σ table env')

include w

/-- What is judged to be too large in wider surroundings is so in narrower ones. -/
theorem judge (p : Option Position) (first : Option Value) (r : Except ErrorCause Value) :
    Called.judge env' p first r = Called.judge env p first r ∨
      watch ∧ ∃ e, Called.judge env p first r = .error (.fault e) ∧ e.isLimit = true := by
  cases r with
  | error cause => exact .inl rfl
  | ok v =>
    have tooLarge : Error.Finds watch
        (((first.map Value.size).bind fun size => Run.sizeFault? env size p) <|>
          Run.sizeFault? env v.size p)
        (((first.map Value.size).bind fun size => Run.sizeFault? env' size p) <|>
          Run.sizeFault? env' v.size p) := by
      refine .orElse ?_ (w.sizeFault? v.size p)
      cases first with
      | none => exact .inl rfl
      | some first => exact w.sizeFault? first.size p
    rcases tooLarge with same | ⟨watched, e, found, limit⟩
    · exact .inl (by simp only [Called.judge, same])
    · exact .inr ⟨watched, e, by simp only [Called.judge, found], limit⟩

/-- The judged answer of a call. -/
theorem agrees_judge (p : Option Position) (first : Option Value) (r : Except ErrorCause Value)
    (target : Option Value) :
    Called.Agrees watch ⟨Called.judge env p first r, target⟩
      ⟨Called.judge env' p first r, target⟩ := by
  rcases w.judge p first r with same | ⟨watched, e, found, limit⟩
  · exact .inl (congrArg (Called.mk · target) same)
  · exact .inr ⟨watched, e, found, limit⟩

theorem agrees_ofEffect (p : Option Position) (args : List Value) (effect : Effect) :
    Called.Agrees watch (.ofEffect env p args effect) (.ofEffect env' p args effect) := by
  cases effect with
  | answer r => exact w.agrees_judge p none r none
  | look r => exact w.agrees_judge p args.head? r none
  | change target r => exact w.agrees_judge p (some target) r (some target)

end Env.Within

namespace Eval

/-! ## Sequences -/

namespace Follows

variable (h : Follows watch table ev ev') (w : env.Within watch σ table env')

include h w

protected theorem statements (body : List Statement)
    (own : σ.Grants (keepBody σ.outer σ.known body)) :
    Run.Follows watch σ (statements ev env body) (statements ev' env' body) := by
  induction body generalizing σ with
  | nil => exact .pure Value.unit
  | cons first rest ih =>
    cases rest with
    | nil => exact h.task w (.statement first) own.left
    | cons =>
      exact .bind_knowing first.introduced (h.task w (.statement first) own.left) h.introduces
        fun _ _ => ih (w.knowing _) own.right

protected theorem block (body : List Statement) (own : σ.Grants (keepBody σ.outer σ.known body)) :
    Run.Follows watch σ (block ev env body) (block ev' env' body) :=
  .inBlock (h.statements w.inside body own)

protected theorem arguments (es : List Expr) (own : σ.Grants (keepAll σ.outer σ.known es)) :
    Run.Follows watch σ (arguments ev env es) (arguments ev' env' es) := by
  induction es with
  | nil => exact .pure []
  | cons e rest ih =>
    exact .bind (h.task w (.expression e) own.left) fun v => .bind (ih own.right) fun _ => .pure _

protected theorem condition (e : Expr) (own : σ.Grants (e.keepsTo σ.outer σ.known)) :
    Run.Follows watch σ (condition ev env e) (condition ev' env' e) := by
  refine .bind (h.task w (.expression e) own) fun v => ?_
  split
  · exact .pure _
  · exact .raise _

/-! ## Functions of the script -/

protected theorem callFunction (f : Function) (args : List Slot) (this : Option Receiver)
    (p : Option Position) : Run.Follows watch σ (callFunction ev env f args this p)
      (callFunction ev' env' f args this p) := by
  refine .bind (.tick w p) fun _ => ?_
  have called := Run.Follows.inFrame (bind f args) this
    (h.statements (w.deeper 1).inside.framed f.body (.inl rfl))
  dsimp only
  -- The depth of calls is the one limit that a rule of evaluation asks for itself.
  rcases w.cases with ⟨rfl, -⟩ | ⟨watched, within, -⟩
  · split
    · exact .noted_refl _
    · exact .bind called fun _ => .pure _
  · split
    · exact .noted_exceeds ⟨_, rfl, rfl⟩ watched _
    · next fits =>
      have fits' : ¬ env'.settings.maxCallDepth < env'.level + 1 := by
        have := within.callDepth
        have := w.level
        omega
      rw [if_neg fits']
      exact .bind called fun _ => .pure _

protected theorem callByName (f : Function) (args : List Value) (this : Option Receiver)
    (p : Option Position) : Run.Follows watch σ (callByName ev env f args this p)
      (callByName ev' env' f args this p) := by
  unfold callByName
  split
  · exact .pure _
  · exact h.callFunction w f _ this p

/-! ## Function values -/

protected theorem callPointerWith {native native' : Native}
    (library : ∀ name args p, Run.Follows watch σ (native env name args p) (native' env' name args p))
    (callee : Value) (args : List Value) (this : Option Receiver) (p : Option Position) :
    Run.Follows watch σ (callPointerWith ev native env callee args this p)
      (callPointerWith ev' native' env' callee args this p) := by
  unfold callPointerWith
  split
  · split
    · exact h.callFunction w _ _ this p
    · exact .pure _
  · dsimp only
    rw [w.functions_eq]
    split
    · exact h.callByName w _ _ this p
    · exact library _ _ p
  · exact .pure _

end Follows

/-! ## Library functions -/

section Library

variable (w : env.Within watch σ table env')

include w

theorem follows_oversized? (p : Option Position) (name : String) (args : List Value) :
    Error.Finds watch (oversized? env p name args) (oversized? env' p name args) := by
  unfold oversized?
  split
  · exact w.sizeFault? _ p
  · exact w.sizeFault? _ p
  · exact .inl rfl

theorem follows_answer (name : String) (args : List Value) (p : Option Position) :
    Run.Follows watch σ (answer env name args p >>= Called.noted)
      (answer env' name args p >>= Called.noted) := by
  have plain {m : Run Called} (same : Run.Follows watch σ m m) :
      Run.Follows watch σ (m >>= Called.noted) (m >>= Called.noted) :=
    .bind same fun c => .noted_refl c
  unfold answer
  split
  · exact plain (.bind (.say _) fun _ => .pure _)
  · exact plain (.bind (.say _) fun _ => .pure _)
  · exact plain (.bind (.say _) fun _ => .pure _)
  · exact plain (.bind (.say _) fun _ => .pure _)
  · exact plain (.throw _)
  · exact plain (.throw _)
  · rcases follows_oversized? w p name args with same | ⟨watched, e, found, limit⟩
    · rw [same]
      split
      · exact plain (.pure _)
      · split
        · next effect _ =>
          simp only [pure_bind]
          exact .noted (w.agrees_ofEffect p args effect)
        · exact plain (.pure _)
    · rw [found]
      simp only [pure_bind]
      exact .noted_exceeds ⟨e, rfl, limit⟩ watched _

theorem follows_callPlain (name : String) (args : List Value) (p : Option Position) :
    Run.Follows watch σ (callPlain env name args p) (callPlain env' name args p) := by
  unfold callPlain
  split
  · exact .bind (.tick w p) fun _ => follows_answer w name args p
  · exact follows_answer w name args p

end Library

end Eval

end ScriptGate.Script
