import ScriptGate.Proofs.Script.Follow.CallBack
import ScriptGate.Script.Evaluate.Assign

/-!
# Chains and assignments that follow others

Whatever follows a chain from one part to the next is given how it goes on from there, so the rules
for chains follow as long as that does. An assignment is measured when it is done, and what it
exceeds is noted like the fault of a call.
-/

namespace ScriptGate.Script

variable {watch : Prop} {σ : Shift} {table : Functions} {ev ev' : Eval} {env env' : Env}

namespace Eval.Follows

variable (h : Follows watch table ev ev') (w : env.Within watch σ table env')

/-! ## Arguments -/

section Arguments

include h w

protected theorem stepOf (link : Link) (own : σ.Grants (link.keepsTo σ.outer σ.known)) :
    Run.Follows watch σ (stepOf ev env link) (stepOf ev' env' link) := by
  cases link with
  | property name p joint => exact .pure _
  | index e joint => exact .bind (h.task w (.expression e) own) fun _ => .pure _
  | method name args p joint => exact .bind (h.arguments w args own) fun _ => .pure _

protected theorem stepsOf (links : List Link) (own : σ.Grants (keepLinks σ.outer σ.known links)) :
    Run.Follows watch σ (stepsOf ev env links) (stepsOf ev' env' links) := by
  induction links with
  | nil => exact .pure _
  | cons link rest ih =>
    exact .bind (.tick w _) fun _ => .bind (h.stepOf w link own.left) fun _ =>
      .bind (ih own.right) fun _ => .pure _

protected theorem steps (links : List Link) (own : σ.Grants (keepLinks σ.outer σ.known links)) :
    Run.Follows watch σ (steps ev env links) (steps ev' env' links) := by
  unfold steps
  split
  · exact .pure _
  · exact .pure _
  · split
    · exact .pure _
    · exact h.stepsOf w _ own
  · exact h.stepsOf w links own

end Arguments

/-! ## Methods -/

section Methods

include h w

protected theorem callMethod (held : Held) (name : String) (args : List Value) (p : Position) :
    Run.Follows watch σ (callMethod ev env held name args p) (callMethod ev' env' held name args p) := by
  unfold callMethod
  dsimp only
  rw [w.functions_eq]
  split
  · exact h.callPointer w _ args _ _
  · exact h.callByName w _ args _ _
  · refine .bind (h.callNative w name _ _) fun called => ?_
    split
    · exact .pure _
    · exact .pure called

protected theorem method (held : Held) (name : String) (args : List Value) (p first : Position) :
    Run.Follows watch σ (method ev env held name args p first)
      (method ev' env' held name args p first) := by
  unfold method
  split
  · exact h.callPointer w _ _ _ _
  · exact .pure _
  · exact h.callPointer w _ _ _ _
  · exact .pure _
  · exact .pure _
  · exact .pure _
  · exact h.callMethod w held _ _ p

end Methods

/-! ## Following a chain -/

section Chains

include w in
theorem tickPart (held : Held) (step : Step) :
    Run.Follows watch σ (Eval.tickPart env held.value step) (Eval.tickPart env' held.value step) := by
  unfold Eval.tickPart
  split
  · exact .tick w _
  · exact .tick w _
  · exact .tick w _
  · exact .pure ()

variable {onward onward' : Held → Run Called}
  (goesOn : ∀ held, Run.Follows watch σ (onward held) (onward' held))

include goesOn

theorem throughPart (held : Held) (p : Position) (look : Value → Except Error Part) :
    Run.Follows watch σ (Eval.throughPart held onward p look) (Eval.throughPart held onward' p look) := by
  unfold Eval.throughPart
  split
  · exact .pure _
  · exact .bind (goesOn _) fun _ => .pure _

include w

theorem chainFromVariable (name : String) (q : Position) (own : σ.Owns name) :
    Run.Follows watch σ (Eval.chainFromVariable env name q onward)
      (Eval.chainFromVariable env' name q onward') := by
  refine .bind (.tick w _) fun _ => .bind (.lookup? own) fun found => ?_
  split
  · refine .get fun agrees => ?_
    rw [agrees.read, agrees.made?]
    refine .bind (goesOn _) fun called => ?_
    split
    · exact .bind (.store own _) fun _ => .finish called
    · exact .finish called
  · rw [w.functionNamed?]
    split
    · exact .bind (goesOn _) fun called => .finish called
    · exact .raise _

theorem chainFromThis (q : Position) :
    Run.Follows watch σ (Eval.chainFromThis env q onward) (Eval.chainFromThis env' q onward') := by
  refine .bind (.tick w _) fun _ => .get fun agrees => ?_
  rw [agrees.this]
  split
  · exact .raise _
  · refine .bind (goesOn _) fun called => ?_
    split
    · exact .bind (.setThis _) fun _ => .finish called
    · exact .finish called

include h

protected theorem enter (held : Held) (step : Step) :
    Run.Follows watch σ (enter ev env held step onward) (enter ev' env' held step onward') := by
  unfold enter
  split
  · exact .pure _
  · refine .bind (tickPart w held step) fun _ => ?_
    split
    · exact throughPart goesOn held _ _
    · exact throughPart goesOn held _ _
    · refine .bind (h.method w held _ _ _ _) fun called => ?_
      split
      · exact .pure called
      · exact .bind (goesOn _) fun _ => .pure _

end Chains

include h w

protected theorem follow (held : Held) (steps : List Step) :
    Run.Follows watch σ (follow ev env held steps) (follow ev' env' held steps) := by
  induction steps generalizing held with
  | nil => exact .pure _
  | cons step rest ih => exact .guard (h.enter w ih held step)

protected theorem chain (root : Expr) (links : List Link)
    (own : σ.Grants ((Expr.chain root links).keepsTo σ.outer σ.known)) :
    Run.Follows watch σ (chain ev env root links) (chain ev' env' root links) := by
  refine .bind (.tick w _) fun _ => .bind (h.steps w links own.right) fun steps => ?_
  have goesOn (held : Held) : Run.Follows watch σ (follow ev env held steps)
      (follow ev' env' held steps) := h.follow w held steps
  dsimp only
  split
  · exact chainFromVariable w goesOn _ _ own.left.owns
  · exact chainFromThis w goesOn _
  · exact .bind (h.task w _ own.left) fun v => .bind (goesOn _) fun called => .finish called

end Eval.Follows

/-! ## Assignments -/

/-- Two attempts have the same result, unless the first one exceeds a limit and this is watched for.
-/
def Error.Ends (watch : Prop) {α : Type} (r r' : Except Error α) : Prop :=
  r' = r ∨ watch ∧ ∃ e, r = .error e ∧ e.isLimit = true

namespace Assignment

variable (w : env.Within watch σ table env') (a : Assignment)

include w

theorem joined_within (old new : String) :
    Error.Ends watch (a.joined env old new) (a.joined env' old new) := by
  unfold joined
  dsimp only
  rcases w.sizeFault? ⟨0, 0, (old ++ new).utf8ByteSize⟩ (some a.pos) with
    same | ⟨watched, e, found, limit⟩
  · rw [same]
    exact .inl rfl
  · rw [found]
    cases plain : old.isEmpty || new.isEmpty with
    | false => exact .inr ⟨watched, e, by simp, limit⟩
    | true =>
      refine .inl ?_
      simp only [if_true]
      split <;> rfl

theorem apply_within (old : Value) : Error.Ends watch (a.apply env old) (a.apply env' old) := by
  unfold apply
  split
  · exact .inl rfl
  · split
    · exact .inl rfl
    · exact .inl rfl
    · exact .inl rfl
    · exact .inl rfl
    · exact .inl rfl
    · exact .inl rfl
    · exact joined_within w a _ _
    · exact joined_within w a _ _
    · exact .inl rfl

theorem agrees_done (whole : Value) : Called.Agrees watch (a.done env whole) (a.done env' whole) := by
  unfold done
  rcases w.sizeFault? whole.size (some a.pos) with same | ⟨watched, e, found, limit⟩
  · rw [same]
    exact .refl _
  · rw [found]
    exact .inr ⟨watched, e, rfl, limit⟩

theorem agrees_toPart (part : Part) : Called.Agrees watch (a.toPart env part) (a.toPart env' part) := by
  unfold toPart
  rcases apply_within w a part.value with same | ⟨watched, e, found, limit⟩
  · rw [same]
    split
    · exact .refl _
    · split
      · split
        · exact agrees_done w a _
        · exact .refl _
      · exact .refl _
  · rw [found]
    exact .inr ⟨watched, e, rfl, limit⟩

theorem agrees_toEntry (fixed : Bool) (entries : Entries) (name : String) :
    Called.Agrees watch (a.toEntry env fixed entries name) (a.toEntry env' fixed entries name) := by
  unfold toEntry
  dsimp only
  split
  · exact .refl _
  · rcases apply_within w a ((entries.get? name).getD .unit) with
      same | ⟨watched, e, found, limit⟩
    · rw [same]
      split
      · exact .refl _
      · exact agrees_done w a _
    · rw [found]
      exact .inr ⟨watched, e, rfl, limit⟩

theorem agrees_toProperty (whole : Value) (name : String) (p : Position) :
    Called.Agrees watch (a.toProperty env whole name p) (a.toProperty env' whole name p) := by
  unfold toProperty
  split
  · exact .refl _
  · dsimp only
    rcases apply_within w a (((Part.named whole name p).map Part.value).toOption.getD .unit) with
      same | ⟨watched, e, found, limit⟩
    · rw [same]
      exact .refl _
    · rw [found]
      exact .inr ⟨watched, e, rfl, limit⟩

theorem agrees_toStep (held : Held) (step : Step) :
    Called.Agrees watch (a.toStep env held step) (a.toStep env' held step) := by
  unfold toStep
  split
  · exact .refl _
  · dsimp only
    split
    · exact agrees_toEntry w a _ _ _
    · exact agrees_toEntry w a _ _ _
    · exact agrees_toProperty w a _ _ _
    · split
      · exact .refl _
      · exact .refl _
      · split
        · exact .refl _
        · exact agrees_toPart w a _
    · exact .refl _

end Assignment

namespace Eval.Follows

variable (h : Follows watch table ev ev') (w : env.Within watch σ table env') (a : Assignment)

section Targets

include w

theorem tickCalls (n : Nat) :
    Run.Follows watch σ (Eval.tickCalls env a n) (Eval.tickCalls env' a n) := by
  induction n with
  | zero => exact .pure ()
  | succ n ih => exact .bind (.tick w _) fun _ => ih

/-- What is assigned to a variable, or to what a function is called on, once its old value is known.
-/
theorem applied (old : Value) {store : Value → Run Unit}
    (stores : ∀ v, Run.Follows watch σ (store v) (store v)) :
    Run.Follows watch σ
      (match a.apply env old with
        | .error e => Run.raise e
        | .ok v => do
          store v
          (← (a.done env v).noted).finish)
      (match a.apply env' old with
        | .error e => Run.raise e
        | .ok v => do
          store v
          (← (a.done env' v).noted).finish) := by
  rcases a.apply_within w old with same | ⟨watched, e, found, limit⟩
  · rw [same]
    split
    · exact .raise _
    · exact .bind (stores _) fun _ =>
        .bind (.noted (a.agrees_done w _)) fun called => .finish called
  · rw [found]
    exact .raise_limit limit watched _

theorem assignVariable (own : σ.Owns a.root) :
    Run.Follows watch σ (Eval.assignVariable env a) (Eval.assignVariable env' a) := by
  refine .bind (.tick w _) fun _ => .bind (.lookup? own) fun found => ?_
  split
  · exact .raise _
  · refine .get fun agrees => ?_
    rw [agrees.read, agrees.made?]
    split
    · exact .finish _
    · exact .bind (tickCalls w a _) fun _ => applied w a _ fun v => .store own v

theorem assignThis : Run.Follows watch σ (Eval.assignThis env a) (Eval.assignThis env' a) := by
  refine .bind (.tick w _) fun _ => .get fun agrees => ?_
  rw [agrees.this]
  split
  · exact .raise _
  · split
    · exact .finish _
    · exact .bind (tickCalls w a _) fun _ => applied w a _ fun v => .setThis _

end Targets

include h w

protected theorem assignAlong (held : Held) (steps : List Step) :
    Run.Follows watch σ (assignAlong ev env a held steps) (assignAlong ev' env' a held steps) := by
  induction steps generalizing held with
  | nil => exact .pure _
  | cons step rest ih =>
    cases rest with
    | nil =>
      exact .guard (.bind (tickPart w held step) fun _ => .bind (tickCalls w a _) fun _ =>
        .noted (a.agrees_toStep w held step))
    | cons => exact .guard (h.enter w ih held step)

protected theorem assignChain (root : Expr) (links : List Link)
    (own : σ.Grants ((Expr.chain root links).keepsTo σ.outer σ.known)) :
    Run.Follows watch σ (assignChain ev env a root links) (assignChain ev' env' a root links) := by
  refine .bind (h.steps w links own.right) fun steps => ?_
  have goesOn (held : Held) := h.assignAlong w a held steps
  dsimp only
  split
  · exact chainFromVariable w goesOn _ _ own.left.owns
  · exact chainFromThis w goesOn _
  · exact .bind (h.task w _ own.left) fun v => .bind (goesOn _) fun called => .finish called

omit a in
protected theorem assign (op : Option Binary) (target value : Expr) (p : Position)
    (own : σ.Grants (target.keepsTo σ.outer σ.known && value.keepsTo σ.outer σ.known)) :
    Run.Follows watch σ (assign ev env op target value p) (assign ev' env' op target value p) := by
  refine .bind (h.task w (.expression value) own.right) fun v => ?_
  split
  · exact assignVariable w _ own.left.owns
  · exact assignThis w _
  · exact h.assignChain w _ _ _ own.left
  · exact h.assignChain w _ _ _ own.left
  · exact .pure _

end Eval.Follows

end ScriptGate.Script
