import ScriptGate.Proofs.Script.Follow.Call

/-!
# Library functions that follow others

The library functions that call functions back, and with them all calls that are expressions. What
such a function answers is judged like the answer of any other, after all that it called.
-/

namespace ScriptGate.Script

variable {watch : Prop} {σ : Shift} {table : Functions} {ev ev' : Eval} {env env' : Env}

namespace Eval

/-- A way to call library functions follows another one. -/
abbrev NativeFollows (watch : Prop) (table : Functions) (native native' : Native) : Prop :=
  ∀ {σ : Shift} {env env' : Env}, env.Within watch σ table env' → ∀ name args p,
    Run.Follows watch σ (native env name args p) (native' env' name args p)

/-! ## Items in turn -/

section Items

variable {α : Type}

theorem follows_overItems {step step' : α → Value → Nat → Run α}
    (steps : ∀ a item i, Run.Follows watch σ (step a item i) (step' a item i)) (a : α) (index : Nat)
    (items : List Value) :
    Run.Follows watch σ (overItems step a index items) (overItems step' a index items) := by
  induction items generalizing a index with
  | nil => exact .pure a
  | cons item rest ih => exact .bind (steps a item index) fun a => ih a (index + 1)

theorem follows_insertDescending {isLess isLess' : Value → Value → Run Bool}
    (compares : ∀ a b, Run.Follows watch σ (isLess a b) (isLess' a b)) (item : Value)
    (seen : List Value) :
    Run.Follows watch σ (insertDescending isLess item seen) (insertDescending isLess' item seen) := by
  induction seen with
  | nil => exact .pure _
  | cons last rest ih =>
    refine .bind (compares item last) fun less => ?_
    split
    · exact .bind ih fun _ => .pure _
    · exact .pure _

theorem follows_filterMapM {β : Type} {step step' : α → Run (Option β)}
    (steps : ∀ a, Run.Follows watch σ (step a) (step' a)) (as : List α) :
    Run.Follows watch σ (as.filterMapM step) (as.filterMapM step') := by
  have loop (seen : List β) : Run.Follows watch σ (List.filterMapM.loop step as seen)
      (List.filterMapM.loop step' as seen) := by
    induction as generalizing seen with
    | nil => exact .pure _
    | cons a rest ih =>
      refine .bind (steps a) fun kept => ?_
      cases kept with
      | none => exact ih seen
      | some b => exact ih (b :: seen)
  exact loop []

/-- What is judged at the end of a run that follows another one. -/
theorem follows_judged {m m' : Run α} (h : Run.Follows watch σ m m') {c c' : α → Called}
    (agrees : ∀ a, Called.Agrees watch (c a) (c' a)) :
    Run.Follows watch σ ((do return c (← m)) >>= Called.noted)
      ((do return c' (← m')) >>= Called.noted) := by
  simp only [bind_assoc, pure_bind]
  exact .bind h fun a => .noted (agrees a)

end Items

namespace Follows

variable (h : Follows watch table ev ev') (w : env.Within watch σ table env')

include h w

section Library

variable {native native' : Native} (library : NativeFollows watch table native native')

include library

/-! ## Calling back -/

protected theorem callInside (f : Value) (args : List Value) (this : Option Receiver)
    (p : Option Position) : Run.Follows watch σ (callInside ev native env f args this p)
      (callInside ev' native' env' f args this p) :=
  .guard (.aside (h.callPointerWith (w.deeper _) (library (w.deeper _)) f args this p))

protected theorem tryInTurn (f : Value) (p : Option Position) (offers : List Offer) :
    Run.Follows watch σ (tryInTurn ev native env f p offers)
      (tryInTurn ev' native' env' f p offers) := by
  induction offers with
  | nil => exact .pure _
  | cons offer rest ih =>
    obtain ⟨args, this⟩ := offer
    cases rest with
    | nil => exact h.callInside w library f args this p
    | cons next rest =>
      refine .bind (h.callInside w library f args this p) fun called => ?_
      split
      · exact ih
      · exact .pure called

protected theorem callBack (owner : String) (f : Value) (p : Option Position) (args : List Value)
    (place : Nat) (more : List Value) (item : Value) :
    Run.Follows watch σ (callBack ev native env owner f p args place more item)
      (callBack ev' native' env' owner f p args place more item) := by
  unfold callBack
  dsimp only
  split
  · exact .bind (h.callInside w library f _ _ p) fun called =>
      .bind (.finish _) fun _ => .pure _
  · exact .bind (h.tryInTurn w library f p _) fun called =>
      .bind (.finish _) fun _ => .pure _

protected theorem isLess (f : Value) (p : Option Position) (a b : Value) :
    Run.Follows watch σ (isLess ev native env f p a b) (isLess ev' native' env' f p a b) := by
  refine .bind (h.callInside w library f [a, b] none p) fun called => ?_
  split
  · exact .pure _
  · exact .pure _
  · exact .pure _

protected theorem firstIndex (f : Value) (p : Option Position) (start : Nat) (items : List Value) :
    Run.Follows watch σ (firstIndex ev native env f p start items)
      (firstIndex ev' native' env' f p start items) := by
  refine .bind (follows_overItems (fun found item i => ?_) _ _ _) fun _ => .pure _
  split
  · exact .pure _
  · exact .bind (h.callBack w library _ f p _ _ _ item) fun _ => .pure _

/-- The same library function of an array, or none. -/
protected theorem overArray? (name : String) (items : List Value) (f : Value) (rest : List Value)
    (p : Option Position) :
    Option.Rel (fun (m m' : Run Called) =>
        Run.Follows watch σ (m >>= Called.noted) (m' >>= Called.noted))
      (overArray? ev native env name items f rest p)
      (overArray? ev' native' env' name items f rest p) := by
  have call (args : List Value) (place index : Nat) (item : Value) :
      Run.Follows watch σ
        (callBack ev native env name f p args place [.integer (Int64.ofNat index)] item)
        (callBack ev' native' env' name f p args place [.integer (Int64.ofNat index)] item) :=
    h.callBack w library name f p args place _ item
  have looked (v : Value) : Called.Agrees watch
      ⟨Called.judge env p (some (.array items)) (.ok v), none⟩
      ⟨Called.judge env' p (some (.array items)) (.ok v), none⟩ := w.agrees_judge p _ _ none
  unfold overArray?
  dsimp only
  split
  case h_1 => -- map
    exact .some (follows_judged (follows_overItems
      (fun _ item i => .bind (call [] 0 i item) fun _ => .pure _) _ _ _) fun _ => looked _)
  case h_2 => -- filter
    exact .some (follows_judged (follows_overItems
      (fun _ item i => .bind (call [] 0 i item) fun _ => .pure _) _ _ _) fun _ => looked _)
  case h_3 => -- reduce
    split
    · exact .none
    · exact .some (follows_judged (follows_overItems
        (fun sum item i => .bind (call [sum] 1 i item) fun _ => .pure _) _ _ _) looked)
  case h_4 => -- reduce_rev
    split
    · exact .none
    · exact .some (follows_judged (follows_overItems
        (fun sum item i => .bind (call [sum] 1 _ item) fun _ => .pure _) _ _ _) looked)
  case h_5 => -- some
    refine .some (follows_judged (follows_overItems (fun found item i => ?_) _ _ _) fun _ => looked _)
    split
    · exact .pure true
    · exact .bind (call [] 0 i item) fun _ => .pure _
  case h_6 => -- all
    refine .some (follows_judged (follows_overItems (fun held item i => ?_) _ _ _) fun _ => looked _)
    split
    · exact .pure false
    · exact .bind (call [] 0 i item) fun _ => .pure _
  case h_7 => -- find
    refine .some (follows_judged (follows_overItems (fun found item i => ?_) _ _ _) fun _ => looked _)
    split
    · exact .pure _
    · exact .bind (call [] 0 i item) fun _ => .pure _
  case h_8 => -- index_of
    cases searchStart? items.length rest with
    | none => exact .none
    | some start => exact .some (follows_judged (h.firstIndex w library f p _ _) fun _ => looked _)
  case h_9 => -- for_each
    exact .some (follows_judged (follows_overItems
      (fun _ item i => .bind (call [] 0 i item) fun _ => .pure _) _ _ _)
      fun _ => w.agrees_judge p _ _ _)
  case h_10 => -- sort
    exact .some (follows_judged (follows_overItems
      (fun seen item _ => follows_insertDescending (h.isLess w library f p) item seen) _ _ _)
      fun _ => w.agrees_judge p _ _ _)
  case h_11 => exact .none

protected theorem filterEntries (entries : Entries) (f : Value) (p : Option Position) :
    Run.Follows watch σ (filterEntries ev native env entries f p >>= Called.noted)
      (filterEntries ev' native' env' entries f p >>= Called.noted) := by
  refine follows_judged (follows_filterMapM (fun entry => ?_) entries) fun _ =>
    w.agrees_judge p _ _ none
  exact .bind (h.callBack w library _ f p _ _ _ entry.2) fun _ => .pure _

/-- The same library function that calls functions, or none. -/
protected theorem higher? (name : String) (args : List Value) (p : Option Position) :
    Option.Rel (fun (m m' : Run Called) =>
        Run.Follows watch σ (m >>= Called.noted) (m' >>= Called.noted))
      (higher? ev native env name args p) (higher? ev' native' env' name args p) := by
  unfold higher?
  split
  · exact h.overArray? w library name _ _ _ p
  · split
    · split
      · exact h.overArray? w library name _ _ _ p
      · exact .some (.bind (.pure _) fun c => .noted_refl c)
    · exact .none
  · split
    · exact .some (h.filterEntries w library _ _ p)
    · exact .none
  · exact .none

end Library

/-! ## Calls by name and by value -/

protected theorem callNative (name : String) (args : List Value) (p : Option Position) :
    Run.Follows watch σ (callNative ev env name args p) (callNative ev' env' name args p) := by
  have related := h.higher? w (fun w => follows_callPlain w) name args p
  unfold callNative
  generalize higher? ev callPlain env name args p = called,
    higher? ev' callPlain env' name args p = called' at related
  cases related with
  | none => exact follows_callPlain w name args p
  | some related => exact .bind (.tick w p) fun _ => related

protected theorem callPointer (callee : Value) (args : List Value) (this : Option Receiver)
    (p : Option Position) : Run.Follows watch σ (callPointer ev env callee args this p)
      (callPointer ev' env' callee args this p) :=
  h.callPointerWith w (h.callNative w) callee args this p

protected theorem callNamed (name : String) (args : List Value) (p : Option Position) :
    Run.Follows watch σ (callNamed ev env name args p) (callNamed ev' env' name args p) := by
  unfold callNamed
  rw [w.functions_eq]
  split
  · exact h.callByName w _ args none p
  · exact h.callNative w name args p

/-! ## Calls as expressions -/

protected theorem callOnVariable (name target : String) (q : Position) (rest : List Expr)
    (p : Position) (own : σ.Owns target) (ownRest : σ.Grants (keepAll σ.outer σ.known rest)) :
    Run.Follows watch σ (callOnVariable ev env name target q rest p)
      (callOnVariable ev' env' name target q rest p) := by
  refine .bind (h.arguments w rest ownRest) fun args => .bind (.tick w _) fun _ =>
    .bind (.lookup? own) fun found => ?_
  split
  · refine .get fun agrees => ?_
    rw [agrees.read]
    refine .bind (h.callNamed w name _ _) fun called => ?_
    rw [w.functions_eq]
    split
    · exact .bind (.store own _) fun _ => .finish called
    · exact .finish called
  · rw [w.functionNamed?]
    split
    · exact .bind (h.callNamed w name _ _) fun called => .finish called
    · exact .raise _

protected theorem callOnThis (name : String) (q : Position) (rest : List Expr) (p : Position)
    (own : σ.Grants (keepAll σ.outer σ.known rest)) :
    Run.Follows watch σ (callOnThis ev env name q rest p) (callOnThis ev' env' name q rest p) := by
  refine .bind (h.arguments w rest own) fun args => .bind (.tick w _) fun _ => .get fun agrees => ?_
  rw [agrees.this]
  split
  · exact .raise _
  · refine .bind (h.callNamed w name _ _) fun called => ?_
    rw [w.functions_eq]
    split
    · exact .bind (.setThis _) fun _ => .finish called
    · exact .finish called

protected theorem apply (name : String) (args : List Expr) (p : Position)
    (own : σ.Grants (keepAll σ.outer σ.known args)) :
    Run.Follows watch σ (apply ev env name args p) (apply ev' env' name args p) := by
  unfold apply
  split
  · exact h.callOnVariable w name _ _ _ p own.left.owns own.right
  · exact h.callOnThis w name _ _ p own.right
  · exact .bind (h.arguments w _ own) fun args =>
      .bind (h.callNamed w name args _) fun called => .finish called

protected theorem pointer (e : Expr) (own : σ.Grants (e.keepsTo σ.outer σ.known)) :
    Run.Follows watch σ (pointer ev env e) (pointer ev' env' e) := by
  refine .bind (h.task w _ own) fun v => ?_
  split
  · exact .ofResult _ _
  · exact .raise _

protected theorem applyPointer (e : Expr) (args : List Expr) (p : Position)
    (own : σ.Grants (keepAll σ.outer σ.known (e :: args))) :
    Run.Follows watch σ (applyPointer ev env e args p) (applyPointer ev' env' e args p) := by
  refine .bind (h.task w (.expression e) own.left) fun callee => ?_
  split
  · exact h.apply w _ args p own.right
  · exact .bind (h.arguments w args own.right) fun args =>
      .bind (h.callPointer w _ args none _) fun called => .finish called
  · exact .raise _

protected theorem curried (e : Expr) (args : List Expr)
    (own : σ.Grants (keepAll σ.outer σ.known (e :: args))) :
    Run.Follows watch σ (curried ev env e args) (curried ev' env' e args) := by
  refine .bind (h.task w (.expression e) own.left) fun v => ?_
  split
  · exact .bind (h.arguments w args own.right) fun _ => .pure _
  · exact .raise _

/-- Whether there is a variable of a name is the same if nobody outside has one, or if nobody is outside. -/
protected theorem isVariable (e : Expr) (own : σ.Grants (e.keepsTo σ.outer σ.known))
    (ownName : σ.Grants (asksOwn σ.outer σ.known [e])) :
    Run.Follows watch σ (isVariable ev env e) (isVariable ev' env' e) := by
  refine .bind_ending (h.task w (.expression e) own) fun v ⟨s, t, ended⟩ => ?_
  cases v with
  | text x =>
    have owned : σ.Owns x := by
      rcases ownName with none | asked
      · exact .of_none none
      · unfold asksOwn at asked
        split at asked
        · next e same =>
          cases same
          cases h.literals ended
          exact Shift.Grants.owns (.inr asked)
        · cases asked
        · next other => exact (other e rfl).elim
    exact .bind (.lookup? owned) fun _ => .pure _
  | _ => exact .raise _

protected theorem isFunction (e count : Expr)
    (own : σ.Grants (keepAll σ.outer σ.known [e, count])) :
    Run.Follows watch σ (isFunction ev env e count) (isFunction ev' env' e count) := by
  refine .bind (h.task w (.expression e) own.left) fun v => ?_
  split
  · refine .bind (h.task w (.expression count) own.right.left) fun n => ?_
    rw [w.functions_eq]
    split
    · exact .pure _
    · exact .raise _
  · exact .raise _

protected theorem call (name : String) (args : List Expr) (p : Position)
    (own : σ.Grants ((Expr.call name args p).keepsTo σ.outer σ.known)) :
    Run.Follows watch σ (call ev env name args p) (call ev' env' name args p) := by
  refine .bind (.tick w _) fun _ => ?_
  split
  · exact h.pointer w _ own.left.left
  · exact h.applyPointer w _ _ p own.left
  · exact h.curried w _ _ own.left
  · exact h.isVariable w _ own.left.left own.right
  · exact h.isFunction w _ _ own.left
  · exact h.apply w name args p own.left

end Follows

end Eval

end ScriptGate.Script
