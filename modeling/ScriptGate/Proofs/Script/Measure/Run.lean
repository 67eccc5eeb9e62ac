import ScriptGate.Proofs.Script.Measure
import ScriptGate.Proofs.Script.Follow.Call

/-!
# Runs that keep within caps

A run keeps within caps if, from a state in which all values are within them, it ends so, and with what it is
meant to end with, unless it exceeds a limit on the way (`Run.Keeps`). A limit that is exceeded stays so,
whatever the run is given. Therefore what a run is given stands apart from the run itself, as
a condition that the parts of the run may use.
-/

namespace ScriptGate.Script

variable {k : Caps}

/-- A place with no value of its own beyond caps. -/
def Slot.Fits (k : Caps) (slot : Slot) : Prop := ∀ v, slot = .own v → v.Fits k

/-- A state in which all values are within caps. -/
structure State.Fits (k : Caps) (s : State) : Prop where
  scope : ∀ x ∈ s.scope, x.slot.Fits k
  cells : ∀ c ∈ s.cells, c.value.Fits k
  this : ∀ r ∈ s.this, r.value.Fits k
  constants : ∀ e ∈ s.constants, e.2.Fits k

/-- A stop that carries no value beyond caps. -/
def Stop.Fits (k : Caps) : Stop → Prop
  | .fault e => e.Fits k
  | .leave v | .giveBack v | .exit v => v.Fits k
  | .next => True

/-- A value that may be missing is within caps. -/
def FitsIfAny (k : Caps) (v : Option Value) : Prop := ∀ w ∈ v, w.Fits k

theorem FitsIfAny.none : FitsIfAny k none := nofun

theorem FitsIfAny.some {v : Value} (fits : v.Fits k) : FitsIfAny k (some v) :=
  fun _ same => Option.mem_some.mp same ▸ fits

theorem Slot.Fits.own {v : Value} (fits : v.Fits k) : (Slot.own v).Fits k :=
  fun _ same => Slot.own.inj same ▸ fits

/-- The value in a place is within caps. -/
theorem State.Fits.read {s : State} (fits : s.Fits k) {slot : Slot} (own : slot.Fits k) :
    (Run.read s slot).Fits k := by
  cases slot with
  | own v => exact own v rfl
  | shared cell =>
    change ((s.cells[cell]?.map Cell.value).getD .unit).Fits k
    cases found : s.cells[cell]? with
    | none => exact .flat rfl
    | some c => exact fits.cells c (Array.mem_of_getElem? found)

namespace Run

variable {α β : Type} {G : Prop} {P : α → Prop} {Q : β → Prop} {m : Run α}

/-- A run ended with all values within caps, and as it is meant to. -/
inductive Arrives (k : Caps) (P : α → Prop) : EStateM.Result Stop State α → Prop where
  | ok {a : α} {t : State} (right : P a) (state : t.Fits k) : Arrives k P (.ok a t)
  | error {stop : Stop} {t : State} (right : stop.Fits k) (state : t.Fits k) : Arrives k P (.error stop t)

/-- A run keeps all values within caps and ends as it is meant to, on a condition and unless it exceeds a limit.
And it exceeded one at its end if it had before. -/
structure Keeps (k : Caps) (G : Prop) (P : α → Prop) (m : Run α) : Prop where
  ends : G → ∀ s, s.Fits k → (finalState m s).exceeded = true ∨ Arrives k P (m s)
  kept : ∀ s, s.exceeded = true → (finalState m s).exceeded = true

/-- What a run answers, whatever it is given. -/
def Yields (P : α → Prop) (m : Run α) : Prop := ∀ s a t, m s = .ok a t → P a

namespace Yields

protected theorem pure {a : α} (right : P a) : Yields P (Pure.pure a) := by
  intro _ _ _ ended
  cases ended
  exact right

protected theorem bind {m : Run β} {f : β → Run α} (further : ∀ b, Yields P (f b)) : Yields P (m >>= f) := by
  intro s a t ended
  obtain ⟨b, u, -, ended⟩ := exists_of_bind ended
  exact further b u a t ended

/-- What is answered is made of an answer. -/
protected theorem map {m : Run β} {f : β → α} (h : Yields Q m) (made : ∀ b, Q b → P (f b)) :
    Yields P (m >>= fun b => Pure.pure (f b)) := by
  intro s a t ended
  obtain ⟨b, u, first, ended⟩ := exists_of_bind ended
  cases ended
  exact made b (h s b t first)

end Yields

/-- How a run ended, and what `this` stood for then, are within caps. -/
structure Settled (k : Caps) (P : α → Prop) (r : Except Stop α × Option Value) : Prop where
  ok : ∀ a, r.1 = .ok a → P a
  error : ∀ stop, r.1 = .error stop → stop.Fits k
  this : FitsIfAny k r.2

namespace Keeps

/-- What is meant may be less, and the condition more. -/
theorem mono {G' : Prop} {P' : α → Prop} (h : Keeps k G P m) (given : G' → G)
    (weaker : G' → ∀ a, P a → P' a) : Keeps k G' P' m where
  ends g s fits := (h.ends (given g) s fits).imp_right fun ends => by
    generalize m s = r at ends
    cases ends with
    | ok right state => exact .ok (weaker g _ right) state
    | error right state => exact .error right state
  kept := h.kept

theorem given {G' : Prop} (h : Keeps k G P m) (given : G' → G) : Keeps k G' P m :=
  h.mono given fun _ _ right => right

protected theorem pure {a : α} (right : G → P a) : Keeps k G P (Pure.pure a) :=
  ⟨fun g _ fits => .inr (.ok (right g) fits), fun _ before => before⟩

protected theorem throw {stop : Stop} (right : G → stop.Fits k) :
    Keeps k G P (MonadExcept.throw stop : Run α) :=
  ⟨fun g _ fits => .inr (.error (right g) fits), fun _ before => before⟩

protected theorem raise {e : Error} (right : G → e.Fits k) : Keeps k G P (raise e : Run α) where
  ends g _ fits := .inr (.error (right g) { fits with })
  kept _ before := Bool.or_eq_true_iff.mpr (.inl before)

/-- A fault that tells of a limit ends a run in any way. -/
theorem raise_limit {e : Error} (limit : e.isLimit = true) : Keeps k G P (Run.raise e : Run α) where
  ends _ _ _ := .inl (Bool.or_eq_true_iff.mpr (.inr limit))
  kept _ _ := Bool.or_eq_true_iff.mpr (.inr limit)

/-- A run that exceeds a limit in any case. -/
theorem of_exceeding (exceeds : ∀ s, (finalState m s).exceeded = true) : Keeps k G P m :=
  ⟨fun _ s _ => .inl (exceeds s), fun s _ => exceeds s⟩

/-- A fault in which nothing was thrown. -/
theorem fail {cause : ErrorCause} (p : Option Position) (plain : ∀ v, cause ≠ .thrown v) :
    Keeps k G P (fail cause p : Run α) :=
  .raise fun _ v same => (plain v same).elim

protected theorem modify {f : State → State} (moved : G → ∀ s, s.Fits k → (f s).Fits k)
    (kept : ∀ s, s.exceeded = true → (f s).exceeded = true) :
    Keeps k G (fun _ => True) (modify f : Run PUnit) :=
  ⟨fun g s fits => .inr (.ok trivial (moved g s fits)), kept⟩

/-- Looks at a state in which all is within caps. -/
protected theorem get {f : State → Run α} (further : ∀ s, Keeps k (G ∧ s.Fits k) P (f s)) :
    Keeps k G P (MonadState.get >>= f) :=
  ⟨fun g s fits => (further s).ends ⟨g, fits⟩ s fits, fun s => (further s).kept s⟩

/-- What a run answers whatever it is given, it answers here too. -/
theorem and {Q : α → Prop} (h : Keeps k G P m) (yields : Yields Q m) : Keeps k G (fun a => P a ∧ Q a) m where
  ends g s fits := (h.ends g s fits).imp_right fun ends => by
    cases ended : m s with
    | ok a t =>
      rw [ended] at ends
      cases ends with
      | ok right state => exact .ok ⟨right, yields s a t ended⟩ state
    | error stop t =>
      rw [ended] at ends
      cases ends with
      | error right state => exact .error right state
  kept := h.kept

/-! ## Runs put together -/

protected theorem andThen {ok : α → Run β} {stop : Stop → Run β} (h : Keeps k G P m)
    (onOk : ∀ a, Keeps k (G ∧ P a) Q (ok a)) (onStop : ∀ e : Stop, Keeps k (G ∧ e.Fits k) Q (stop e)) :
    Keeps k G Q (andThen (fun s => s) m (fun _ => ok) fun _ => stop) := by
  have onward (s : State) (before : (finalState m s).exceeded = true) :
      (finalState (Run.andThen (fun s => s) m (fun _ => ok) fun _ => stop) s).exceeded = true := by
    unfold finalState Run.andThen
    unfold finalState at before
    cases ended : m s with
    | ok a t =>
      rw [ended] at before
      exact (onOk a).kept t before
    | error e t =>
      rw [ended] at before
      exact (onStop e).kept t before
  refine ⟨fun g s fits => ?_, fun s before => onward s (h.kept s before)⟩
  rcases h.ends g s fits with exceeded | ends
  · exact .inl (onward s exceeded)
  · unfold finalState Run.andThen
    cases ended : m s with
    | ok a t =>
      rw [ended] at ends
      cases ends with
      | ok right state => exact (onOk a).ends ⟨g, right⟩ t state
    | error e t =>
      rw [ended] at ends
      cases ends with
      | error right state => exact (onStop e).ends ⟨g, right⟩ t state

protected theorem bind {f : α → Run β} (h : Keeps k G P m) (further : ∀ a, Keeps k (G ∧ P a) Q (f a)) :
    Keeps k G Q (m >>= f) := by
  rw [bind_eq_andThen]
  exact .andThen h further fun e => .throw And.right

/-- A run within a region of its own. -/
protected theorem around (enter : State → State) (leave : State → State → State) (h : Keeps k G P m)
    (entered : G → ∀ s, s.Fits k → (enter s).Fits k)
    (left : ∀ s t, s.Fits k → t.Fits k → (leave s t).Fits k)
    (before : ∀ s, (enter s).exceeded = s.exceeded) (after : ∀ s t, (leave s t).exceeded = t.exceeded) :
    Keeps k G P (around enter leave m) := by
  refine ⟨fun g s fits => ?_, fun s exceeded => ?_⟩
  · rw [finalState_around, after]
    refine (h.ends g _ (entered g s fits)).imp_right fun ends => ?_
    unfold Run.around
    generalize m (enter s) = r at ends
    cases ends with
    | ok right state => exact .ok right (left s _ fits state)
    | error right state => exact .error right (left s _ fits state)
  · rw [finalState_around, after]
    exact h.kept _ ((before s).trans exceeded)

protected theorem inBlock (h : Keeps k G P m) : Keeps k G P (inBlock m) :=
  h.around (fun s => s) (fun s t => { t with scope := t.scope.drop (t.scope.length - s.scope.length) })
    (fun _ _ fits => fits)
    (fun _ _ _ fits => { fits with scope := fun x inside => fits.scope x (List.mem_of_mem_drop inside) })
    (fun _ => rfl) fun _ _ => rfl

protected theorem aside (h : Keeps k G P m) : Keeps k G P (aside m) :=
  h.around (fun s => s) (fun s t => { t with operations := s.operations })
    (fun _ _ fits => fits) (fun _ _ _ fits => { fits with }) (fun _ => rfl) fun _ _ => rfl

protected theorem settled (h : Keeps k G P m) : Keeps k G (Settled k P) (settled m) := by
  have this {s : State} (fits : s.Fits k) : FitsIfAny k (s.this.map Receiver.value) := by
    intro v same
    obtain ⟨r, found, rfl⟩ := Option.map_eq_some_iff.mp same
    exact fits.this r found
  refine .andThen h (fun a => .get fun s => .pure fun ⟨⟨_, right⟩, fits⟩ => ?_)
    fun e => .get fun s => .pure fun ⟨⟨_, right⟩, fits⟩ => ?_
  · exact ⟨fun b same => Except.ok.inj same ▸ right, nofun, this fits⟩
  · exact ⟨nofun, fun stop same => Except.error.inj same ▸ right, this fits⟩

/-- A run with variables of its own that are within caps. -/
protected theorem inFrame {locals : List Variable} {this : Option Receiver}
    (fitting : G → (∀ x ∈ locals, x.slot.Fits k) ∧ ∀ r ∈ this, r.value.Fits k)
    (h : Keeps k G P m) : Keeps k G (Settled k P) (inFrame locals this m) := by
  rw [inFrame_eq]
  exact h.settled.around _ _
    (fun g s fits => { fits with scope := (fitting g).1, this := (fitting g).2 })
    (fun _ _ fits state => { state with scope := fits.scope, this := fits.this }) (fun _ => rfl) fun _ _ => rfl

/-! ## Loops -/

protected theorem turn {m : Run Value} (h : Keeps k G (Value.Fits k) m) :
    Keeps k G (FitsIfAny k) (turn m) := by
  rw [turn_eq]
  refine .andThen h (fun _ => .pure fun _ => .none) fun e => ?_
  cases e with
  | next => exact .pure fun _ => .none
  | leave v => exact .pure fun g => .some g.2
  | fault e => exact .throw And.right
  | giveBack v => exact .throw And.right
  | exit v => exact .throw And.right

protected theorem turns {turn : Run (Option Value)} (env : Env) (h : Keeps k G (FitsIfAny k) turn)
    (fuel : Nat) : Keeps k G (Value.Fits k) (turns env turn fuel) := by
  induction fuel with
  | zero => exact .raise_limit rfl
  | succ fuel ih =>
    rw [turns_succ]
    refine .bind h fun ended => ?_
    cases ended with
    | none => exact ih.given And.left
    | some v => exact .pure fun g => g.2 v rfl

/-! ## Limits -/

section Limits

variable {env : Env} (p : Option Position)

protected theorem tick (env : Env) : Keeps k G (fun _ => True) (tick env p) := by
  have spent (taken : Nat) : Keeps k G (fun _ => True) (spent env p taken) := by
    unfold Run.spent
    split
    · exact .raise_limit rfl
    · split
      · exact .raise_limit rfl
      · exact .pure fun _ => trivial
  exact ⟨fun g _ fits => (spent _).ends g _ { fits with },
    fun s before => (spent _).kept { s with operations := s.operations + 1 } before⟩

/-- What passes a check is of a size that is allowed. -/
protected theorem checkSize (env : Env) (size : Value.Size) :
    Keeps k G (fun _ => size.Allowed env.settings) (checkSize env size p) := by
  unfold Run.checkSize sizeFault?
  cases found : excess? env.settings size with
  | some what => exact .raise_limit rfl
  | none => exact .pure fun _ => allowed_of_excess? found

/-- A value that is well built passes only within caps. -/
protected theorem checked {v : Value} (kept : G → k.KeptBy env.settings) {sized : Bool}
    (built : G → v.Built k sized) : Keeps k G (Value.Fits k) (checked env p v) :=
  .bind (.checkSize p env v.size) fun _ => .pure fun ⟨g, allowed⟩ => (built g).fits (kept g) allowed

end Limits

/-! ## Variables -/

section Variables

variable {name : String} {value : Value}

protected theorem lookup? (name : String) :
    Keeps k G (fun found => ∀ x ∈ found, x.slot.Fits k) (lookup? name) :=
  ⟨fun _ _ fits => .inr (.ok (fun x found => fits.scope x (List.mem_of_find?_eq_some found)) fits),
    fun _ before => before⟩

protected theorem define (name : String) (constant : Bool) (fits : G → value.Fits k) :
    Keeps k G (fun _ => True) (define name value constant) := by
  refine .modify (fun g _ state => { state with scope := fun x inside => ?_ }) fun _ before => before
  rcases List.mem_cons.mp inside with rfl | inside
  · exact .own (fits g)
  · exact state.scope x inside

theorem fits_of_mem_withSlot {scope : List Variable} (all : ∀ x ∈ scope, x.slot.Fits k) {slot : Slot}
    (fits : slot.Fits k) : ∀ x ∈ withSlot name slot scope, x.slot.Fits k := by
  intro x inside
  rcases slot_of_mem_withSlot inside with same | inside
  · exact same ▸ fits
  · exact all x inside

protected theorem store (name : String) (fits : G → value.Fits k) :
    Keeps k G (fun _ => True) (store name value) := by
  refine .modify (fun g _ state => ?_) fun s before => ?_
  · split
    · exact { state with scope := fits_of_mem_withSlot state.scope (.own (fits g)) }
    · refine { state with cells := fun c inside => ?_ }
      obtain ⟨i, found⟩ := Array.getElem?_of_mem inside
      rw [Array.getElem?_modify] at found
      split at found
      · obtain ⟨old, -, rfl⟩ := Option.map_eq_some_iff.mp found
        exact fits g
      · exact state.cells c (Array.mem_of_getElem? found)
    · exact state
  · split <;> exact before

protected theorem share? (name : String) : Keeps k G (fun _ => True) (share? name) := by
  refine ⟨fun g s state => .inr ?_, fun s before => ?_⟩
  · rw [Follows.share?_apply]
    cases found : s.scope.find? (·.name = name) with
    | none => exact .ok trivial state
    | some x =>
      dsimp only
      cases owned : x.slot with
      | shared cell => exact .ok trivial state
      | own v =>
        have own := state.scope x (List.mem_of_find?_eq_some found)
        refine .ok trivial { state with
          scope := fits_of_mem_withSlot state.scope nofun
          cells := fun c inside => ?_ }
        rcases Array.mem_push.mp inside with inside | rfl
        · exact state.cells c inside
        · exact own v owned
  · unfold finalState
    rw [Follows.share?_apply]
    cases s.scope.find? (·.name = name) with
    | none => exact before
    | some x =>
      dsimp only
      cases x.slot <;> exact before

/-- What `this` stands for gets another value. -/
protected theorem setThis {this : Receiver} (fits : G → this.value.Fits k) :
    Keeps k G (fun _ => True) (modify fun s => { s with this := some this }) :=
  .modify (fun g _ state => { state with this := fun _ same => Option.mem_some.mp same ▸ fits g })
    fun _ before => before

end Variables

protected theorem say (r : Remark) : Keeps k G (fun _ => True) (say r) :=
  .modify (fun _ _ state => { state with }) fun _ before => before

end Keeps

end Run

/-! ## Judged calls -/

/-- A call of which all values are within caps. -/
structure Called.Fits (k : Caps) (c : Called) : Prop where
  answer : ∀ v, c.outcome = .ok v → v.Fits k
  stop : ∀ stop, c.outcome = .error stop → stop.Fits k
  target : FitsIfAny k c.target

namespace Called.Fits

theorem ok {v : Value} {target : Option Value} (fits : v.Fits k) (after : FitsIfAny k target) :
    Called.Fits k ⟨.ok v, target⟩ :=
  ⟨fun _ same => Except.ok.inj same ▸ fits, nofun, after⟩

theorem error {stop : Stop} {target : Option Value} (fits : stop.Fits k) (after : FitsIfAny k target) :
    Called.Fits k ⟨.error stop, target⟩ :=
  ⟨nofun, fun _ same => Except.error.inj same ▸ fits, after⟩

theorem fault {cause : ErrorCause} (p : Option Position) (plain : ∀ v, cause ≠ .thrown v)
    {target : Option Value} (after : FitsIfAny k target) :
    Called.Fits k ⟨.error (.fault (.plain cause p)), target⟩ :=
  .error (fun v same => (plain v same).elim) after

/-- A call that is refused, and changes nothing. -/
theorem refused {cause : ErrorCause} {p : Option Position} (plain : ∀ v, cause ≠ .thrown v) :
    (Called.fault cause p).Fits k := .fault p plain .none

end Called.Fits

theorem ErrorCause.unknownCall_ne_thrown {name : String} {args : List Value} :
    ∀ v, unknownCall name args ≠ .thrown v := fun _ same => by cases same

namespace Run.Keeps

variable {G : Prop} {c : Called}

protected theorem finish (fits : G → c.Fits k) : Keeps k G (Value.Fits k) c.finish := by
  unfold Called.finish
  cases ended : c.outcome with
  | ok v => exact .pure fun g => (fits g).answer v ended
  | error stop => exact .throw fun g => (fits g).stop stop ended

protected theorem guard {m : Run Called} (h : Keeps k G (Called.Fits k) m) :
    Keeps k G (Called.Fits k) (Called.guard m) := by
  rw [Called.guard_eq_andThen]
  exact .andThen h (fun _ => .pure And.right) fun _ => .pure fun g => .error g.2 .none

/-- A call exceeds a limit, or all its values are within caps. -/
protected theorem noted (judged : G → c.Fits k ∨ c.Exceeds) : Keeps k G (Called.Fits k) c.noted := by
  have kept (s : State) (before : s.exceeded = true) : (finalState c.noted s).exceeded = true := by
    rcases Follows.noted_cases c with ⟨e, same⟩ | same
    · unfold finalState
      rw [same]
      exact Bool.or_eq_true_iff.mpr (.inl before)
    · unfold finalState
      rw [same]
      exact before
  refine ⟨fun g s state => ?_, kept⟩
  rcases judged g with fits | ⟨e, ended, limit⟩
  · refine .inr ?_
    rcases Follows.noted_cases c with ⟨e, same⟩ | same
    · rw [same]
      exact .ok fits { state with }
    · rw [same]
      exact .ok fits state
  · refine .inl ?_
    unfold finalState Called.noted
    rw [ended]
    exact Bool.or_eq_true_iff.mpr (.inr limit)

protected theorem ofResult (p : Option Position) {sized : Bool} {r : Except ErrorCause Value}
    (built : G → ResultBuilt k sized r) : Keeps k G (Value.Built k sized) (ofResult p r) := by
  cases r with
  | ok v => exact .pure fun g => built g
  | error cause => exact .raise fun g v same => (built g v same).elim

end Run.Keeps

end ScriptGate.Script
