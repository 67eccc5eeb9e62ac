import ScriptGate.Proofs.Script.Measure.Part
import ScriptGate.Proofs.Script.Measure.Run

/-!
# Calls that keep within caps

Each rule of evaluation keeps within caps if the evaluator that it is given does (`Eval.Keeps`), in surroundings
that see to the caps and whose functions keep within them. Here are the rules for sequences and for calls. What a
library function does is judged, and if it is found to be too large, the run notes that (`Called.judged_look`,
`Called.judged_change`).
-/

namespace ScriptGate.Script

variable {k : Caps}

/-! ## Surroundings -/

/-- Surroundings that see to caps, and whose functions keep within them. -/
structure Env.Fits (k : Caps) (env : Env) : Prop where
  kept : k.KeptBy env.settings
  functions : ∀ f ∈ env.functions, f.measured k = true

/-- Whether a task keeps within caps. -/
def Task.measured (k : Caps) : Task → Bool
  | .expression e => e.measured k
  | .statement s => s.measured k

/-- An evaluator keeps within caps, in all surroundings that do and with all tasks that do. -/
def Eval.Keeps (k : Caps) (ev : Eval) : Prop :=
  ∀ {G : Prop} {env : Env} (task : Task), (G → env.Fits k) → (G → task.measured k = true) →
    Run.Keeps k G (Value.Fits k) (ev env task)

/-- A way to call library functions keeps within caps. -/
def Native.Keeps (k : Caps) (native : Native) : Prop :=
  ∀ {G : Prop} {env : Env} (name : String) {args : List Value} (p : Option Position), (G → env.Fits k) →
    (G → ∀ v ∈ args, v.Fits k) → Run.Keeps k G (Called.Fits k) (native env name args p)

namespace Env.Fits

variable {env : Env} (fits : env.Fits k)

include fits

theorem room : k.holdsText Value.anonymous = true := fits.kept.holdsText (by decide)

/-- Every character is within the cap on texts. -/
theorem charRoom (c : Char) : k.holdsText c.toString = true := by
  refine fits.kept.holdsText ?_
  change (String.singleton c).utf8ByteSize ≤ 5
  rw [String.utf8ByteSize_singleton]
  exact Nat.le_succ_of_le c.utf8Size_le_four

theorem inside : { env with atTop := false }.Fits k := ⟨fits.kept, fits.functions⟩

theorem deeper (levels : Nat) : { env with level := env.level + levels }.Fits k := ⟨fits.kept, fits.functions⟩

theorem find? {name : String} {arity : Nat} {f : Function} (found : env.functions.find? name arity = some f) :
    measuredBody k f.body = true :=
  (Bool.and_eq_true_iff.mp (fits.functions f (List.mem_of_find?_eq_some found))).2

theorem functionNamed? {name : String} {v : Value} (found : Script.functionNamed? env name = some v) :
    v.Fits k := by
  unfold Script.functionNamed? at found
  split at found
  · next defined =>
    cases found
    obtain ⟨f, inside, same⟩ := List.any_eq_true.mp defined
    have held := (Bool.and_eq_true_iff.mp (fits.functions f inside)).1
    rw [of_decide_eq_true same] at held
    exact .named held
  · cases found

end Env.Fits

/-! ## Faults and judgements -/

theorem Error.Fits.of_cause {e e' : Error} (fits : e.Fits k) (same : e'.cause = e.cause) : e'.Fits k :=
  fun v thrown => fits v (same.symm.trans thrown)

theorem Error.cause_atPlace (p : Option Position) (e : Error) : (e.atPlace p).cause = e.cause := by
  cases e <;> rfl

/-- A size that is not found too large is allowed. -/
theorem Run.allowed_of_sizeFault? {env : Env} {size : Value.Size} {p : Option Position}
    (none : sizeFault? env size p = none) : size.Allowed env.settings :=
  allowed_of_excess? (Option.map_eq_none_iff.mp none)

theorem Run.isLimit_of_sizeFault? {env : Env} {size : Value.Size} {p : Option Position} {e : Error}
    (found : sizeFault? env size p = some e) : e.isLimit = true := by
  obtain ⟨what, -, rfl⟩ := Option.map_eq_some_iff.mp found
  rfl

namespace Called

variable {env : Env} (p : Option Position)

variable (env) in
/-- A value that is judged passes with an allowed size, and so does the first argument. -/
theorem judge_cases (first : Option Value) (v : Value) :
    (∃ e, judge env p first (.ok v) = .error (.fault e) ∧ e.isLimit = true) ∨
      judge env p first (.ok v) = .ok v ∧ v.size.Allowed env.settings ∧
        ∀ w, first = some w → w.size.Allowed env.settings := by
  unfold judge
  cases first with
  | none =>
    dsimp only [Option.map_none, Option.bind_none]
    cases found : Run.sizeFault? env v.size p with
    | some e => exact .inl ⟨e, rfl, Run.isLimit_of_sizeFault? found⟩
    | none => exact .inr ⟨rfl, Run.allowed_of_sizeFault? found, nofun⟩
  | some w =>
    dsimp only [Option.map_some, Option.bind_some]
    cases before : Run.sizeFault? env w.size p with
    | some e => exact .inl ⟨e, rfl, Run.isLimit_of_sizeFault? before⟩
    | none =>
        cases found : Run.sizeFault? env v.size p with
      | some e => exact .inl ⟨e, rfl, Run.isLimit_of_sizeFault? found⟩
      | none =>
        exact .inr ⟨rfl, Run.allowed_of_sizeFault? found, fun _ same =>
          Option.some.inj same ▸ Run.allowed_of_sizeFault? before⟩

variable (kept : k.KeptBy env.settings) {r : Except ErrorCause Value} (result : ResultBuilt k false r)

include kept result

/-- An answer that changes nothing is within caps once it is judged. -/
theorem judged_look (first : Option Value) :
    Called.Fits k ⟨judge env p first r, none⟩ ∨ Called.Exceeds ⟨judge env p first r, none⟩ := by
  cases r with
  | error cause => exact .inl (.fault p result .none)
  | ok v =>
    rcases judge_cases env p first v with ⟨e, same, limit⟩ | ⟨same, allowed, -⟩
    · exact .inr ⟨e, same, limit⟩
    · rw [same]
      exact .inl (.ok (result.fits kept allowed) .none)

/-- What becomes of the first argument is within caps too. -/
theorem judged_change {target : Value} (built : target.Built k false)
    (refused : ∀ cause, r = .error cause → target.Fits k) :
    Called.Fits k ⟨judge env p (some target) r, some target⟩ ∨
      Called.Exceeds ⟨judge env p (some target) r, some target⟩ := by
  cases r with
  | error cause => exact .inl (.fault p result (.some (refused cause rfl)))
  | ok v =>
    rcases judge_cases env p (some target) v with ⟨e, same, limit⟩ | ⟨same, allowed, first⟩
    · exact .inr ⟨e, same, limit⟩
    · rw [same]
      exact .inl (.ok (result.fits kept allowed) (.some (built.fits kept (first target rfl))))

omit result in
theorem judged_effect (args : List Value) {effect : Effect} (built : effect.Built k) :
    (ofEffect env p args effect).Fits k ∨ (ofEffect env p args effect).Exceeds := by
  cases built with
  | answer result => exact judged_look p kept result none
  | look result => exact judged_look p kept result args.head?
  | change result built refused => exact judged_change p kept result built refused

end Called

namespace Eval

variable {ev : Eval} {env : Env} {G : Prop}

/-! ## Sequences -/

namespace Keeps

variable (h : Eval.Keeps k ev) (w : G → env.Fits k)

include h w

protected theorem statements (body : List Statement) (measured : G → measuredBody k body = true) :
    Run.Keeps k G (Value.Fits k) (statements ev env body) := by
  induction body generalizing G with
  | nil => exact .pure fun _ => .flat rfl
  | cons first rest ih =>
    have here (g : G) := Bool.and_eq_true_iff.mp (measured g)
    cases rest with
    | nil => exact h (.statement first) w fun g => (here g).1
    | cons =>
      exact .bind (h (.statement first) w fun g => (here g).1) fun _ =>
        ih (fun g => w g.1) fun g => (here g.1).2

protected theorem block (body : List Statement) (measured : G → measuredBody k body = true) :
    Run.Keeps k G (Value.Fits k) (block ev env body) :=
  .inBlock (Keeps.statements h (fun g => (w g).inside) body measured)

protected theorem arguments (es : List Expr) (measured : G → measuredAll k es = true) :
    Run.Keeps k G (fun vs => ∀ v ∈ vs, v.Fits k) (arguments ev env es) := by
  induction es generalizing G with
  | nil => exact .pure fun _ => List.forall_mem_nil _
  | cons e rest ih =>
    have here (g : G) := Bool.and_eq_true_iff.mp (measured g)
    exact .bind (h (.expression e) w fun g => (here g).1) fun v =>
      .bind (ih (fun g => w g.1) fun g => (here g.1).2) fun vs =>
        .pure fun g => List.forall_mem_cons.mpr ⟨g.1.2, g.2⟩

protected theorem condition (e : Expr) (measured : G → e.measured k = true) :
    Run.Keeps k G (fun _ => True) (condition ev env e) := by
  refine .bind (h (.expression e) w measured) fun v => ?_
  split
  · exact .pure fun _ => trivial
  · exact .fail _ nofun

/-! ## Functions of the script -/

omit h w in
theorem fits_leave {f : Function} {p : Option Position} {r : Except Stop Value × Option Value}
    (settled : Run.Settled k (Value.Fits k) r) : Called.Fits k ⟨leave f p r.1, r.2⟩ := by
  obtain ⟨result, this⟩ := r
  cases result with
  | ok v => exact .ok (settled.ok v rfl) settled.this
  | error stop =>
    have fits := settled.error stop rfl
    cases stop with
    | fault e =>
      refine .error ?_ settled.this
      split
      · exact Error.Fits.of_cause fits (e.cause_atPlace p)
      · exact fits
    | giveBack v => exact .ok fits settled.this
    | leave v => exact .error fits settled.this
    | exit v => exact .error fits settled.this
    | next => exact .error trivial settled.this

omit h w in
theorem fits_bind {f : Function} {args : List Slot} (all : ∀ slot ∈ args, slot.Fits k) :
    ∀ x ∈ bind f args, x.slot.Fits k := by
  intro x inside
  obtain ⟨⟨name, slot⟩, paired, rfl⟩ := List.mem_map.mp (List.mem_reverse.mp inside)
  exact all slot (List.of_mem_zip paired).2

protected theorem callFunction (f : Function) (args : List Slot) (this : Option Receiver) (p : Option Position)
    (measured : G → measuredBody k f.body = true) (all : G → ∀ slot ∈ args, slot.Fits k)
    (held : G → ∀ r ∈ this, r.value.Fits k) :
    Run.Keeps k G (Called.Fits k) (callFunction ev env f args this p) := by
  refine .bind (.tick p env) fun _ => ?_
  dsimp only
  split
  · exact .noted fun _ => .inr ⟨_, rfl, rfl⟩
  · refine .bind (.inFrame (fun g => ⟨fits_bind (all g.1), held g.1⟩)
      (Keeps.statements h (fun g => ((w g.1).deeper 1).inside) f.body fun g => measured g.1)) fun r => ?_
    exact .pure fun g => fits_leave g.2

protected theorem callByName (f : Function) (args : List Value) (this : Option Receiver) (p : Option Position)
    (measured : G → measuredBody k f.body = true) (all : G → ∀ v ∈ args, v.Fits k)
    (held : G → ∀ r ∈ this, r.value.Fits k) :
    Run.Keeps k G (Called.Fits k) (callByName ev env f args this p) := by
  unfold callByName
  split
  · exact .pure fun _ => .ok (.flat rfl) .none
  · refine Keeps.callFunction h w f _ this p measured (fun g slot inside => ?_) held
    obtain ⟨v, there, rfl⟩ := List.mem_map.mp inside
    exact .own (all g v there)

/-! ## Function values -/

protected theorem callPointerWith {native : Native} (library : native.Keeps k) (callee : Value)
    (args : List Value) (this : Option Receiver) (p : Option Position) (fits : G → callee.Fits k)
    (all : G → ∀ v ∈ args, v.Fits k) (held : G → ∀ r ∈ this, r.value.Fits k) :
    Run.Keeps k G (Called.Fits k) (callPointerWith ev native env callee args this p) := by
  have both {bound : List Value} (bounds : G → ∀ v ∈ bound, v.Fits k) (g : G) : ∀ v ∈ bound ++ args, v.Fits k :=
    fun v inside => (List.mem_append.mp inside).elim (bounds g v) (all g v)
  unfold callPointerWith
  split
  · next name f cells bound =>
    split
    · refine Keeps.callFunction h w f _ this p (fun g => (fits g).body f rfl) (fun g slot inside => ?_) held
      rcases List.mem_append.mp inside with inside | inside
      · obtain ⟨cell, -, rfl⟩ := List.mem_map.mp inside
        exact fun _ same => nomatch same
      · obtain ⟨v, there, rfl⟩ := List.mem_map.mp inside
        exact .own (both (fun g => (fits g).bound) g v there)
    · exact .pure fun _ => .refused ErrorCause.unknownCall_ne_thrown
  · next name cells bound =>
    dsimp only
    split
    · next f found =>
      exact Keeps.callByName h w f _ this p (fun g => (w g).find? found) (both fun g => (fits g).bound) held
    · refine library _ p w fun g v inside => ?_
      rcases List.mem_append.mp inside with inside | inside
      · obtain ⟨r, same, rfl⟩ := Option.map_eq_some_iff.mp (Option.mem_toList.mp inside)
        exact held g r same
      · exact both (fun g => (fits g).bound) g v inside
  · exact .pure fun _ => .refused nofun

end Keeps

/-! ## Library functions -/

theorem isLimit_of_oversized? {p : Option Position} {name : String} {args : List Value} {e : Error}
    (found : oversized? env p name args = some e) : e.isLimit = true := by
  unfold oversized? at found
  split at found
  · exact Run.isLimit_of_sizeFault? found
  · exact Run.isLimit_of_sizeFault? found
  · cases found

theorem notFound_ne_thrown {name : String} {args : List Value} : ∀ v, notFound name args ≠ .thrown v := by
  intro v same
  unfold notFound at same
  split at same <;> cases same

theorem keeps_answer (name : String) {args : List Value} (p : Option Position) (w : G → env.Fits k)
    (all : G → ∀ v ∈ args, v.Fits k) :
    Run.Keeps k G (Called.Fits k) (answer env name args p >>= Called.noted) := by
  have plain {m : Run Called} (h : Run.Keeps k G (Called.Fits k) m) :
      Run.Keeps k G (Called.Fits k) (m >>= Called.noted) := .bind h fun c => .noted fun g => .inl g.2
  have said (r : Remark) : Run.Keeps k G (Called.Fits k) (Run.say r >>= fun _ => pure (.answer .unit)) :=
    .bind (.say r) fun _ => .pure fun _ => .ok (.flat rfl) .none
  unfold answer
  split
  · exact plain (said _)
  · exact plain (said _)
  · exact plain (said _)
  · exact plain (said _)
  · exact plain (.throw fun _ => .flat rfl)
  · next v => exact plain (.throw fun g => all g v (by simp))
  · split
    · next e found =>
      simp only [pure_bind]
      exact .noted fun _ => .inr ⟨e, rfl, isLimit_of_oversized? found⟩
    · split
      · next effect found =>
        simp only [pure_bind]
        exact .noted fun g => Called.judged_effect p (w g).kept args (Library.built_effect? (all g) found)
      · exact plain (.pure fun _ => .refused notFound_ne_thrown)

theorem keeps_callPlain : Native.Keeps k callPlain := by
  intro G env name args p w all
  unfold callPlain
  split
  · exact .bind (.tick p env) fun _ => keeps_answer name p (fun g => w g.1) fun g => all g.1
  · exact keeps_answer name p w all

end Eval

end ScriptGate.Script
