import ScriptGate.Proofs.Script.Follow
import ScriptGate.Proofs.Script.Mirror.Part

/-!
# Runs that mirror other runs

A run mirrors another one if it does the same up to places, from any state that mirrors the other
one's (`Run.Mirrors`). The run that is mirrored may have a lead: operations that it took before. Then it
may exceed the budget where its mirror does not, so nothing is said of a run with a lead that exceeds a
limit. As with runs that follow others (`Run.Follows`), mirroring goes on through whatever is put
together out of runs.
-/

namespace ScriptGate.Script

/-! ## Data that mirrors other data -/

/-- Whether all bodies in something are plain. -/
def Plain (constants : Bool) {α : Type} [Castable α] (a : α) : Prop :=
  recast (.cleaned constants) a = a

/-- Something is what something plain is without its places. -/
structure Mirrors (constants : Bool) {α : Type} [Castable α] (a a' : α) : Prop where
  bare : a' = recast .bare a
  plain : Plain constants a

instance : Castable Slot where
  recast c
    | .own v => .own (recast c v)
    | .shared cell => .shared cell

instance : Castable Variable := ⟨fun c x => ⟨x.name, recast c x.slot, recast c x.made⟩⟩
instance : Castable Cell := ⟨fun c x => ⟨recast c x.value, recast c x.made⟩⟩
instance : Castable Receiver := ⟨fun c x => ⟨recast c x.value, recast c x.made⟩⟩
instance : Castable Env := ⟨fun c env => { env with functions := recast c env.functions }⟩

instance : Castable Stop where
  recast c
    | .fault e => .fault (recast c e)
    | .leave v => .leave (recast c v)
    | .next => .next
    | .giveBack v => .giveBack (recast c v)
    | .exit v => .exit (recast c v)

section Data

variable {constants : Bool} {α β : Type} [Castable α] [Castable β]

namespace Mirrors

/-- What holds no bodies and no places mirrors itself. -/
theorem refl_of {a : α} (fixed : ∀ c, recast c a = a) : Mirrors constants a a :=
  ⟨(fixed _).symm, fixed _⟩

theorem bool (b : Bool) : Mirrors constants b b := ⟨rfl, rfl⟩
theorem nat (n : Nat) : Mirrors constants n n := ⟨rfl, rfl⟩
theorem unit (u : Unit) : Mirrors constants u u := ⟨rfl, rfl⟩
theorem string (s : String) : Mirrors constants s s := ⟨rfl, rfl⟩

/-- Whatever does the same under all changes of bodies and places mirrors. -/
theorem natural {f : α → β} (same : ∀ c a, f (recast c a) = recast c (f a)) {a a' : α}
    (h : Mirrors constants a a') : Mirrors constants (f a) (f a') := by
  obtain ⟨rfl, plain⟩ := h
  exact ⟨same _ a, (same _ a).symm.trans (congrArg f plain)⟩

/-- Whatever does the same to two things under all changes mirrors. -/
theorem natural₂ {γ : Type} [Castable γ] {f : α → β → γ}
    (same : ∀ c a b, f (recast c a) (recast c b) = recast c (f a b)) {a a' : α} {b b' : β}
    (ha : Mirrors constants a a') (hb : Mirrors constants b b') :
    Mirrors constants (f a b) (f a' b') := by
  obtain ⟨rfl, plain⟩ := ha
  obtain ⟨rfl, plain'⟩ := hb
  exact ⟨same _ a b, (same _ a b).symm.trans (congrArg₂ f plain plain')⟩

/-- Whatever looks at neither bodies nor places sees the same. -/
theorem eq_of {γ : Type} {f : α → γ} (same : ∀ c a, f (recast c a) = f a) {a a' : α}
    (h : Mirrors constants a a') : f a' = f a := by
  rw [h.bare]
  exact same _ a

/-! ### Options, pairs and lists -/

protected theorem none : Mirrors constants (none : Option α) none := ⟨rfl, rfl⟩

protected theorem some {a a' : α} (h : Mirrors constants a a') :
    Mirrors constants (some a) (some a') :=
  ⟨congrArg some h.bare, congrArg some h.plain⟩

/-- An option mirrors another one in one of two ways. -/
theorem option_cases {a a' : Option α} (h : Mirrors constants a a') :
    a = .none ∧ a' = .none ∨ ∃ b b', a = .some b ∧ a' = .some b' ∧ Mirrors constants b b' := by
  obtain ⟨rfl, plain⟩ := h
  cases a with
  | none => exact .inl ⟨rfl, rfl⟩
  | some b => exact .inr ⟨b, _, rfl, rfl, rfl, Option.some.inj plain⟩

theorem isSome_eq {a a' : Option α} (h : Mirrors constants a a') : a'.isSome = a.isSome := by
  rw [h.bare]
  exact Option.isSome_map

theorem pair {a a' : α} {b b' : β} (ha : Mirrors constants a a') (hb : Mirrors constants b b') :
    Mirrors constants (a, b) (a', b') :=
  ⟨Prod.ext ha.bare hb.bare, Prod.ext ha.plain hb.plain⟩

theorem fst {p p' : α × β} (h : Mirrors constants p p') : Mirrors constants p.1 p'.1 :=
  ⟨congrArg Prod.fst h.bare, congrArg Prod.fst h.plain⟩

theorem snd {p p' : α × β} (h : Mirrors constants p p') : Mirrors constants p.2 p'.2 :=
  ⟨congrArg Prod.snd h.bare, congrArg Prod.snd h.plain⟩

protected theorem nil : Mirrors constants ([] : List α) [] := ⟨rfl, rfl⟩

protected theorem cons {a a' : α} {as as' : List α} (ha : Mirrors constants a a')
    (has : Mirrors constants as as') : Mirrors constants (a :: as) (a' :: as') :=
  ⟨congrArg₂ List.cons ha.bare has.bare, congrArg₂ List.cons ha.plain has.plain⟩

/-- A list mirrors another one in one of two ways. -/
theorem list_cases {as as' : List α} (h : Mirrors constants as as') :
    as = [] ∧ as' = [] ∨ ∃ a a' rest rest', as = a :: rest ∧ as' = a' :: rest' ∧
      Mirrors constants a a' ∧ Mirrors constants rest rest' := by
  obtain ⟨rfl, plain⟩ := h
  cases as with
  | nil => exact .inl ⟨rfl, rfl⟩
  | cons a rest =>
    exact .inr ⟨a, _, rest, _, rfl, rfl, ⟨rfl, (List.cons.inj plain).1⟩,
      ⟨rfl, (List.cons.inj plain).2⟩⟩

theorem append {as as' bs bs' : List α} (ha : Mirrors constants as as')
    (hb : Mirrors constants bs bs') : Mirrors constants (as ++ bs) (as' ++ bs') := by
  obtain ⟨rfl, plain⟩ := ha
  obtain ⟨rfl, plain'⟩ := hb
  exact ⟨List.map_append.symm, List.map_append.trans (congrArg₂ (· ++ ·) plain plain')⟩

theorem reverse {as as' : List α} (h : Mirrors constants as as') :
    Mirrors constants as.reverse as'.reverse :=
  h.natural fun _ _ => List.map_reverse.symm

theorem drop (n : Nat) {as as' : List α} (h : Mirrors constants as as') :
    Mirrors constants (as.drop n) (as'.drop n) :=
  h.natural fun _ _ => List.map_drop.symm

theorem length_eq {as as' : List α} (h : Mirrors constants as as') : as'.length = as.length :=
  h.eq_of fun _ _ => List.length_map _

theorem ok {b b' : β} (h : Mirrors constants b b') :
    Mirrors constants (.ok b : Except α β) (.ok b') :=
  ⟨congrArg Except.ok h.bare, congrArg Except.ok h.plain⟩

theorem error {a a' : α} (h : Mirrors constants a a') :
    Mirrors constants (.error a : Except α β) (.error a') :=
  ⟨congrArg Except.error h.bare, congrArg Except.error h.plain⟩

/-- A result mirrors another one in one of two ways. -/
theorem except_cases {r r' : Except α β} (h : Mirrors constants r r') :
    (∃ b b', r = .ok b ∧ r' = .ok b' ∧ Mirrors constants b b') ∨
      ∃ a a', r = .error a ∧ r' = .error a' ∧ Mirrors constants a a' := by
  obtain ⟨rfl, plain⟩ := h
  cases r with
  | ok b => exact .inl ⟨b, _, rfl, rfl, rfl, Except.ok.inj plain⟩
  | error a => exact .inr ⟨a, _, rfl, rfl, rfl, Except.error.inj plain⟩

/-! ### Places -/

theorem place (p : Position) : Mirrors constants p .start := ⟨rfl, rfl⟩

theorem at_ (p : Position) : Mirrors constants (some p) (some .start) := ⟨rfl, rfl⟩

theorem nowhere : Mirrors constants (none : Option Position) none := ⟨rfl, rfl⟩

end Mirrors

end Data

/-! ## States -/

/-- What a run finds when it begins and leaves as it is: whether `this` stands for anything, and the names
of variables in reach. -/
structure Ground where
  hasThis : Bool
  names : List String

/-- A state is what another one is without its places, but for what was said. Where the constants of
the run may not be read they do not count. `lead` is how many operations more the mirrored run took. -/
structure State.Mirrors (constants : Bool) (lead : Nat) (ground : Ground) (s s' : State) : Prop where
  scope : Script.Mirrors constants s.scope s'.scope
  this : Script.Mirrors constants s.this s'.this
  hasThis : s.this.isSome = ground.hasThis
  names : ground.names <:+ s.scope.map Variable.name
  cells : Script.Mirrors constants s.cells s'.cells
  operations : s.operations = s'.operations + lead
  constants : constants = true → Script.Mirrors constants s.constants s'.constants
  exceeded : s'.exceeded = s.exceeded

namespace Run

variable {constants : Bool} {lead : Nat} {ground : Ground} {α β γ δ : Type}

/-- The end of a run mirrors that of another one. -/
inductive Ends (constants : Bool) (lead : Nat) (ground : Ground) (R : α → β → Prop) :
    EStateM.Result Stop State α → EStateM.Result Stop State β → Prop where
  | ok {a : α} {b : β} {s s' : State} (result : R a b) (state : s.Mirrors constants lead ground s') :
    Ends constants lead ground R (.ok a s) (.ok b s')
  | error {stop stop' : Stop} {s s' : State} (cause : Script.Mirrors constants stop stop')
    (state : s.Mirrors constants lead ground s') :
    Ends constants lead ground R (.error stop s) (.error stop' s')

/-- From states that mirror each other a run ends as another one does, `R` says with which results. Only
where the run that is mirrored has a lead and exceeds a limit the other one may end in another way. -/
structure Mirrors (constants : Bool) (lead : Nat) (ground : Ground) (R : α → β → Prop) (m : Run α)
    (m' : Run β) : Prop where
  same : ∀ {s s'}, s.Mirrors constants lead ground s' → ∃ r', Ends constants lead ground R (m s) r' ∧
    (m' s' = r' ∨ 0 < lead ∧ (finalState m s).exceeded = true)
  kept : ∀ {s s'}, s.Mirrors constants lead ground s' → s.exceeded = true →
    (finalState m s).exceeded = true

namespace Mirrors

variable {R : α → β → Prop} {S : γ → δ → Prop} {m : Run α} {m' : Run β}

/-- What ends alike without a look at limits. -/
theorem exact_of
    (same : ∀ {s s'}, s.Mirrors constants lead ground s' → Ends constants lead ground R (m s) (m' s'))
    (kept : ∀ s, s.exceeded = true → (finalState m s).exceeded = true) :
    Mirrors constants lead ground R m m' :=
  ⟨fun states => ⟨_, same states, .inl rfl⟩, fun _ => kept _⟩

/-! ### Runs put together -/

protected theorem pure {a : α} {b : β} (h : R a b) :
    Mirrors constants lead ground R (Pure.pure a) (Pure.pure b) :=
  exact_of (fun states => .ok h states) fun _ h => h

protected theorem throw {stop stop' : Stop} (h : Script.Mirrors constants stop stop') :
    Mirrors constants lead ground R (MonadExcept.throw stop) (MonadExcept.throw stop') :=
  exact_of (fun states => .error h states) fun _ h => h

protected theorem get :
    Mirrors constants lead ground (State.Mirrors constants lead ground) MonadState.get MonadState.get :=
  exact_of (fun states => .ok states states) fun _ h => h

protected theorem modify {f f' : State → State}
    (h : ∀ {s s'}, s.Mirrors constants lead ground s' → (f s).Mirrors constants lead ground (f' s'))
    (kept : ∀ s, s.exceeded = true → (f s).exceeded = true) :
    Mirrors constants lead ground (Script.Mirrors constants) (modify f : Run Unit) (modify f') :=
  exact_of (fun states => .ok ⟨rfl, rfl⟩ (h states)) kept

/-- Where `this` stands for something, something else may be put there. -/
protected theorem setThis {s s' : State} (states : s.Mirrors constants lead ground s') {this : Receiver}
    (held : s.this = some this) {r r' : Receiver} (receivers : Script.Mirrors constants r r') :
    Mirrors constants lead ground (Script.Mirrors constants)
      (modify fun s => { s with this := some r } : Run Unit)
      (modify fun s => { s with this := some r' }) := by
  have there : true = ground.hasThis := by
    rw [← states.hasThis, held]
    rfl
  exact .modify (fun later => { later with this := .some receivers, hasThis := there }) fun _ h => h

protected theorem andThen {enter enter' : State → State} {ok : State → α → Run γ}
    {ok' : State → β → Run δ} {stop : State → Stop → Run γ} {stop' : State → Stop → Run δ}
    (entered : ∀ {s s'}, s.Mirrors constants lead ground s' →
      (enter s).Mirrors constants lead ground (enter' s'))
    (entersKept : ∀ s, s.exceeded = true → (enter s).exceeded = true)
    (h : Mirrors constants lead ground R m m')
    (onOk : ∀ {s s'}, s.Mirrors constants lead ground s' → ∀ {a b}, R a b →
      Mirrors constants lead ground S (ok s a) (ok' s' b))
    (onStop : ∀ {s s'}, s.Mirrors constants lead ground s' → ∀ {e e'}, Script.Mirrors constants e e' →
      Mirrors constants lead ground S (stop s e) (stop' s' e')) :
    Mirrors constants lead ground S (andThen enter m ok stop) (Run.andThen enter' m' ok' stop') := by
  constructor
  · intro s s' states
    obtain ⟨r', ends, said⟩ := h.same (entered states)
    unfold finalState at said ⊢
    unfold Run.andThen
    -- What comes after a limit does not forget it, so a limit in the first part settles the whole.
    cases ended : m (enter s) with
    | ok a t =>
      rw [ended] at ends said
      cases ends with
      | ok result state =>
        obtain ⟨r'', ends, saidThen⟩ := (onOk states result).same state
        refine ⟨r'', ends, ?_⟩
        rcases said with same | ⟨ahead, before⟩
        · rw [same]
          exact saidThen
        · exact .inr ⟨ahead, (onOk states result).kept state before⟩
    | error e t =>
      rw [ended] at ends said
      cases ends with
      | error cause state =>
        obtain ⟨r'', ends, saidThen⟩ := (onStop states cause).same state
        refine ⟨r'', ends, ?_⟩
        rcases said with same | ⟨ahead, before⟩
        · rw [same]
          exact saidThen
        · exact .inr ⟨ahead, (onStop states cause).kept state before⟩
  · intro s s' states before
    obtain ⟨r', ends, -⟩ := h.same (entered states)
    have between := h.kept (entered states) (entersKept s before)
    unfold finalState at between ⊢
    unfold Run.andThen
    cases ended : m (enter s) with
    | ok a t =>
      rw [ended] at ends between
      cases ends with
      | ok result state => exact (onOk states result).kept state between
    | error e t =>
      rw [ended] at ends between
      cases ends with
      | error cause state => exact (onStop states cause).kept state between

protected theorem bind {f : α → Run γ} {f' : β → Run δ} (h : Mirrors constants lead ground R m m')
    (further : ∀ {a b}, R a b → Mirrors constants lead ground S (f a) (f' b)) :
    Mirrors constants lead ground S (m >>= f) (m' >>= f') := by
  rw [bind_eq_andThen, bind_eq_andThen]
  exact .andThen (fun states => states) (fun _ h => h) h (fun _ _ _ result => further result)
    fun _ _ _ cause => .throw cause

/-- A run whose state is put in order at its end. Before that it may find and leave more than is left in
the end. -/
theorem settled (inner : State → Ground) (settle settle' : State → State → State)
    (entered : ∀ {s s' : State}, s.Mirrors constants lead ground s' →
      s.Mirrors constants lead (inner s) s')
    (left : ∀ {s s' t t' : State}, s.Mirrors constants lead ground s' →
      t.Mirrors constants lead (inner s) t' →
        (settle s t).Mirrors constants lead ground (settle' s' t'))
    (kept : ∀ s t, t.exceeded = true → (settle s t).exceeded = true)
    (runs : ∀ s, Mirrors constants lead (inner s) R m m') :
    Mirrors constants lead ground R
      (Run.andThen (fun s => s) m (fun s a t => .ok a (settle s t)) fun s e t => .error e (settle s t))
      (Run.andThen (fun s => s) m' (fun s a t => .ok a (settle' s t))
        fun s e t => .error e (settle' s t)) := by
  constructor
  · intro s s' states
    obtain ⟨r', ends, said⟩ := (runs s).same (entered states)
    unfold finalState at said ⊢
    unfold Run.andThen
    cases ended : m s with
    | ok a t =>
      rw [ended] at ends said
      cases ends with
      | ok result later =>
        exact ⟨_, .ok result (left states later),
          said.imp (fun same => by rw [same]) (And.imp_right (kept s t))⟩
    | error e t =>
      rw [ended] at ends said
      cases ends with
      | error cause later =>
        exact ⟨_, .error cause (left states later),
          said.imp (fun same => by rw [same]) (And.imp_right (kept s t))⟩
  · intro s s' states before
    have between := (runs s).kept (entered states) before
    unfold finalState at between ⊢
    unfold Run.andThen
    cases ended : m s with
    | ok a t =>
      rw [ended] at between
      exact kept s t between
    | error e t =>
      rw [ended] at between
      exact kept s t between

/-- A block finds all variables that are there when it begins, and only those are left. -/
protected theorem inBlock
    (h : ∀ names, Mirrors constants lead { ground with names := names } R m m') :
    Mirrors constants lead ground R (inBlock m) (inBlock m') := by
  refine settled (fun s => { ground with names := s.scope.map Variable.name })
    (fun s t => { t with scope := t.scope.drop (t.scope.length - s.scope.length) })
    (fun s t => { t with scope := t.scope.drop (t.scope.length - s.scope.length) })
    (fun states => { states with names := List.suffix_refl _ })
    (fun {s _ t _} states later => ?_) (fun _ _ h => h) fun _ => h _
  refine { later with scope := ?_, names := ?_ }
  · dsimp only
    rw [later.scope.length_eq, states.scope.length_eq]
    exact later.scope.drop _
  · have rewound := List.suffix_iff_eq_drop.mp later.names
    rw [List.length_map, List.length_map, ← List.map_drop] at rewound
    dsimp only
    rw [← rewound]
    exact states.names

protected theorem aside (h : Mirrors constants lead ground R m m') :
    Mirrors constants lead ground R (aside m) (aside m') :=
  settled (fun _ => ground) (fun s t => { t with operations := s.operations })
    (fun s t => { t with operations := s.operations }) (fun states => states)
    (fun states later => { later with operations := states.operations }) (fun _ _ h => h) fun _ => h

/-- The body of a function has a `this` and variables of its own. -/
protected theorem inFrame [Castable α] {m m' : Run α} {locals locals' : List Variable}
    {this this' : Option Receiver} (atStart : Script.Mirrors constants locals locals')
    (on : Script.Mirrors constants this this')
    (h : Mirrors constants lead ⟨this.isSome, []⟩ (Script.Mirrors constants) m m') :
    Mirrors constants lead ground (Script.Mirrors constants) (inFrame locals this m)
      (inFrame locals' this' m') := by
  have entered {s s' : State} (states : s.Mirrors constants lead ground s') :
      ({ s with scope := locals, this := this } : State).Mirrors constants lead ⟨this.isSome, []⟩
        { s' with scope := locals', this := this' } :=
    { states with scope := atStart, this := on, hasThis := rfl, names := List.nil_suffix }
  have left {s s' t t' : State} (states : s.Mirrors constants lead ground s')
      (later : t.Mirrors constants lead ⟨this.isSome, []⟩ t') :
      ({ t with scope := s.scope, this := s.this } : State).Mirrors constants lead ground
        { t' with scope := s'.scope, this := s'.this } :=
    { later with
      scope := states.scope, this := states.this, hasThis := states.hasThis, names := states.names }
  have target {t t' : State} (later : t.Mirrors constants lead ⟨this.isSome, []⟩ t') :
      Script.Mirrors constants (t.this.map Receiver.value) (t'.this.map Receiver.value) :=
    later.this.natural fun c this => by cases this <;> rfl
  constructor
  · intro s s' states
    obtain ⟨r', ends, said⟩ := h.same (entered states)
    unfold finalState at said ⊢
    unfold Run.inFrame
    cases ended : m { s with scope := locals, this := this } with
    | ok a t =>
      rw [ended] at ends said
      cases ends with
      | ok result later =>
        exact ⟨_, .ok (.pair result.ok (target later)) (left states later),
          said.imp_left fun same => by rw [same]⟩
    | error e t =>
      rw [ended] at ends said
      cases ends with
      | error cause later =>
        exact ⟨_, .ok (.pair (.error cause) (target later)) (left states later),
          said.imp_left fun same => by rw [same]⟩
  · intro s s' states before
    have between := h.kept (entered states) before
    unfold finalState at between ⊢
    unfold Run.inFrame
    cases ended : m { s with scope := locals, this := this } with
    | ok a t =>
      rw [ended] at between
      exact between
    | error e t =>
      rw [ended] at between
      exact between

protected theorem turn {m m' : Run Value}
    (h : Mirrors constants lead ground (Script.Mirrors constants) m m') :
    Mirrors constants lead ground (Script.Mirrors constants) (turn m) (turn m') := by
  rw [turn_eq, turn_eq]
  refine .andThen (fun states => states) (fun _ h => h) h (fun _ _ _ _ => .pure .none)
    fun _ e e' cause => ?_
  obtain ⟨rfl, plain⟩ := cause
  cases e with
  | next => exact .pure .none
  | leave v => exact .pure (.some ⟨rfl, Stop.leave.inj plain⟩)
  | fault e => exact .throw ⟨rfl, plain⟩
  | giveBack v => exact .throw ⟨rfl, plain⟩
  | exit v => exact .throw ⟨rfl, plain⟩

/-! ### Faults and limits -/

protected theorem raise {e e' : Error} (h : Script.Mirrors constants e e') :
    Mirrors constants lead ground R (raise e) (raise e') := by
  have limit : e'.isLimit = e.isLimit := h.eq_of fun c e => by
    cases e with
    | plain cause p => cases cause <;> rfl
    | inCall => rfl
  refine exact_of (fun states => .error ?_ ?_) fun s before => Bool.or_eq_true_iff.mpr (.inl before)
  · exact ⟨congrArg Stop.fault h.bare, congrArg Stop.fault h.plain⟩
  · exact { states with exceeded := congrArg₂ (· || ·) states.exceeded limit }

/-- A fault without a value in it, at a place. -/
theorem plain_fault {cause : ErrorCause} (inert : ∀ c, recast c cause = cause) {p p' : Option Position}
    (places : Script.Mirrors constants p p') :
    Script.Mirrors constants (Error.plain cause p) (.plain cause p') :=
  ⟨congrArg₂ Error.plain (inert _).symm places.bare, congrArg₂ Error.plain (inert _) places.plain⟩

protected theorem fail {cause : ErrorCause} (inert : ∀ c, recast c cause = cause)
    {p p' : Option Position} (places : Script.Mirrors constants p p') :
    Mirrors constants lead ground R (fail cause p) (fail cause p') :=
  .raise (plain_fault inert places)

/-- A limit that only the run with a lead may exceed. -/
theorem fail_ahead {cause : ErrorCause} (inert : ∀ c, recast c cause = cause)
    (limit : cause.isLimit = true) {p p' : Option Position} (places : Script.Mirrors constants p p')
    (ahead : 0 < lead) (m' : Run β) : Mirrors constants lead ground R (fail cause p) m' := by
  have alike : Mirrors constants lead ground R (fail cause p) (fail cause p') := .fail inert places
  refine ⟨fun states => ?_, fun states => alike.kept states⟩
  obtain ⟨r', ends, -⟩ := alike.same states
  exact ⟨r', ends, .inr ⟨ahead, Bool.or_eq_true_iff.mpr (.inr limit)⟩⟩

protected theorem ofResult {p p' : Option Position} (places : Script.Mirrors constants p p')
    {r r' : Except ErrorCause Value} (h : Script.Mirrors constants r r') :
    Mirrors constants lead ground (Script.Mirrors constants) (ofResult p r) (ofResult p' r') := by
  rcases h.except_cases with ⟨v, v', rfl, rfl, values⟩ | ⟨cause, cause', rfl, rfl, causes⟩
  · exact .pure values
  · exact .raise ⟨congrArg₂ Error.plain causes.bare places.bare,
      congrArg₂ Error.plain causes.plain places.plain⟩

section Limits

variable {env env' : Env} (w : Script.Mirrors constants env env') {p p' : Option Position}
  (places : Script.Mirrors constants p p')

include w

theorem settings_eq : env'.settings = env.settings := w.eq_of fun _ _ => rfl
theorem patience_eq : env'.patience = env.patience := w.eq_of fun _ _ => rfl

include places

protected theorem tick :
    Mirrors constants lead ground (Script.Mirrors constants) (tick env p) (tick env' p') := by
  unfold tick
  rw [settings_eq w, patience_eq w]
  refine .bind .get fun {s s'} states => .bind (.modify (fun later =>
    { later with operations := ?_ }) fun _ h => h) fun _ => ?_
  · have := states.operations
    dsimp only
    omega
  · have taken := states.operations
    by_cases ahead : 0 < lead
    · split
      · exact fail_ahead (fun _ => rfl) rfl places ahead _
      · split
        · exact fail_ahead (fun _ => rfl) rfl .nowhere ahead _
        · rw [if_neg (by omega), if_neg (by omega)]
          exact .pure (.unit ())
    · have same : s'.operations = s.operations := by omega
      rw [same]
      split
      · exact .fail (fun _ => rfl) places
      · split
        · exact .fail (fun _ => rfl) .nowhere
        · exact .pure (.unit ())

theorem sizeFault? (size : Value.Size) :
    Script.Mirrors constants (Run.sizeFault? env size p) (Run.sizeFault? env' size p') := by
  unfold Run.sizeFault?
  rw [settings_eq w]
  cases excess? env.settings size with
  | none => exact .none
  | some what => exact .some (plain_fault (fun _ => rfl) places)

protected theorem checkSize (size : Value.Size) :
    Mirrors constants lead ground (Script.Mirrors constants) (checkSize env size p)
      (checkSize env' size p') := by
  unfold checkSize
  rcases (sizeFault? w places size).option_cases with ⟨none, none'⟩ | ⟨e, e', some, some', faults⟩
  · rw [none, none']
    exact .pure (.unit ())
  · rw [some, some']
    exact .raise faults

protected theorem checked {v v' : Value} (values : Script.Mirrors constants v v') :
    Mirrors constants lead ground (Script.Mirrors constants) (checked env p v) (checked env' p' v') := by
  unfold checked
  rw [values.eq_of Value.size_recast]
  exact .bind (.checkSize w places v.size) fun _ => .pure values

omit places in
/-- A loop mirrors another one turn by turn. -/
protected theorem turns {turn turn' : Run (Option Value)}
    (h : Mirrors constants lead ground (Script.Mirrors constants) turn turn') (fuel : Nat) :
    Mirrors constants lead ground (Script.Mirrors constants) (turns env turn fuel)
      (turns env' turn' fuel) := by
  induction fuel with
  | zero =>
    unfold turns
    rw [settings_eq w]
    exact .fail (fun _ => rfl) .nowhere
  | succ fuel ih =>
    rw [turns_succ, turns_succ]
    refine .bind h fun ended => ?_
    rcases ended.option_cases with ⟨rfl, rfl⟩ | ⟨v, v', rfl, rfl, values⟩
    · exact ih
    · exact .pure values

end Limits

/-! ### Variables -/

theorem cell? {s s' : State} (states : s.Mirrors constants lead ground s') (cell : Nat) :
    Script.Mirrors constants s.cells[cell]? s'.cells[cell]? :=
  states.cells.natural (f := fun cells : Array Cell => cells[cell]?) fun _ _ => Array.getElem?_map

theorem read {s s' : State} (states : s.Mirrors constants lead ground s') {slot slot' : Slot}
    (slots : Script.Mirrors constants slot slot') :
    Script.Mirrors constants (Run.read s slot) (Run.read s' slot') := by
  obtain ⟨rfl, plain⟩ := slots
  cases slot with
  | own v => exact ⟨rfl, Slot.own.inj plain⟩
  | shared cell =>
    exact (cell? states cell).natural (f := fun found : Option Cell => (found.map Cell.value).getD .unit)
      fun _ found => by cases found <;> rfl

theorem slot {x x' : Variable} (h : Script.Mirrors constants x x') :
    Script.Mirrors constants x.slot x'.slot :=
  h.natural fun _ _ => rfl

theorem made? {s s' : State} (states : s.Mirrors constants lead ground s') {x x' : Variable}
    (h : Script.Mirrors constants x x') :
    Script.Mirrors constants (Run.made? s x) (Run.made? s' x') := by
  obtain ⟨name, slot, made⟩ := x
  obtain ⟨rfl, plain⟩ := h
  cases slot with
  | own v => exact ⟨rfl, congrArg Variable.made plain⟩
  | shared cell =>
    exact (cell? states cell).natural (f := fun found : Option Cell => found.bind Cell.made)
      fun _ found => by cases found <;> rfl

theorem find? {scope scope' : List Variable} (h : Script.Mirrors constants scope scope')
    (name : String) :
    Script.Mirrors constants (scope.find? (·.name = name)) (scope'.find? (·.name = name)) :=
  h.natural (f := fun scope : List Variable => scope.find? (·.name = name)) fun _ _ => List.find?_map

theorem names_withSlot (name : String) (slot : Slot) (scope : List Variable) :
    (Run.withSlot name slot scope).map Variable.name = scope.map Variable.name := by
  induction scope with
  | nil => rfl
  | cons x rest ih =>
    unfold Run.withSlot
    split
    · rfl
    · exact congrArg (x.name :: ·) ih

theorem withSlot (name : String) {slot slot' : Slot} (slots : Script.Mirrors constants slot slot')
    {scope scope' : List Variable} (h : Script.Mirrors constants scope scope') :
    Script.Mirrors constants (Run.withSlot name slot scope) (Run.withSlot name slot' scope') := by
  refine .natural₂ (fun c slot scope => ?_) slots h
  induction scope with
  | nil => rfl
  | cons x rest ih =>
    simp only [recast_list, List.map_cons, Run.withSlot] at ih ⊢
    have same : (recast c x).name = x.name := rfl
    rw [same]
    split
    · rfl
    · exact congrArg (recast c x :: ·) ih

protected theorem lookup? (name : String) : Mirrors constants lead ground (Script.Mirrors constants)
    (lookup? name) (lookup? name) :=
  .bind .get fun states => .pure (find? states.scope name)

protected theorem say (r r' : Remark) :
    Mirrors constants lead ground (Script.Mirrors constants) (say r) (say r') :=
  .modify (fun states => { states with }) fun _ h => h

protected theorem define (name : String) (constant : Bool) {v v' : Value}
    (values : Script.Mirrors constants v v') : Mirrors constants lead ground (Script.Mirrors constants)
      (define name v constant) (define name v' constant) := by
  have defined : Script.Mirrors constants
      (⟨name, .own v, if constant then some v else none⟩ : Variable)
      ⟨name, .own v', if constant then some v' else none⟩ :=
    values.natural (f := fun v : Value => (⟨name, .own v, if constant then some v else none⟩ : Variable))
      fun c v => by cases constant <;> rfl
  exact .modify (fun states => { states with
    scope := .cons defined states.scope
    names := states.names.trans (List.suffix_cons _ _) }) fun _ h => h

protected theorem store (name : String) {v v' : Value} (values : Script.Mirrors constants v v') :
    Mirrors constants lead ground (Script.Mirrors constants) (store name v) (store name v') := by
  refine .modify (fun {s s'} states => ?_) fun s before => by split <;> exact before
  rcases (find? states.scope name).option_cases with ⟨none, none'⟩ | ⟨x, x', some, some', found⟩
  · rw [none, none']
    exact states
  · rw [some, some']
    obtain ⟨own, slot, made⟩ := x
    obtain ⟨rfl, plain⟩ := found
    cases slot with
    | own old =>
      exact { states with
        scope := withSlot name (values.natural (f := Slot.own) fun _ _ => rfl) states.scope
        names := (names_withSlot ..).symm ▸ states.names }
    | shared cell =>
      refine { states with cells := .natural₂ (f := fun (v : Value) (cells : Array Cell) =>
        cells.modify cell fun x => { x with value := v }) (fun c v cells => ?_) values states.cells }
      refine Array.ext_getElem? fun i => ?_
      change ((cells.map (recast c)).modify cell _)[i]? = ((cells.modify cell _).map (recast c))[i]?
      rw [Array.getElem?_modify, Array.getElem?_map, Array.getElem?_map, Array.getElem?_modify]
      split
      · cases cells[i]? <;> rfl
      · rfl

protected theorem share? (name : String) : Mirrors constants lead ground (Script.Mirrors constants)
    (share? name) (share? name) := by
  refine .bind (.lookup? name) fun found => ?_
  rcases found.option_cases with ⟨rfl, rfl⟩ | ⟨x, x', rfl, rfl, same⟩
  · exact .pure .none
  · obtain ⟨own, slot, made⟩ := x
    have makes := same.natural (f := Variable.made) fun _ _ => rfl
    obtain ⟨rfl, plain⟩ := same
    cases slot with
    | shared cell => exact .pure (.some (.nat cell))
    | own v =>
      have values : Script.Mirrors constants v (recast .bare v) :=
        ⟨rfl, Slot.own.inj (congrArg Variable.slot plain)⟩
      refine exact_of (fun {s s'} states => ?_) fun _ h => h
      have size : s'.cells.size = s.cells.size := states.cells.eq_of fun _ cells => cells.size_map
      have shared (n : Nat) : Script.Mirrors constants (Slot.shared n) (.shared n) := .refl_of fun _ => rfl
      have cell : Script.Mirrors constants (⟨v, made⟩ : Cell) ⟨recast .bare v, recast .bare made⟩ :=
        .natural₂ (f := Cell.mk) (fun _ _ _ => rfl) values makes
      refine .ok ?_ { states with
        scope := ?_, cells := ?_, names := (names_withSlot ..).symm ▸ states.names }
      · rw [size]
        exact .some (.nat _)
      · dsimp only
        rw [size]
        exact withSlot name (shared _) states.scope
      · exact .natural₂ (f := fun (cells : Array Cell) x => cells.push x)
          (fun c cells x => (Array.map_push ..).symm) states.cells cell

end Mirrors

end Run

end ScriptGate.Script
