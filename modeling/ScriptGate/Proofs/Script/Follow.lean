import ScriptGate.Proofs.Script.Names

/-!
# Runs that follow other runs

A run follows another one if it does the same from every state that is abreast, except where the other one
exceeds a limit (`Run.Follows`). A run remembers that it exceeded a limit and never forgets it, so that
following goes on through whatever is put together out of runs: through sequences, blocks, function
bodies and loops. The limits themselves follow where they are wider (`Run.Follows.tick`,
`Run.Follows.checkSize`), and names where they stand for the same (`Run.Follows.lookup?`).

Every run that follows another one leaves a later state than it found (`State.Later`).
-/

namespace ScriptGate

/-! ## Wider limits -/

/-- Whether a cap leaves at least the room of another one; zero is no cap. -/
def CapWithin (cap wider : Nat) : Prop := wider = 0 ∨ 0 < cap ∧ cap ≤ wider

theorem CapWithin.lt_of_lt {cap wider n : Nat} (within : CapWithin cap wider)
    (exceeded : 0 < wider ∧ wider < n) : 0 < cap ∧ cap < n := by
  obtain zero | ⟨positive, le⟩ := within <;> omega

theorem CapWithin.le_of_le {cap wider n : Nat} (within : CapWithin cap wider)
    (exceeded : 0 < wider ∧ wider ≤ n) : 0 < cap ∧ cap ≤ n := by
  obtain zero | ⟨positive, le⟩ := within <;> omega

/-- Whether every limit of other settings is at least that of some settings. The time limit is not
among them. -/
structure Settings.Within (c c' : Settings) : Prop where
  operations : CapWithin c.maxOperations c'.maxOperations
  callDepth : c.maxCallDepth ≤ c'.maxCallDepth
  exprDepth : CapWithin c.maxExprDepth c'.maxExprDepth
  stringLen : CapWithin c.maxStringLen c'.maxStringLen
  collectionLen : CapWithin c.maxCollectionLen c'.maxCollectionLen

theorem CapWithin.refl (cap : Nat) : CapWithin cap cap := by
  unfold CapWithin
  omega

theorem Settings.Within.refl (c : Settings) : c.Within c :=
  ⟨.refl _, Nat.le_refl _, .refl _, .refl _, .refl _⟩

namespace Script

/-- Whether surroundings leave at least the room of others, where that matters, and else the same; the
functions are those of a table. -/
structure Env.Within (watch : Prop) (σ : Shift) (table : Functions) (env env' : Env) : Prop where
  functions : env.functions = table
  functions' : env'.functions = table
  level : env.level = env'.level + σ.levels
  atTop : env'.atTop = env.atTop
  limits : env'.settings = env.settings ∧ env'.patience = env.patience ∧ σ.lead = 0 ∧ σ.levels = 0 ∨
    watch ∧ env.settings.Within env'.settings ∧ env.patience ≤ env'.patience

/-- Two checks find the same, unless the first one finds that a limit is exceeded and this is
watched for. -/
def Error.Finds (watch : Prop) (found found' : Option Error) : Prop :=
  found' = found ∨ watch ∧ ∃ e, found = some e ∧ e.isLimit = true

theorem Error.Finds.orElse {watch : Prop} {a a' b b' : Option Error} (first : Finds watch a a')
    (second : Finds watch b b') : Finds watch (a <|> b) (a' <|> b') := by
  rcases first with rfl | ⟨watched, e, rfl, limit⟩
  · cases a' with
    | none => exact second
    | some e => exact .inl rfl
  · exact .inr ⟨watched, e, rfl, limit⟩

/-- Whether so many operations are allowed. -/
structure Env.Allows (env : Env) (count : Nat) : Prop where
  budget : env.settings.maxOperations = 0 ∨ count ≤ env.settings.maxOperations
  patience : count ≤ env.patience

theorem Env.Allows.mono {env : Env} {a b : Nat} (allowed : env.Allows b) (le : a ≤ b) :
    env.Allows a :=
  ⟨allowed.budget.imp_right (Nat.le_trans le), Nat.le_trans le allowed.patience⟩

namespace Run

variable {α β : Type}

/-- The state in which a run ends. -/
def finalState (m : Run α) (s : State) : State :=
  match m s with
  | .ok _ t => t
  | .error _ t => t

/-- Two runs end alike, in states that are abreast. -/
inductive EndAbreast (σ : Shift) : EStateM.Result Stop State α → EStateM.Result Stop State α → Prop where
  | ok {a : α} {s t : State} (abreast : s.Abreast σ t) : EndAbreast σ (.ok a s) (.ok a t)
  | error {e : Stop} {s t : State} (abreast : s.Abreast σ t) : EndAbreast σ (.error e s) (.error e t)

theorem EndAbreast.of_knowing {σ : Shift} {names : List String} {r r' : EStateM.Result Stop State α}
    (ends : EndAbreast (σ.knowing names) r r') : EndAbreast σ r r' := by
  cases ends with
  | ok abreast => exact .ok abreast.of_knowing
  | error abreast => exact .error abreast.of_knowing

/-- A run does what another one does from a state that is abreast, unless that one exceeds a limit and
this is watched for. -/
structure Follows (watch : Prop) (σ : Shift) (m m' : Run α) : Prop where
  same : ∀ {s s' : State}, s.Abreast σ s' →
    watch ∧ (finalState m s).exceeded = true ∨ EndAbreast σ (m s) (m' s')
  kept : ∀ s : State, s.Later (finalState m s)

theorem bind_apply (m : Run α) (f : α → Run β) (s : State) :
    (m >>= f) s = match m s with
      | .ok a t => f a t
      | .error e t => .error e t := by
  change EStateM.bind m f s = _
  unfold EStateM.bind
  cases m s <;> rfl

theorem bind_of_ok {m : Run α} {f : α → Run β} {s t : State} {a : α} (ended : m s = .ok a t) :
    (m >>= f) s = f a t := by
  rw [bind_apply, ended]

theorem exists_of_bind {m : Run α} {f : α → Run β} {s t : State} {b : β}
    (ended : (m >>= f) s = .ok b t) : ∃ a u, m s = .ok a u ∧ f a u = .ok b t := by
  rw [bind_apply] at ended
  cases first : m s with
  | ok a u =>
    rw [first] at ended
    exact ⟨a, u, rfl, ended⟩
  | error stop u =>
    rw [first] at ended
    cases ended

/-- Goes on from where a run ended, in either way. -/
def andThen (enter : State → State) (m : Run α) (ok : State → α → Run β)
    (stop : State → Stop → Run β) : Run β := fun s =>
  match m (enter s) with
  | .ok a t => ok s a t
  | .error e t => stop s e t

/-- What comes after a run comes where it ended well, and nothing where it was stopped. -/
theorem bind_eq_andThen (m : Run α) (f : α → Run β) :
    m >>= f = andThen (fun s => s) m (fun _ => f) fun _ e => MonadExcept.throw e := by
  funext s
  rw [bind_apply]
  rfl

/-- Enters a run from another state than that in which it is begun, and leaves it likewise. -/
def around (enter : State → State) (leave : State → State → State) (m : Run α) : Run α := fun s =>
  match m (enter s) with
  | .ok a t => .ok a (leave s t)
  | .error e t => .error e (leave s t)

/-- However a run ends, its region is left. -/
theorem finalState_around (enter : State → State) (leave : State → State → State) (m : Run α) (s : State) :
    finalState (around enter leave m) s = leave s (finalState m (enter s)) := by
  unfold finalState around
  cases m (enter s) <;> rfl

/-- How a run ended, and what `this` stands for then. -/
def settled (m : Run α) : Run (Except Stop α × Option Value) :=
  andThen (fun s => s) m (fun _ a => do return (.ok a, (← get).this.map Receiver.value))
    fun _ e => do return (.error e, (← get).this.map Receiver.value)

theorem inFrame_eq (locals : List Variable) (this : Option Receiver) (m : Run α) :
    inFrame locals this m = around (fun s => { s with scope := locals, this := this })
      (fun s t => { t with scope := s.scope, this := s.this }) (settled m) := by
  funext s
  unfold inFrame around settled andThen
  dsimp only
  cases m { s with scope := locals, this := this } <;> rfl

/-- A turn of a loop goes by how its body ended. -/
theorem turn_eq (m : Run Value) : turn m =
    andThen (fun s => s) m (fun _ _ => Pure.pure none) fun _ e => match e with
      | .next => Pure.pure none
      | .leave v => Pure.pure (some v)
      | e => MonadExcept.throw e := by
  funext s
  unfold turn andThen
  cases m s with
  | ok v t => rfl
  | error e t => cases e <;> rfl

/-- After each turn that does not end the loop comes another one. -/
theorem turns_succ (env : Env) (turn : Run (Option Value)) (fuel : Nat) :
    turns env turn (fuel + 1) = turn >>= fun ended => match ended with
      | none => turns env turn fuel
      | some v => Pure.pure v := by
  funext s
  rw [bind_apply, turns]
  dsimp only
  cases turn s with
  | ok ended t => cases ended <;> rfl
  | error e t => rfl

/-- Stops if so many operations are too many. -/
def spent (env : Env) (p : Option Position) (taken : Nat) : Run Unit :=
  if 0 < env.settings.maxOperations ∧ env.settings.maxOperations < taken then fail .tooManyOperations p
  else if env.patience < taken then fail (.timedOut env.settings.timeoutMs) none
  else return ()

theorem tick_apply (env : Env) (p : Option Position) (s : State) :
    tick env p s = spent env p (s.operations + 1) { s with operations := s.operations + 1 } := rfl

theorem tick_of_allows {env : Env} {s : State} (p : Option Position)
    (allowed : env.Allows (s.operations + 1)) :
    tick env p s = .ok () { s with operations := s.operations + 1 } := by
  have budget : ¬ (0 < env.settings.maxOperations ∧
      env.settings.maxOperations < s.operations + 1) := by
    have := allowed.budget
    omega
  rw [tick_apply, spent, if_neg budget, if_neg (Nat.not_lt.mpr allowed.patience)]
  rfl

/-- An operation that is not allowed ends the run. -/
theorem tick_of_not_allows {env : Env} {s : State} (p : Option Position)
    (refused : ¬ env.Allows (s.operations + 1)) : ∃ e t, tick env p s = .error (.fault e) t := by
  rw [tick_apply, spent]
  split
  · exact ⟨_, _, rfl⟩
  · next budget =>
    split
    · exact ⟨_, _, rfl⟩
    · next patience => exact (refused ⟨by omega, by omega⟩).elim

namespace Follows

variable {watch : Prop} {σ : Shift} {m m' : Run α}

/-- Where there is no difference, a run ends as the other one does. -/
theorem ends_eq (h : Follows watch .none m m') (s : State) :
    watch ∧ (finalState m s).exceeded = true ∨ m' s = m s := by
  refine (h.same (State.Abreast.none_iff.mpr rfl)).imp_right fun ends => ?_
  generalize m s = r, m' s = r' at ends
  cases ends with
  | ok abreast => rw [State.Abreast.none_iff.mp abreast]
  | error abreast => rw [State.Abreast.none_iff.mp abreast]

/-! ## Runs that know no limit -/

protected theorem pure (a : α) : Follows watch σ (Pure.pure a) (Pure.pure a) :=
  ⟨fun abreast => .inr (.ok abreast), .refl⟩

protected theorem throw (stop : Stop) :
    Follows watch σ (MonadExcept.throw stop : Run α) (MonadExcept.throw stop) :=
  ⟨fun abreast => .inr (.error abreast), .refl⟩

protected theorem modify {f f' : State → State}
    (moved : ∀ {s s' : State}, s.Abreast σ s' → (f s).Abreast σ (f' s'))
    (kept : ∀ s : State, s.Later (f s)) :
    Follows watch σ (modify f : Run PUnit) (modify f') :=
  ⟨fun abreast => .inr (.ok (moved abreast)), kept⟩

/-- Looks at what is the same in both states. -/
protected theorem get {f f' : State → Run α}
    (further : ∀ {s s' : State}, s.Agrees s' → Follows watch σ (f s) (f' s')) :
    Follows watch σ (MonadState.get >>= f) (MonadState.get >>= f') :=
  ⟨fun abreast => (further abreast.toAgrees).same abreast, fun s => (further (.refl s)).kept s⟩

/-- What `this` stands for gets another value. -/
protected theorem setThis (this : Option Receiver) :
    Follows watch σ (modify fun s => { s with this := this }) (modify fun s => { s with this := this }) :=
  .modify (fun abreast => { abreast with this := rfl }) fun _ => .of_same rfl rfl fun h => h

/-! ## Runs put together -/

/-- What comes after a run may know names that are those of variables once it has ended, and that it
may end with what it is given. -/
theorem andThen_knowing (names : List String) {ok ok' : α → Run β} {stop stop' : Stop → Run β}
    (h : Follows watch σ m m')
    (known : ∀ {s a t}, m s = .ok a t → ∀ name ∈ names, name ∈ t.names)
    (onOk : ∀ a, (∃ s t, m s = .ok a t) → Follows watch (σ.knowing names) (ok a) (ok' a))
    (onStop : ∀ e, Follows watch σ (stop e) (stop' e)) :
    Follows watch σ (andThen (fun s => s) m (fun _ => ok) fun _ => stop)
      (Run.andThen (fun s => s) m' (fun _ => ok') fun _ => stop') := by
  -- What comes after a limit does not forget it, so a limit in the first part settles the whole.
  have onward (s : State) :
      (finalState m s).Later (finalState (Run.andThen (fun s => s) m (fun _ => ok) fun _ => stop) s) := by
    unfold finalState Run.andThen
    cases ended : m s with
    | ok a t => exact (onOk a ⟨s, t, ended⟩).kept t
    | error e t => exact (onStop e).kept t
  refine ⟨fun {s s'} abreast => ?_, fun s => (h.kept s).trans (onward s)⟩
  rcases h.same abreast with ⟨watched, exceeded⟩ | ends
  · exact .inl ⟨watched, (onward s).exceeded exceeded⟩
  · unfold finalState Run.andThen
    generalize there : m' s' = r' at ends
    cases ended : m s with
    | ok a t =>
      rw [ended] at ends
      cases ends with
      | ok abreast =>
        exact ((onOk a ⟨s, t, ended⟩).same (abreast.knowing (known ended))).imp_right
          EndAbreast.of_knowing
    | error e t =>
      rw [ended] at ends
      cases ends with
      | error abreast => exact (onStop e).same abreast

protected theorem andThen {ok ok' : α → Run β} {stop stop' : Stop → Run β} (h : Follows watch σ m m')
    (onOk : ∀ a, Follows watch σ (ok a) (ok' a)) (onStop : ∀ e, Follows watch σ (stop e) (stop' e)) :
    Follows watch σ (andThen (fun s => s) m (fun _ => ok) fun _ => stop)
      (Run.andThen (fun s => s) m' (fun _ => ok') fun _ => stop') :=
  h.andThen_knowing [] (fun _ _ none => nomatch none) (fun a _ => onOk a) onStop

theorem bind_knowing (names : List String) {f f' : α → Run β} (h : Follows watch σ m m')
    (known : ∀ {s a t}, m s = .ok a t → ∀ name ∈ names, name ∈ t.names)
    (further : ∀ a, (∃ s t, m s = .ok a t) → Follows watch (σ.knowing names) (f a) (f' a)) :
    Follows watch σ (m >>= f) (m' >>= f') := by
  rw [bind_eq_andThen, bind_eq_andThen]
  exact h.andThen_knowing names known further .throw

/-- What comes after a run may know that the run ends with what it is given. -/
theorem bind_ending {f f' : α → Run β} (h : Follows watch σ m m')
    (further : ∀ a, (∃ s t, m s = .ok a t) → Follows watch σ (f a) (f' a)) :
    Follows watch σ (m >>= f) (m' >>= f') :=
  h.bind_knowing [] (fun _ _ none => nomatch none) further

protected theorem bind {f f' : α → Run β} (h : Follows watch σ m m')
    (further : ∀ a, Follows watch σ (f a) (f' a)) : Follows watch σ (m >>= f) (m' >>= f') :=
  h.bind_ending fun a _ => further a

/-- Runs follow through a region of their own, which has another difference. -/
protected theorem around {ρ : Shift} (enter : State → State) (leave : State → State → State)
    (h : Follows watch ρ m m')
    (entered : ∀ {s s' : State}, s.Abreast σ s' → (enter s).Abreast ρ (enter s'))
    (left : ∀ {s s' t t' : State}, s.Abreast σ s' → t.Abreast ρ t' → (enter s).Later t →
      (leave s t).Abreast σ (leave s' t'))
    (kept : ∀ {s t : State}, (enter s).Later t → s.Later (leave s t))
    (exceeded : ∀ s t : State, (leave s t).exceeded = t.exceeded) :
    Follows watch σ (around enter leave m) (Run.around enter leave m') := by
  refine ⟨fun {s s'} abreast => ?_, fun s => ?_⟩
  · rw [finalState_around, exceeded]
    refine (h.same (entered abreast)).imp_right fun ends => ?_
    have later := h.kept (enter s)
    unfold finalState at later
    unfold Run.around
    generalize m (enter s) = r, m' (enter s') = r' at ends later
    cases ends with
    | ok further => exact .ok (left abreast further later)
    | error further => exact .error (left abreast further later)
  · rw [finalState_around]
    exact kept (h.kept (enter s))

protected theorem inBlock (h : Follows watch σ m m') : Follows watch σ (inBlock m) (inBlock m') :=
  h.around (fun s => s)
    (fun s t => { t with scope := t.scope.drop (t.scope.length - s.scope.length) })
    (fun abreast => abreast) (fun abreast further later => further.rewound abreast later)
    State.Later.rewound fun _ _ => rfl

protected theorem aside (h : Follows watch σ m m') : Follows watch σ (aside m) (aside m') :=
  h.around (fun s => s) (fun s t => { t with operations := s.operations })
    (fun abreast => abreast) (fun abreast further _ => { further with operations := abreast.operations })
    (fun later => later.trans (.of_same rfl rfl fun h => h)) fun _ _ => rfl

protected theorem settled (h : Follows watch σ m m') : Follows watch σ (settled m) (settled m') :=
  .andThen h (fun _ => .get fun agrees => agrees.this ▸ .pure _)
    fun _ => .get fun agrees => agrees.this ▸ .pure _

/-- Inside a function all variables are those of both runs. -/
protected theorem inFrame (locals : List Variable) (this : Option Receiver)
    (h : Follows watch σ.inside m m') :
    Follows watch σ (inFrame locals this m) (inFrame locals this m') := by
  rw [inFrame_eq, inFrame_eq]
  exact h.settled.around _ _ (fun abreast => abreast.framed locals this)
    (fun abreast further _ => further.restored abreast) State.Later.restored fun _ _ => rfl

protected theorem turn {m m' : Run Value} (h : Follows watch σ m m') :
    Follows watch σ (turn m) (turn m') := by
  rw [turn_eq, turn_eq]
  refine .andThen h (fun _ => .pure none) fun e => ?_
  cases e with
  | next => exact .pure none
  | leave v => exact .pure (some v)
  | fault e => exact .throw _
  | giveBack v => exact .throw _
  | exit v => exact .throw _

/-! ## Limits -/

theorem later_raise (e : Error) (s : State) :
    s.Later { s with exceeded := s.exceeded || e.isLimit } :=
  .of_same rfl rfl fun h => Bool.or_eq_true_iff.mpr (.inl h)

protected theorem raise (e : Error) : Follows watch σ (raise e : Run α) (Run.raise e) :=
  ⟨fun abreast => .inr (.error { abreast with exceeded := congrArg (· || e.isLimit) abreast.exceeded }),
    later_raise e⟩

/-- Nothing has to be done like what exceeds a limit. -/
theorem raise_limit {e : Error} (limit : e.isLimit = true) (watched : watch) (m' : Run α) :
    Follows watch σ (Run.raise e) m' :=
  ⟨fun _ => .inl ⟨watched, Bool.or_eq_true_iff.mpr (.inr limit)⟩, later_raise e⟩

end Follows

end Run

section Surroundings

variable {watch : Prop} {σ : Shift} {table : Functions} {env env' : Env}

namespace Env.Within

protected theorem refl (env : Env) : env.Within watch .none env.functions env :=
  ⟨rfl, rfl, rfl, rfl, .inl ⟨rfl, rfl, rfl, rfl⟩⟩

/-- Surroundings are the same where no limit is watched for. -/
theorem cases (w : env.Within watch σ table env') : env' = env ∧ σ.lead = 0 ∨
    watch ∧ env.settings.Within env'.settings ∧ env.patience ≤ env'.patience := by
  refine w.limits.imp_left fun ⟨settings, patience, lead, levels⟩ => ⟨?_, lead⟩
  have functions : env'.functions = env.functions := w.functions'.trans w.functions.symm
  have level : env.level = env'.level := w.level.trans (congrArg (env'.level + ·) levels)
  have atTop := w.atTop
  cases env
  cases env'
  cases settings
  cases patience
  cases functions
  cases level
  cases atTop
  rfl

/-- What is too large in wider surroundings is so in narrower ones. -/
theorem sizeFault? (w : env.Within watch σ table env') (size : Value.Size) (p : Option Position) :
    Error.Finds watch (Run.sizeFault? env size p) (Run.sizeFault? env' size p) := by
  rcases w.cases with ⟨rfl, -⟩ | ⟨watched, within, -⟩
  · exact .inl rfl
  · unfold Run.sizeFault?
    cases found : Run.excess? env.settings size with
    | some what => exact .inr ⟨watched, _, rfl, rfl⟩
    | none =>
      refine .inl (congrArg (Option.map _) ?_)
      unfold Run.excess? at found ⊢
      split at found; · cases found
      split at found; · cases found
      split at found; · cases found
      next text items entries =>
        rw [if_neg (mt within.stringLen.lt_of_lt text),
          if_neg (mt within.collectionLen.lt_of_lt items),
          if_neg (mt within.collectionLen.lt_of_lt entries)]

end Env.Within

namespace Run.Follows

variable (w : env.Within watch σ table env') (p : Option Position)

include w

/-- The run that took more operations exceeds a limit on them first. -/
protected theorem spent {taken taken' : Nat} (ahead : taken = taken' + σ.lead) :
    Follows watch σ (spent env p taken) (spent env' p taken') := by
  unfold spent
  rcases w.cases with ⟨rfl, none⟩ | ⟨watched, within, patience⟩
  · obtain rfl : taken = taken' := by omega
    split
    · exact .raise _
    · split
      · exact .raise _
      · exact .pure ()
  · split
    · exact raise_limit rfl watched _
    · next budget =>
      split
      · exact raise_limit rfl watched _
      · next time =>
        have enough : ¬ (0 < env'.settings.maxOperations ∧ env'.settings.maxOperations < taken') :=
          fun ⟨positive, more⟩ => budget (within.operations.lt_of_lt ⟨positive, by omega⟩)
        rw [if_neg enough, if_neg (by omega)]
        exact .pure ()

protected theorem tick : Follows watch σ (tick env p) (tick env' p) where
  same {s s'} abreast :=
    have ahead : s.operations + 1 = s'.operations + 1 + σ.lead := by
      have := abreast.operations
      omega
    (Follows.spent w p ahead).same { abreast with operations := ahead }
  kept s :=
    have taken : s.Later { s with operations := s.operations + 1 } := .of_same rfl rfl fun h => h
    have itself : Follows watch .none (Run.spent env p (s.operations + 1)) _ := .spent (.refl env) p rfl
    taken.trans (itself.kept _)

protected theorem timedOut {α : Type} :
    Follows watch σ (fail (.timedOut env.settings.timeoutMs) p : Run α)
      (fail (.timedOut env'.settings.timeoutMs) p) := by
  rcases w.cases with ⟨rfl, -⟩ | ⟨watched, -⟩
  · exact .raise _
  · exact raise_limit rfl watched _

protected theorem checkSize (size : Value.Size) :
    Follows watch σ (checkSize env size p) (checkSize env' size p) := by
  unfold checkSize
  rcases w.sizeFault? size p with same | ⟨watched, e, found, limit⟩
  · rw [same]
    cases sizeFault? env size p with
    | some e => exact .raise e
    | none => exact .pure ()
  · rw [found]
    exact raise_limit limit watched _

protected theorem checked (v : Value) : Follows watch σ (checked env p v) (checked env' p v) :=
  .bind (.checkSize w p v.size) fun _ => .pure v

omit p in
/-- A loop follows another one turn by turn, and longer. -/
protected theorem turns {turn turn' : Run (Option Value)} (h : Follows watch σ turn turn')
    {fuel fuel' : Nat} (enough : fuel' = fuel ∨ watch ∧ fuel ≤ fuel') :
    Follows watch σ (turns env turn fuel) (turns env' turn' fuel') := by
  -- The loop with less fuel decides: where that is used up the time is, which is a limit as well.
  induction fuel generalizing fuel' with
  | zero =>
    rcases enough with rfl | ⟨watched, -⟩
    · exact .timedOut w none
    · exact raise_limit rfl watched _
  | succ fuel ih =>
    obtain ⟨fuel', rfl, still⟩ : ∃ k, fuel' = k + 1 ∧ (k = fuel ∨ watch ∧ fuel ≤ k) := by
      rcases enough with rfl | ⟨watched, le⟩
      · exact ⟨fuel, rfl, .inl rfl⟩
      · exact ⟨fuel' - 1, by omega, .inr ⟨watched, by omega⟩⟩
    rw [turns_succ, turns_succ]
    refine .bind h fun ended => ?_
    cases ended with
    | none => exact ih still
    | some v => exact .pure v

end Run.Follows

end Surroundings

/-! ## Variables -/

namespace Run.Follows

variable {watch : Prop} {σ : Shift} {name : String}

protected theorem lookup? (own : σ.Owns name) : Follows watch σ (lookup? name) (lookup? name) := by
  refine ⟨fun {s s'} abreast => .inr ?_, .refl⟩
  change EndAbreast σ (.ok (s.scope.find? (·.name = name)) s) (.ok (s'.scope.find? (·.name = name)) s')
  rw [abreast.find? own]
  exact .ok abreast

protected theorem define (name : String) (v : Value) (constant : Bool) :
    Follows watch σ (define name v constant) (define name v constant) :=
  .modify (fun abreast => abreast.defined _) fun _ => .defined name v _

/-- What is defined is there. -/
theorem defined_of_define {v : Value} {constant : Bool} {s t : State}
    (ended : define name v constant s = .ok () t) : ∀ x ∈ [name], x ∈ t.names := by
  cases ended
  exact fun x inside => List.mem_singleton.mp inside ▸ List.mem_cons_self

theorem share?_apply (name : String) (s : State) : share? name s =
    match s.scope.find? (·.name = name) with
    | none => .ok none s
    | some x => match x.slot with
      | .shared cell => .ok (some cell) s
      | .own value => .ok (some s.cells.size) { s with
          cells := s.cells.push ⟨value, x.made⟩
          scope := withSlot name (.shared s.cells.size) s.scope } := by
  unfold share?
  rw [bind_apply]
  change (match s.scope.find? (·.name = name) with | _ => _ : Run (Option Nat)) s = _
  cases s.scope.find? (·.name = name) with
  | none => rfl
  | some x =>
    dsimp only
    cases x.slot <;> rfl

/-- A constant stays one, also if its value is now shared. -/
theorem later_share {s : State} {x : Variable} {value : Value}
    (found : s.scope.find? (·.name = name) = some x) (owned : x.slot = .own value) :
    s.Later { s with
      cells := s.cells.push ⟨value, x.made⟩
      scope := withSlot name (.shared s.cells.size) s.scope } := by
  have celled : s.Later { s with cells := s.cells.push ⟨value, x.made⟩ } :=
    .celled fun cell inside => ⟨by simp; omega, by simp [Array.getElem?_push, Nat.ne_of_lt inside]⟩
  refine celled.trans (.slotted (fun cell shared => ?_) fun y same => ?_)
  · cases shared
    simp
  · cases found.symm.trans same
    unfold made?
    rw [owned]
    simp

/-- The value of a variable is replaced where it is. -/
theorem later_store (v : Value) (s : State) :
    s.Later (match (s.scope.find? (·.name = name)).map Variable.slot with
      | some (.own _) => { s with scope := withSlot name (.own v) s.scope }
      | some (.shared cell) => { s with cells := s.cells.modify cell fun c => { c with value := v } }
      | none => s) := by
  split
  · next old owned =>
    obtain ⟨x, found, slot⟩ := Option.map_eq_some_iff.mp owned
    refine .slotted (fun _ shared => nomatch shared) fun y same => ?_
    cases found.symm.trans same
    unfold made?
    rw [slot]
  · next cell shared =>
    refine .celled fun i inside => ⟨by simpa using inside, ?_⟩
    rw [Array.getElem?_modify]
    split
    · cases s.cells[i]? <;> rfl
    · rfl
  · exact .refl s

protected theorem store (own : σ.Owns name) (v : Value) :
    Follows watch σ (store name v) (store name v) := by
  refine .modify (fun {s s'} abreast => ?_) (later_store v)
  rw [abreast.find? own]
  cases found : s.scope.find? (·.name = name) with
  | none => exact abreast
  | some x =>
    dsimp only [Option.map_some]
    cases x.slot with
    | own old => exact abreast.slotted found _
    | shared cell =>
      exact { abreast with cells := congrArg (Array.modify · cell fun c => { c with value := v }) abreast.cells }

protected theorem share? (own : σ.Owns name) : Follows watch σ (share? name) (share? name) := by
  refine ⟨fun {s s'} abreast => .inr ?_, fun s => ?_⟩
  · rw [share?_apply, share?_apply, abreast.find? own]
    cases found : s.scope.find? (·.name = name) with
    | none => exact .ok abreast
    | some x =>
      dsimp only
      cases x.slot with
      | shared cell => exact .ok abreast
      | own value =>
        dsimp only
        rw [abreast.cells]
        exact .ok { abreast.slotted found _ with cells := rfl }
  · unfold finalState
    rw [share?_apply]
    cases found : s.scope.find? (·.name = name) with
    | none => exact .refl s
    | some x =>
      dsimp only
      cases owned : x.slot with
      | shared cell => exact .refl s
      | own value => exact later_share found owned

end Run.Follows

end Script

end ScriptGate
