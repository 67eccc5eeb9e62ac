import ScriptGate.Proofs.Script.Measure.Call

/-!
# Library functions that keep within caps

The library functions that call functions back, and with them all calls that are expressions. Such a function
answers what is put together out of items and answers, all of which are within caps, and is judged like any other.
-/

namespace ScriptGate.Script.Eval

variable {k : Caps} {G : Prop} {ev : Eval} {env : Env}

/-! ## Items in turn -/

section Items

variable {α : Type} {P : α → Prop}

theorem keeps_overItems {step : α → Value → Nat → Run α} {a : α} {items : List Value} (start : G → P a)
    (all : G → ∀ v ∈ items, v.Fits k)
    (steps : ∀ a item i, Run.Keeps k (G ∧ P a ∧ item.Fits k) P (step a item i)) (index : Nat) :
    Run.Keeps k G P (overItems step a index items) := by
  have onward {H : Prop} (more : H → G) {a : α} (here : H → P a) {items : List Value}
      (all : H → ∀ v ∈ items, v.Fits k) (index : Nat) : Run.Keeps k H P (overItems step a index items) := by
    induction items generalizing H a index with
    | nil => exact .pure here
    | cons item rest ih =>
      exact .bind ((steps a item index).given fun g => ⟨more g, here g, all g item List.mem_cons_self⟩)
        fun a => ih (fun g => more g.1) And.right
          (fun g v inside => all g.1 v (List.mem_cons_of_mem _ inside)) _
  exact onward id start all index

/-- Values that are collected are within caps, if each step adds but such values. -/
theorem keeps_collected {step : List Value → Value → Nat → Run (List Value)} {items : List Value}
    (all : G → ∀ v ∈ items, v.Fits k)
    (steps : ∀ seen item i, Run.Keeps k (G ∧ (∀ v ∈ seen, v.Fits k) ∧ item.Fits k)
      (fun vs => ∀ v ∈ vs, v.Fits k) (step seen item i)) :
    Run.Keeps k G (fun vs => ∀ v ∈ vs, v.Fits k) (overItems step [] 0 items) :=
  keeps_overItems (fun _ => List.forall_mem_nil _) all steps 0

/-- What is found out about items is no value, and nothing is asked of it. -/
theorem keeps_foundOut {step : α → Value → Nat → Run α} {a : α} {items : List Value}
    (all : G → ∀ v ∈ items, v.Fits k)
    (steps : ∀ a item i, Run.Keeps k (G ∧ True ∧ item.Fits k) (fun _ => True) (step a item i)) :
    Run.Keeps k G (fun _ => True) (overItems step a 0 items) :=
  keeps_overItems (fun _ => trivial) all steps 0

theorem keeps_insertDescending {isLess : Value → Value → Run Bool} {item : Value} {seen : List Value}
    (compares : ∀ a b, Run.Keeps k (G ∧ a.Fits k ∧ b.Fits k) (fun _ => True) (isLess a b))
    (fits : G → item.Fits k) (all : G → ∀ v ∈ seen, v.Fits k) :
    Run.Keeps k G (fun vs => ∀ v ∈ vs, v.Fits k) (insertDescending isLess item seen) := by
  induction seen with
  | nil => exact .pure fun g => List.forall_mem_singleton.mpr (fits g)
  | cons last rest ih =>
    have later (g : G) : ∀ v ∈ rest, v.Fits k := fun v inside => all g v (List.mem_cons_of_mem _ inside)
    have here (g : G) : last.Fits k := all g last List.mem_cons_self
    refine .bind ((compares item last).given fun g => ⟨g, fits g, here g⟩) fun less => ?_
    split
    · exact .bind ((ih later).given And.left) fun vs =>
        .pure fun g => List.forall_mem_cons.mpr ⟨here g.1.1, g.2⟩
    · exact .pure fun g => List.forall_mem_cons.mpr ⟨fits g.1, all g.1⟩

/-- What is left of a list, each item as it should be. -/
theorem keeps_filterMapM {β : Type} {Q : α → β → Prop} {step : α → Run (Option β)} {as : List α}
    (steps : ∀ a, Run.Keeps k (G ∧ a ∈ as) (fun kept => ∀ b ∈ kept, Q a b) (step a)) :
    Run.Keeps k G (fun bs => ∃ left, left.Sublist as ∧ List.Forall₂ Q left bs) (as.filterMapM step) := by
  -- The loop keeps what it has so far in reverse.
  have loop {H : Prop} (more : H → G) (rest : List α) (inside : rest ⊆ as) (seen : List β) :
      Run.Keeps k H (fun bs => ∃ left new, bs = seen.reverse ++ new ∧ left.Sublist rest ∧ List.Forall₂ Q left new)
        (List.filterMapM.loop step rest seen) := by
    induction rest generalizing H seen with
    | nil => exact .pure fun _ => ⟨[], [], (List.append_nil _).symm, List.Sublist.refl _, .nil⟩
    | cons a rest ih =>
      obtain ⟨here, later⟩ := List.cons_subset.mp inside
      refine .bind ((steps a).given fun g => ⟨more g, here⟩) fun kept => ?_
      cases kept with
      | none =>
        refine (ih (fun g => more g.1) later seen).mono id fun _ bs => ?_
        rintro ⟨left, new, same, some, all⟩
        exact ⟨left, new, same, some.cons a, all⟩
      | some b =>
        refine (ih (fun g => more g.1) later (b :: seen)).mono id fun g bs => ?_
        rintro ⟨left, new, rfl, some, all⟩
        exact ⟨a :: left, b :: new, by simp, some.cons_cons a, .cons (g.2 b rfl) all⟩
  refine (loop id as (List.Subset.refl _) []).mono id fun _ bs => ?_
  rintro ⟨left, new, rfl, some, all⟩
  exact ⟨left, some, all⟩

/-- What is judged at the end of a run that keeps within caps. -/
theorem keeps_judged {m : Run α} (h : Run.Keeps k G P m) {c : α → Called}
    (judged : ∀ a, G → P a → (c a).Fits k ∨ (c a).Exceeds) :
    Run.Keeps k G (Called.Fits k) ((do return c (← m)) >>= Called.noted) := by
  simp only [bind_assoc, pure_bind]
  exact .bind h fun a => .noted fun g => judged a g.1 g.2

end Items

/-! ## Calling back -/

/-- A name as a function value. -/
theorem built_pointerTo {name : String} (fits : (Value.text name).Fits k) :
    ResultBuilt k true (pointerTo name) := by
  unfold pointerTo
  split
  · exact nofun
  · split
    · exact .named fits.holdsText
    · exact nofun

/-- What is bound to a function is within caps. -/
theorem fits_curried {name : String} {body : Option Function} {cells : List Nat} {bound args : List Value}
    (fits : (Value.function name body cells bound).Fits k) (all : ∀ v ∈ args, v.Fits k) :
    (Value.function name body cells (bound ++ args)).Fits k :=
  .function fits.name fits.body fun v inside => (List.mem_append.mp inside).elim (fits.bound v) (all v)

theorem fits_wrap {owner : String} {p : Option Position} {c : Called} (fits : c.Fits k) :
    ({ c with outcome := wrap owner p c.outcome } : Called).Fits k := by
  obtain ⟨outcome, target⟩ := c
  cases outcome with
  | ok v => exact fits
  | error stop =>
    have stopped := fits.stop stop rfl
    cases stop with
    | fault e => exact .error stopped fits.target
    | exit v => exact .error nofun fits.target
    | leave v => exact fits
    | giveBack v => exact fits
    | next => exact fits

namespace Keeps

variable (h : Eval.Keeps k ev) (w : G → env.Fits k)

include h w

section Library

variable {native : Native} (library : native.Keeps k)

include library

protected theorem callInside {f : Value} {args : List Value} {this : Option Receiver} (p : Option Position)
    (fits : G → f.Fits k) (all : G → ∀ v ∈ args, v.Fits k) (held : G → ∀ r ∈ this, r.value.Fits k) :
    Run.Keeps k G (Called.Fits k) (callInside ev native env f args this p) :=
  .guard (.aside (Keeps.callPointerWith h (fun g => (w g).deeper _) library f args this p fits all held))

/-- What a function value is offered is within caps. -/
abbrev OfferFits (k : Caps) (offer : Offer) : Prop :=
  (∀ v ∈ offer.1, v.Fits k) ∧ ∀ r ∈ offer.2, r.value.Fits k

protected theorem tryInTurn {f : Value} (p : Option Position) {offers : List Offer} (fits : G → f.Fits k)
    (all : G → ∀ offer ∈ offers, OfferFits k offer) :
    Run.Keeps k G (Called.Fits k) (tryInTurn ev native env f p offers) := by
  induction offers generalizing G with
  | nil => exact .pure fun _ => .ok (.flat rfl) .none
  | cons offer rest ih =>
    obtain ⟨args, this⟩ := offer
    have first (g : G) : OfferFits k (args, this) := all g _ List.mem_cons_self
    cases rest with
    | nil => exact Keeps.callInside h w library p fits (fun g => (first g).1) fun g => (first g).2
    | cons next rest =>
      refine .bind (Keeps.callInside h w library p fits (fun g => (first g).1) fun g => (first g).2)
        fun called => ?_
      split
      · exact ih (fun g => w g.1) (fun g => fits g.1)
          fun g offer inside => all g.1 offer (List.mem_cons_of_mem _ inside)
      · exact .pure And.right

protected theorem callBack (owner : String) {f : Value} (p : Option Position) {args : List Value} (place : Nat)
    {more : List Value} {item : Value} (fits : G → f.Fits k) (all : G → ∀ v ∈ args, v.Fits k)
    (others : G → ∀ v ∈ more, v.Fits k) (itself : G → item.Fits k) :
    Run.Keeps k G (fun r => r.1.Fits k ∧ r.2.Fits k)
      (callBack ev native env owner f p args place more item) := by
  have held (g : G) : ∀ r ∈ some (⟨item, none⟩ : Receiver), r.value.Fits k :=
    fun r same => Option.mem_some.mp same ▸ itself g
  have joined (g : G) : ∀ v ∈ args.insertIdx place item, v.Fits k := by
    intro v inside
    by_cases within : place ≤ args.length
    · rcases (List.mem_insertIdx within).mp inside with rfl | inside
      · exact itself g
      · exact all g v inside
    · rw [List.insertIdx_of_length_lt (Nat.not_le.mp within)] at inside
      exact all g v inside
  have both {vs : List Value} (some : G → ∀ v ∈ vs, v.Fits k) (g : G) : ∀ v ∈ vs ++ more, v.Fits k :=
    fun v inside => (List.mem_append.mp inside).elim (some g v) (others g v)
  have ended {called : Run Called} (keeps : Run.Keeps k G (Called.Fits k) called) :
      Run.Keeps k G (fun r => r.1.Fits k ∧ r.2.Fits k) (do
        let called ← called
        let answer ← ({ called with outcome := wrap owner p called.outcome } : Called).finish
        return (answer, called.target.getD item)) := by
    refine .bind keeps fun called => .bind (.finish fun g => fits_wrap g.2) fun answer =>
      .pure fun g => ⟨g.2, ?_⟩
    cases target : called.target with
    | none => exact itself g.1.1
    | some v => exact g.1.2.target v target
  have offers (g : G) : ∀ offer ∈ ([(args, some ⟨item, none⟩), (args.insertIdx place item, none),
      (args.insertIdx place item ++ more, none), (args ++ more, some ⟨item, none⟩)] : List Offer),
      OfferFits k offer := by
    simp only [List.forall_mem_cons]
    exact ⟨⟨all g, held g⟩, ⟨joined g, nofun⟩, ⟨both joined g, nofun⟩, ⟨both all g, held g⟩, nofun⟩
  unfold callBack
  dsimp only
  split
  · next found =>
    have offer (g : G) := offers g _ (List.mem_of_find?_eq_some found)
    exact ended (Keeps.callInside h w library p fits (fun g => (offer g).1) fun g => (offer g).2)
  · refine ended (Keeps.tryInTurn h w library p fits fun g offer inside => offers g offer ?_)
    grind

protected theorem isLess {f : Value} (p : Option Position) (fits : G → f.Fits k) (a b : Value) :
    Run.Keeps k (G ∧ a.Fits k ∧ b.Fits k) (fun _ => True) (isLess ev native env f p a b) := by
  refine .bind (Keeps.callInside h (fun g => w g.1) library p (fun g => fits g.1)
    (fun g => List.forall_mem_cons.mpr ⟨g.2.1, List.forall_mem_singleton.mpr g.2.2⟩) fun _ => nofun)
    fun called => ?_
  split
  · exact .pure fun _ => trivial
  · exact .pure fun _ => trivial
  · exact .pure fun _ => trivial

protected theorem firstIndex {f : Value} (p : Option Position) (start : Nat) {items : List Value}
    (fits : G → f.Fits k) (all : G → ∀ v ∈ items, v.Fits k) :
    Run.Keeps k G (fun _ => True) (firstIndex ev native env f p start items) := by
  refine .bind (keeps_foundOut (fun g v inside => all g v (List.drop_subset _ _ inside))
    fun found item i => ?_) fun _ => .pure fun _ => trivial
  split
  · exact .pure fun _ => trivial
  · exact .bind (Keeps.callBack h (fun g => w g.1) library "index_of" p 0 (fun g => fits g.1)
      (fun _ => List.forall_mem_nil _) (fun _ => List.forall_mem_singleton.mpr (.flat rfl)) fun g => g.2.2)
        fun _ => .pure fun _ => trivial

/-- A library function of an array, if there is one of that name. -/
protected theorem overArray? (name : String) {items : List Value} {f : Value} {rest : List Value}
    (p : Option Position) (whole : G → (Value.array items).Fits k) (fits : G → f.Fits k)
    (others : G → ∀ v ∈ rest, v.Fits k) {m : Run Called}
    (found : overArray? ev native env name items f rest p = some m) :
    Run.Keeps k G (Called.Fits k) (m >>= Called.noted) := by
  have all (g : G) : ∀ v ∈ items, v.Fits k := (whole g).items
  have call {H : Prop} (more : H → G) {args : List Value} (place index : Nat) {item : Value}
      (given : H → ∀ v ∈ args, v.Fits k) (itself : H → item.Fits k) :
      Run.Keeps k H (fun r => r.1.Fits k ∧ r.2.Fits k)
        (callBack ev native env name f p args place [.integer (Int64.ofNat index)] item) :=
    Keeps.callBack h (fun g => w (more g)) library name p place (fun g => fits (more g)) given
      (fun _ => List.forall_mem_singleton.mpr (.flat rfl)) itself
  have callItem {H : Prop} {item : Value} (index : Nat) : Run.Keeps k (G ∧ H ∧ item.Fits k)
      (fun r => r.1.Fits k ∧ r.2.Fits k)
      (callBack ev native env name f p [] 0 [.integer (Int64.ofNat index)] item) :=
    call And.left 0 index (fun _ => List.forall_mem_nil _) fun g => g.2.2
  have callOnto {sum item : Value} (index : Nat) : Run.Keeps k (G ∧ sum.Fits k ∧ item.Fits k)
      (fun r => r.1.Fits k ∧ r.2.Fits k)
      (callBack ev native env name f p [sum] 1 [.integer (Int64.ofNat index)] item) :=
    call And.left 1 index (fun g => List.forall_mem_singleton.mpr g.2.1) fun g => g.2.2
  have looked {v : Value} (built : v.Built k false) (g : G) :
      Called.Fits k ⟨Called.judge env p (some (.array items)) (.ok v), none⟩ ∨
        Called.Exceeds ⟨Called.judge env p (some (.array items)) (.ok v), none⟩ :=
    Called.judged_look p (w g).kept (r := .ok v) built _
  have headed (g : G) : (rest.headD .unit).Fits k := by
    cases rest with
    | nil => exact .flat rfl
    | cons v _ => exact others g v List.mem_cons_self
  have listed {vs : List Value} (some : ∀ v ∈ vs, v.Fits k) : (Value.array vs.reverse).Built k false :=
    .array nofun fun v inside => (some v (List.mem_reverse.mp inside)).unsized
  have changed {vs : List Value} (some : ∀ v ∈ vs, v.Fits k) (g : G) :
      Called.Fits k ⟨Called.judge env p (.some (.array vs.reverse)) (.ok .unit), .some (.array vs.reverse)⟩ ∨
        Called.Exceeds ⟨Called.judge env p (.some (.array vs.reverse)) (.ok .unit),
          .some (.array vs.reverse)⟩ :=
    Called.judged_change p (w g).kept (r := .ok .unit) (.flat rfl) (listed some) nofun
  unfold overArray? at found
  dsimp only at found
  split at found
  case h_1 => -- map
    cases found
    refine keeps_judged (keeps_collected all fun seen item i => ?_) fun vs g some => looked (listed some) g
    exact .bind (callItem i) fun r => .pure fun g => List.forall_mem_cons.mpr ⟨g.2.1, g.1.2.1⟩
  case h_2 => -- filter
    cases found
    refine keeps_judged (keeps_collected all fun seen item i => ?_) fun vs g some => looked (listed some) g
    refine .bind (callItem i) fun r => .pure fun g => ?_
    split
    · exact List.forall_mem_cons.mpr ⟨g.2.2, g.1.2.1⟩
    · exact g.1.2.1
  case h_3 => -- reduce
    split at found
    · cases found
    · cases found
      refine keeps_judged (P := Value.Fits k) (keeps_overItems headed all (fun sum item i => ?_) 0)
        fun v g fits => looked fits.unsized g
      exact .bind (callOnto i) fun r => .pure fun g => g.2.1
  case h_4 => -- reduce_rev
    split at found
    · cases found
    · cases found
      refine keeps_judged (P := Value.Fits k) (keeps_overItems headed
        (fun g v inside => all g v (List.mem_reverse.mp inside)) (fun sum item i => ?_) 0)
        fun v g fits => looked fits.unsized g
      exact .bind (callOnto _) fun r => .pure fun g => g.2.1
  case h_5 => -- some
    cases found
    refine keeps_judged (keeps_foundOut all fun found item i => ?_) fun _ g _ => looked (.flat rfl) g
    split
    · exact .pure fun _ => trivial
    · exact .bind (callItem i) fun _ => .pure fun _ => trivial
  case h_6 => -- all
    cases found
    refine keeps_judged (keeps_foundOut all fun found item i => ?_) fun _ g _ => looked (.flat rfl) g
    split
    · exact .pure fun _ => trivial
    · exact .bind (callItem i) fun _ => .pure fun _ => trivial
  case h_7 => -- find
    cases found
    refine keeps_judged (P := FitsIfAny k) (keeps_overItems (fun _ => .none) all
      (fun found item i => ?_) 0) fun found g fits => looked ?_ g
    · split
      · exact .pure fun g => g.2.1
      · refine .bind (callItem i) fun r => .pure fun g => ?_
        split
        · exact .some g.2.2
        · exact .none
    · cases found with
      | none => exact .flat rfl
      | some v => exact (fits v rfl).unsized
  case h_8 => -- index_of
    obtain ⟨start, -, rfl⟩ := Option.map_eq_some_iff.mp found
    exact keeps_judged (Keeps.firstIndex h w library p start fits all) fun _ g _ => looked (.flat rfl) g
  case h_9 => -- for_each
    cases found
    refine keeps_judged (keeps_collected all fun seen item i => ?_) fun vs g some => changed some g
    exact .bind (callItem i) fun r => .pure fun g => List.forall_mem_cons.mpr ⟨g.2.2, g.1.2.1⟩
  case h_10 => -- sort
    cases found
    refine keeps_judged (keeps_collected all fun seen item i => ?_) fun vs g some => changed some g
    exact keeps_insertDescending
      (fun a b => (Keeps.isLess h w library p fits a b).given fun g => ⟨g.1.1, g.2⟩) (fun g => g.2.2)
      fun g => g.2.1
  case h_11 => cases found

protected theorem filterEntries {entries : Entries} {f : Value} (p : Option Position)
    (whole : G → (Value.object entries).Fits k) (fits : G → f.Fits k) :
    Run.Keeps k G (Called.Fits k) (filterEntries ev native env entries f p >>= Called.noted) := by
  refine keeps_judged (keeps_filterMapM (Q := fun e e' => e.1 = e'.1 ∧ e'.2.Fits k) fun e => ?_)
    fun after g left => ?_
  · have named (g : G ∧ e ∈ entries) : (Value.text e.1).Fits k := .text fun _ => (whole g.1).names e g.2
    refine .bind (Keeps.callBack h (fun g => w g.1) library "filter" p 1 (fun g => fits g.1)
      (fun g => List.forall_mem_singleton.mpr (named g)) (fun _ => List.forall_mem_nil _)
      fun g => (whole g.1).entries e g.2) fun r => .pure fun g => ?_
    split
    · exact fun _ same => Option.mem_some.mp same ▸ ⟨rfl, g.2.2⟩
    · exact nofun
  · obtain ⟨left, some, all⟩ := left
    exact Called.judged_look p (w g).kept (r := .ok (.object after)) ((whole g).unsized.left some all) _

/-- A library function that calls functions, if there is one of that name. -/
protected theorem higher? (name : String) {args : List Value} (p : Option Position)
    (all : G → ∀ v ∈ args, v.Fits k) {m : Run Called} (found : higher? ev native env name args p = some m) :
    Run.Keeps k G (Called.Fits k) (m >>= Called.noted) := by
  unfold higher? at found
  split at found
  · exact Keeps.overArray? h w library name p (fun g => all g _ List.mem_cons_self) (fun g => all g _ (by simp))
      (fun g v inside => all g v (by simp [inside])) found
  · next items f rest =>
    have pointed (g : G) : ResultBuilt k true (pointerTo f) := built_pointerTo (all g _ (by simp))
    split at found
    · split at found
      · next v named =>
        rw [named] at pointed
        exact Keeps.overArray? h w library name p (fun g => all g _ List.mem_cons_self) pointed
          (fun g v inside => all g v (by simp [inside])) found
      · next cause named =>
        rw [named] at pointed
        cases found
        simp only [pure_bind]
        exact .noted fun g => .inl (.refused (pointed g))
    · cases found
  · split at found
    · cases found
      exact Keeps.filterEntries h w library p (fun g => all g _ List.mem_cons_self) fun g => all g _ (by simp)
    · cases found
  · cases found

end Library

/-! ## Calls by name and by value -/

omit w in
theorem keeps_callNative : Native.Keeps k (callNative ev) := by
  intro G env name args p w all
  unfold callNative
  split
  · next m found =>
    exact .bind (.tick p env) fun _ => Keeps.higher? h (fun g => w g.1) keeps_callPlain name p (fun g => all g.1) found
  · exact keeps_callPlain name p w all

protected theorem callPointer {callee : Value} {args : List Value} {this : Option Receiver}
    (p : Option Position) (fits : G → callee.Fits k) (all : G → ∀ v ∈ args, v.Fits k)
    (held : G → ∀ r ∈ this, r.value.Fits k) :
    Run.Keeps k G (Called.Fits k) (callPointer ev env callee args this p) :=
  Keeps.callPointerWith h w (keeps_callNative h) callee args this p fits all held

protected theorem callNamed (name : String) {args : List Value} (p : Option Position)
    (all : G → ∀ v ∈ args, v.Fits k) : Run.Keeps k G (Called.Fits k) (callNamed ev env name args p) := by
  unfold callNamed
  split
  · next f found => exact Keeps.callByName h w f args none p (fun g => (w g).find? found) all fun _ => nofun
  · exact keeps_callNative h name p w all

/-! ## Calls as expressions -/

protected theorem callOnVariable (name target : String) (q : Position) {rest : List Expr} (p : Position)
    (measured : G → measuredAll k rest = true) :
    Run.Keeps k G (Value.Fits k) (callOnVariable ev env name target q rest p) := by
  refine .bind (Keeps.arguments h w rest measured) fun args => .bind (.tick _ env) fun _ =>
    .bind (.lookup? target) fun found => ?_
  split
  · next x =>
    refine .get fun s => .bind (Keeps.callNamed h (fun g => w g.1.1.1.1) name _ fun g => ?_) fun called => ?_
    · exact List.forall_mem_cons.mpr ⟨g.2.read (g.1.2 x rfl), g.1.1.1.2⟩
    · dsimp only
      split
      · next changed _ =>
        exact .bind (.store target fun g => g.2.target _ changed) fun _ => .finish fun g => g.1.2
      · exact .finish And.right
  · split
    · next f named =>
      refine .bind (Keeps.callNamed h (fun g => w g.1.1.1) name _ fun g => ?_) fun called => .finish And.right
      exact List.forall_mem_cons.mpr ⟨(w g.1.1.1).functionNamed? named, g.1.1.2⟩
    · exact .fail _ nofun

protected theorem callOnThis (name : String) (q : Position) {rest : List Expr} (p : Position)
    (measured : G → measuredAll k rest = true) :
    Run.Keeps k G (Value.Fits k) (callOnThis ev env name q rest p) := by
  refine .bind (Keeps.arguments h w rest measured) fun args => .bind (.tick _ env) fun _ => .get fun s => ?_
  split
  · exact .fail _ nofun
  · next this held =>
    refine .bind (Keeps.callNamed h (fun g => w g.1.1.1) name _ fun g => ?_) fun called => ?_
    · exact List.forall_mem_cons.mpr ⟨g.2.this this held, g.1.1.2⟩
    · dsimp only
      split
      · next changed _ =>
        exact .bind (.setThis fun g => g.2.target _ changed) fun _ => .finish fun g => g.1.2
      · exact .finish And.right

protected theorem apply (name : String) {args : List Expr} (p : Position)
    (measured : G → measuredAll k args = true) :
    Run.Keeps k G (Value.Fits k) (apply ev env name args p) := by
  unfold apply
  split
  · exact Keeps.callOnVariable h w name _ _ p fun g => (Bool.and_eq_true_iff.mp (measured g)).2
  · exact Keeps.callOnThis h w name _ p fun g => (Bool.and_eq_true_iff.mp (measured g)).2
  · exact .bind (Keeps.arguments h w args measured) fun vs =>
      .bind (Keeps.callNamed h (fun g => w g.1) name _ And.right) fun called => .finish And.right

protected theorem pointer {e : Expr} (measured : G → e.measured k = true) :
    Run.Keeps k G (Value.Fits k) (pointer ev env e) := by
  refine .bind (h (.expression e) w measured) fun v => ?_
  split
  · exact .ofResult _ fun g => built_pointerTo g.2
  · exact .fail _ nofun

protected theorem applyPointer {e : Expr} {args : List Expr} (p : Position)
    (measured : G → e.measured k = true) (all : G → measuredAll k args = true) :
    Run.Keeps k G (Value.Fits k) (applyPointer ev env e args p) := by
  refine .bind (h (.expression e) w measured) fun callee => ?_
  split
  · exact Keeps.apply h (fun g => w g.1) _ p fun g => all g.1
  · exact .bind (Keeps.arguments h (fun g => w g.1) args fun g => all g.1) fun vs =>
      .bind (Keeps.callPointer h (fun g => w g.1.1) _ (fun g => g.1.2) And.right fun _ => nofun) fun called =>
        .finish And.right
  · exact .fail _ nofun

protected theorem curried {e : Expr} {args : List Expr} (measured : G → e.measured k = true)
    (all : G → measuredAll k args = true) : Run.Keeps k G (Value.Fits k) (curried ev env e args) := by
  refine .bind (h (.expression e) w measured) fun v => ?_
  split
  · exact .bind (Keeps.arguments h (fun g => w g.1) args fun g => all g.1) fun vs =>
      .pure fun g => fits_curried g.1.2 g.2
  · exact .fail _ nofun

protected theorem isVariable {e : Expr} (measured : G → e.measured k = true) :
    Run.Keeps k G (Value.Fits k) (isVariable ev env e) := by
  refine .bind (h (.expression e) w measured) fun v => ?_
  split
  · exact .bind (.lookup? _) fun _ => .pure fun _ => .flat rfl
  · exact .fail _ nofun

protected theorem isFunction {e count : Expr} (measured : G → e.measured k = true)
    (measured' : G → count.measured k = true) : Run.Keeps k G (Value.Fits k) (isFunction ev env e count) := by
  refine .bind (h (.expression e) w measured) fun v => ?_
  split
  · refine .bind (h (.expression count) (fun g => w g.1) fun g => measured' g.1) fun n => ?_
    split
    · exact .pure fun _ => .flat rfl
    · exact .fail _ nofun
  · exact .fail _ nofun

protected theorem call (name : String) {args : List Expr} (p : Position)
    (measured : G → measuredAll k args = true) : Run.Keeps k G (Value.Fits k) (call ev env name args p) := by
  have first {e : Expr} {rest : List Expr} (measured : measuredAll k (e :: rest) = true) :
      e.measured k = true ∧ measuredAll k rest = true := Bool.and_eq_true_iff.mp measured
  refine .bind (.tick _ env) fun _ => ?_
  split
  · exact Keeps.pointer h (fun g => w g.1) fun g => (first (measured g.1)).1
  · exact Keeps.applyPointer h (fun g => w g.1) p (fun g => (first (measured g.1)).1)
      fun g => (first (measured g.1)).2
  · exact Keeps.curried h (fun g => w g.1) (fun g => (first (measured g.1)).1) fun g => (first (measured g.1)).2
  · exact Keeps.isVariable h (fun g => w g.1) fun g => (first (measured g.1)).1
  · exact Keeps.isFunction h (fun g => w g.1) (fun g => (first (measured g.1)).1)
      fun g => (first (first (measured g.1)).2).1
  · exact Keeps.apply h (fun g => w g.1) name p fun g => measured g.1

end Keeps

end ScriptGate.Script.Eval
