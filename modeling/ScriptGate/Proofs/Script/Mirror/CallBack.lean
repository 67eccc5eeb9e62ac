import ScriptGate.Proofs.Script.Mirror.Call

/-!
# Library functions that mirror others

The library functions that call functions back, and with them all calls that are expressions. What is
called back, and with how many arguments, does not depend on places, nor does whether a call fits.
-/

namespace ScriptGate.Script

variable {constants : Bool} {lead : Nat} {ground : Ground} {ev ev' : Eval} {env env' : Env}

namespace Mirrors

variable {α : Type} [Castable α]

/-- The first item that a condition holds of, which goes by neither bodies nor places. -/
theorem find? (q q' : α → Bool) (alike : ∀ {a a'}, Mirrors constants a a' → q' a' = q a)
    {as as' : List α} (h : Mirrors constants as as') :
    Mirrors constants (as.find? q) (as'.find? q') := by
  induction as generalizing as' with
  | nil =>
    obtain rfl : as' = [] := h.bare
    exact .none
  | cons a rest ih =>
    obtain ⟨⟨⟩, -⟩ | ⟨_, a', _, rest', ⟨⟩, rfl, first, others⟩ := h.list_cases
    rw [List.find?_cons, List.find?_cons, alike first]
    split
    · exact .some first
    · exact ih others

theorem getD {o o' : Option α} (h : Mirrors constants o o') {a a' : α} (others : Mirrors constants a a') :
    Mirrors constants (o.getD a) (o'.getD a') := by
  rcases h.option_cases with ⟨rfl, rfl⟩ | ⟨b, b', rfl, rfl, values⟩
  · exact others
  · exact values

theorem headD {as as' : List Value} (h : Mirrors constants as as') :
    Mirrors constants (as.headD .unit) (as'.headD .unit) :=
  h.natural (f := fun as : List Value => as.headD .unit) fun _ as => by cases as <;> rfl

theorem insertIdx (place : Nat) {as as' : List α} (h : Mirrors constants as as') {a a' : α}
    (items : Mirrors constants a a') :
    Mirrors constants (as.insertIdx place a) (as'.insertIdx place a') :=
  natural₂ (f := fun (as : List α) a => as.insertIdx place a)
    (fun _ _ _ => (List.map_insertIdx ..).symm) h items

end Mirrors

namespace Eval

/-! ## Offers -/

theorem mirrors_fits? {f f' : Value} (functions : Script.Mirrors constants f f') {offer offer' : Offer}
    (offers : Script.Mirrors constants offer offer') : fits? f' offer' = fits? f offer := by
  obtain rfl := functions.bare
  cases f with
  | function name body cells bound =>
    rw [recast_function]
    cases body with
    | none => rfl
    | some g =>
      simp only [fits?, Option.map_some, Function.params_recast, List.length_map, offers.fst.length_eq]
  | array | object => rfl
  | _ => rfl

theorem mirrors_isUnfit {f f' : Value} (functions : Script.Mirrors constants f f')
    {r r' : Except Stop Value} (results : Script.Mirrors constants r r') :
    isUnfit f' r' = isUnfit f r := by
  obtain rfl := functions.bare
  obtain rfl := results.bare
  cases r with
  | ok v => rfl
  | error stop =>
    cases stop with
    | fault e =>
      cases e with
      | plain cause p => cases cause <;> cases f <;> rfl
      | inCall => rfl
    | _ => rfl

theorem mirrors_wrap (owner : String) {p p' : Option Position} (places : Script.Mirrors constants p p')
    {r r' : Except Stop Value} (results : Script.Mirrors constants r r') :
    Script.Mirrors constants (wrap owner p r) (wrap owner p' r') := by
  refine .natural₂ (fun c p r => ?_) places results
  cases r with
  | ok v => rfl
  | error stop => cases stop <;> rfl

/-! ## Items in turn -/

section Items

variable {α β : Type} [Castable α] [Castable β]

theorem mirrors_overItems {step step' : α → Value → Nat → Run α}
    (steps : ∀ {a a'}, Script.Mirrors constants a a' → ∀ {item item'},
      Script.Mirrors constants item item' → ∀ i,
        Run.Alike constants lead ground (step a item i) (step' a' item' i))
    {a a' : α} (starts : Script.Mirrors constants a a') (index : Nat) {items items' : List Value}
    (lists : Script.Mirrors constants items items') :
    Run.Alike constants lead ground (overItems step a index items) (overItems step' a' index items') := by
  induction items generalizing a a' index items' with
  | nil =>
    obtain rfl : items' = [] := lists.bare
    exact .pure starts
  | cons item rest ih =>
    obtain ⟨⟨⟩, -⟩ | ⟨_, item', _, rest', ⟨⟩, rfl, first, others⟩ := lists.list_cases
    exact .bind (steps starts first index) fun sums => ih sums (index + 1) others

theorem mirrors_insertDescending {isLess isLess' : Value → Value → Run Bool}
    (compares : ∀ {a a'}, Script.Mirrors constants a a' → ∀ {b b'}, Script.Mirrors constants b b' →
      Run.Alike constants lead ground (isLess a b) (isLess' a' b'))
    {item item' : Value} (items : Script.Mirrors constants item item') {seen seen' : List Value}
    (lists : Script.Mirrors constants seen seen') :
    Run.Alike constants lead ground (insertDescending isLess item seen)
      (insertDescending isLess' item' seen') := by
  induction seen generalizing seen' with
  | nil =>
    obtain rfl : seen' = [] := lists.bare
    exact .pure (.cons items .nil)
  | cons last rest ih =>
    obtain ⟨⟨⟩, -⟩ | ⟨_, last', _, rest', ⟨⟩, rfl, first, others⟩ := lists.list_cases
    refine .bind (compares items first) fun {less less'} same => ?_
    obtain rfl : less = less' := same.bare.symm
    cases less with
    | true => exact .bind (ih others) fun later => .pure (.cons first later)
    | false => exact .pure (.cons items lists)

theorem mirrors_filterMapM {step step' : α → Run (Option β)}
    (steps : ∀ {a a'}, Script.Mirrors constants a a' → Run.Alike constants lead ground (step a) (step' a'))
    {as as' : List α} (lists : Script.Mirrors constants as as') :
    Run.Alike constants lead ground (as.filterMapM step) (as'.filterMapM step') := by
  have loop {seen seen' : List β} (kept : Script.Mirrors constants seen seen') :
      Run.Alike constants lead ground (List.filterMapM.loop step as seen)
        (List.filterMapM.loop step' as' seen') := by
    induction as generalizing as' seen seen' with
    | nil =>
      obtain rfl : as' = [] := lists.bare
      exact .pure kept.reverse
    | cons a rest ih =>
      obtain ⟨⟨⟩, -⟩ | ⟨_, a', _, rest', ⟨⟩, rfl, first, others⟩ := lists.list_cases
      refine .bind (steps first) fun found => ?_
      rcases found.option_cases with ⟨rfl, rfl⟩ | ⟨b, b', rfl, rfl, values⟩
      · exact ih others kept
      · exact ih others (.cons values kept)
  exact loop .nil

theorem mirrors_isTrue {v v' : Value} (values : Script.Mirrors constants v v') :
    isTrue v' = isTrue v :=
  values.eq_of fun _ v => by cases v <;> rfl

end Items

namespace Mirrors

variable (h : Mirrors constants lead ev ev') (w : Script.Mirrors constants env env')
  {p p' : Option Position} (places : Script.Mirrors constants p p')

include h w places

section Library

variable {native native' : Native} (library : NativeMirrors constants lead native native')
  {f f' : Value} (functions : Script.Mirrors constants f f')

include library functions

/-! ## Calling back -/

protected theorem callInside {args args' : List Value} (values : Script.Mirrors constants args args')
    {this this' : Option Receiver} (on : Script.Mirrors constants this this') :
    Run.Alike constants lead ground (callInside ev native env f args this p)
      (callInside ev' native' env' f' args' this' p') := by
  have inside (levels : Nat) : Run.Alike constants lead ground
      (Called.guard (Run.aside (callPointerWith ev native
        { env with level := env.level + levels } f args this p)))
      (Called.guard (Run.aside (callPointerWith ev' native'
        { env' with level := env'.level + levels } f' args' this' p'))) :=
    .guard (.aside (h.callPointerWith (Env.mirrors_deeper w levels) library functions values on places))
  cases f with
  | function name body cells bound =>
    obtain ⟨body', bound', rfl, bodies, -⟩ := functions.of_function
    rcases bodies.option_cases with ⟨rfl, rfl⟩ | ⟨f, f', rfl, rfl, -⟩
    · exact inside 2
    · exact inside 1
  | array items =>
    obtain ⟨items', rfl, -⟩ := functions.of_array
    exact inside 2
  | object entries =>
    obtain ⟨entries', rfl, -⟩ := functions.of_object
    exact inside 2
  | _ =>
    obtain rfl := functions.bare
    exact inside 2

protected theorem tryInTurn {offers offers' : List Offer}
    (lists : Script.Mirrors constants offers offers') :
    Run.Alike constants lead ground (tryInTurn ev native env f p offers)
      (tryInTurn ev' native' env' f' p' offers') := by
  induction offers generalizing offers' with
  | nil =>
    obtain rfl : offers' = [] := lists.bare
    exact .pure (.answer (.refl_of fun _ => rfl))
  | cons offer rest ih =>
    obtain ⟨⟨⟩, -⟩ | ⟨_, offer', _, rest', ⟨⟩, rfl, first, others⟩ := lists.list_cases
    have called : Run.Alike constants lead ground _ _ :=
      h.callInside w places library functions first.fst first.snd
    obtain ⟨args, this⟩ := offer
    obtain ⟨args', this'⟩ := offer'
    cases rest with
    | nil =>
      obtain rfl : rest' = [] := others.bare
      exact called
    | cons next rest =>
      obtain ⟨⟨⟩, -⟩ | ⟨_, next', _, rest', ⟨⟩, rfl, -, -⟩ := others.list_cases
      refine .bind called fun calls => ?_
      rw [mirrors_isUnfit functions calls.outcome]
      split
      · exact ih others
      · exact .pure calls

protected theorem callBack (owner : String) {args args' : List Value}
    (values : Script.Mirrors constants args args') (place : Nat) {more more' : List Value}
    (moreValues : Script.Mirrors constants more more') {item item' : Value}
    (items : Script.Mirrors constants item item') :
    Run.Alike constants lead ground (callBack ev native env owner f p args place more item)
      (callBack ev' native' env' owner f' p' args' place more' item') := by
  have on : Script.Mirrors constants (some (Receiver.mk item none)) (some ⟨item', none⟩) :=
    .some (.receiver items .none)
  have joined := values.insertIdx place items
  have offer {args args' : List Value} (values : Script.Mirrors constants args args')
      {this this' : Option Receiver} (on : Script.Mirrors constants this this') :
      Script.Mirrors constants ((args, this) : Offer) (args', this') := .pair values on
  have offers := Script.Mirrors.cons (offer values on) (.cons (offer joined .none)
    (.cons (offer (joined.append moreValues) .none) (.cons (offer (values.append moreValues) on) .nil)))
  have found := offers.find? (fun offer => (fits? f offer).getD false)
    (fun offer => (fits? f' offer).getD false)
    fun same => congrArg (Option.getD · false) (mirrors_fits? functions same)
  have ended {m m' : Run Called} (calls : Run.Alike constants lead ground m m') :
      Run.Alike constants lead ground
        (do
          let called ← m
          let answer ← ({ called with outcome := wrap owner p called.outcome } : Called).finish
          return (answer, called.target.getD item))
        (do
          let called ← m'
          let answer ← ({ called with outcome := wrap owner p' called.outcome } : Called).finish
          return (answer, called.target.getD item')) :=
    .bind calls fun calls => .bind (.finish (.called (mirrors_wrap owner places calls.outcome)
      calls.target)) fun answers => .pure (.pair answers (calls.target.getD items))
  unfold callBack
  dsimp only
  rcases found.option_cases with ⟨none, none'⟩ | ⟨o, o', some, some', same⟩
  · rw [none, none']
    exact ended (h.tryInTurn w places library functions
      (.cons (offer values on) (.cons (offer joined .none)
        (.cons (offer (values.append moreValues) on) .nil))))
  · rw [some, some']
    exact ended (h.callInside w places library functions same.fst same.snd)

protected theorem isLess {a a' b b' : Value} (as : Script.Mirrors constants a a')
    (bs : Script.Mirrors constants b b') :
    Run.Alike constants lead ground (isLess ev native env f p a b)
      (isLess ev' native' env' f' p' a' b') := by
  refine .bind (h.callInside w places library functions (.cons as (.cons bs .nil)) .none)
    fun {c c'} calls => ?_
  obtain ⟨rfl, -⟩ := calls
  obtain ⟨outcome, target⟩ := c
  cases outcome with
  | ok v => cases v <;> exact .pure (.bool _)
  | error stop => exact .pure (.bool _)

protected theorem firstIndex (start : Nat) {items items' : List Value}
    (lists : Script.Mirrors constants items items') :
    Run.Alike constants lead ground (firstIndex ev native env f p start items)
      (firstIndex ev' native' env' f' p' start items') := by
  refine .bind (mirrors_overItems (fun {found found'} same {item item'} items i => ?_) .none 0
    (lists.drop start)) fun {found found'} same => ?_
  · rcases same.option_cases with ⟨rfl, rfl⟩ | ⟨n, n', rfl, rfl, before⟩
    · refine .bind (h.callBack w places library functions _ .nil 0
        (.cons (.refl_of fun _ => rfl) .nil) items) fun {answer answer'} same => ?_
      have isTrue := mirrors_isTrue same.fst
      dsimp only
      rw [isTrue]
      split
      · exact .pure (.some (.nat _))
      · exact .pure .none
    · exact .pure (.some before)
  · obtain rfl : found' = found := same.bare.trans (by cases found <;> rfl)
    exact .pure (.refl_of fun _ => rfl)

/-- The same library function of an array, or none. -/
protected theorem overArray? (name : String) {items items' : List Value}
    (lists : Script.Mirrors constants items items') {rest rest' : List Value}
    (rests : Script.Mirrors constants rest rest') :
    Option.Rel (Run.Alike constants lead ground) (overArray? ev native env name items f rest p)
      (overArray? ev' native' env' name items' f' rest' p') := by
  have call {args args' : List Value} (values : Script.Mirrors constants args args') (place index : Nat)
      {item item' : Value} (items : Script.Mirrors constants item item') :
      Run.Alike constants lead ground
        (callBack ev native env name f p args place [.integer (Int64.ofNat index)] item)
        (callBack ev' native' env' name f' p' args' place [.integer (Int64.ofNat index)] item') :=
    h.callBack w places library functions name values place (.cons (.refl_of fun _ => rfl) .nil) items
  have looked {v v' : Value} (values : Script.Mirrors constants v v') :
      Script.Mirrors constants (⟨Called.judge env p (some (.array items)) (.ok v), none⟩ : Called)
        ⟨Called.judge env' p' (some (.array items')) (.ok v'), none⟩ :=
    .called (Called.mirrors_judge w places (.some lists.array) values.ok) .none
  have changed {items items' : List Value} (lists : Script.Mirrors constants items items') :
      Script.Mirrors constants
        (⟨Called.judge env p (some (.array items)) (.ok .unit), some (.array items)⟩ : Called)
        ⟨Called.judge env' p' (some (.array items')) (.ok .unit), some (.array items')⟩ :=
    .called (Called.mirrors_judge w places (.some lists.array) (.ok (.refl_of fun _ => rfl)))
      (.some lists.array)
  unfold overArray?
  dsimp only
  split
  case h_1 => -- map
    obtain rfl : rest' = [] := rests.bare
    exact .some (.bind (mirrors_overItems (fun seen _ _ items i =>
      .bind (call .nil 0 i items) fun same => .pure (.cons same.fst seen)) .nil 0 lists)
        fun kept => .pure (looked kept.reverse.array))
  case h_2 => -- filter
    obtain rfl : rest' = [] := rests.bare
    refine .some (.bind (mirrors_overItems (fun seen _ _ items i =>
      .bind (call .nil 0 i items) fun same => ?_) .nil 0 lists)
        fun kept => .pure (looked kept.reverse.array))
    rw [mirrors_isTrue same.fst]
    split
    · exact .pure (.cons same.snd seen)
    · exact .pure seen
  case h_3 => -- reduce
    rw [rests.length_eq]
    split
    · exact .none
    · exact .some (.bind (mirrors_overItems (fun sums _ _ items i =>
        .bind (call (.cons sums .nil) 1 i items) fun same => .pure same.fst) rests.headD 0 lists)
          fun sums => .pure (looked sums))
  case h_4 => -- reduce_rev
    rw [rests.length_eq, lists.length_eq]
    split
    · exact .none
    · exact .some (.bind (mirrors_overItems (fun sums _ _ same i =>
        .bind (call (.cons sums .nil) 1 (items.length - 1 - i) same) fun same => .pure same.fst)
          rests.headD 0 lists.reverse)
          fun sums => .pure (looked sums))
  case h_5 => -- some
    obtain rfl : rest' = [] := rests.bare
    refine .some (.bind (mirrors_overItems (fun {found found'} same _ _ items i => ?_) (.bool false) 0 lists)
      fun same => .pure (looked (same.natural fun _ _ => rfl)))
    obtain rfl : found' = found := same.bare
    split
    · exact .pure (.bool true)
    · refine .bind (call .nil 0 i items) fun same => ?_
      rw [mirrors_isTrue same.fst]
      exact .pure (.bool _)
  case h_6 => -- all
    obtain rfl : rest' = [] := rests.bare
    refine .some (.bind (mirrors_overItems (fun {held held'} same _ _ items i => ?_) (.bool true) 0 lists)
      fun same => .pure (looked (same.natural fun _ _ => rfl)))
    obtain rfl : held' = held := same.bare
    split
    · exact .pure (.bool false)
    · refine .bind (call .nil 0 i items) fun same => ?_
      rw [mirrors_isTrue same.fst]
      exact .pure (.bool _)
  case h_7 => -- find
    obtain rfl : rest' = [] := rests.bare
    refine .some (.bind (mirrors_overItems (fun found _ _ items i => ?_) .none 0 lists)
      fun found => .pure (looked (found.getD (.refl_of fun _ => rfl))))
    rcases found.option_cases with ⟨rfl, rfl⟩ | ⟨v, v', rfl, rfl, before⟩
    · refine .bind (call .nil 0 i items) fun same => ?_
      rw [mirrors_isTrue same.fst]
      split
      · exact .pure (.some same.snd)
      · exact .pure .none
    · exact .pure (.some before)
  case h_8 => -- index_of
    have start : searchStart? items'.length rest' = searchStart? items.length rest := by
      rw [lists.length_eq]
      exact rests.eq_of (f := searchStart? items.length) fun _ rest => by
        match rest with
        | [] => rfl
        | [v] => cases v <;> rfl
        | v :: _ :: _ => cases v <;> rfl
    rw [start]
    cases searchStart? items.length rest with
    | none => exact .none
    | some start =>
      exact .some (.bind (h.firstIndex w places library functions start lists) fun same =>
        .pure (looked (same.natural (f := fun n : Int => Value.integer (Int64.ofInt n)) fun _ _ => rfl)))
  case h_9 => -- for_each
    obtain rfl : rest' = [] := rests.bare
    exact .some (.bind (mirrors_overItems (fun seen _ _ items i =>
      .bind (call .nil 0 i items) fun same => .pure (.cons same.snd seen)) .nil 0 lists)
        fun after => .pure (changed after.reverse))
  case h_10 => -- sort
    obtain rfl : rest' = [] := rests.bare
    exact .some (.bind (mirrors_overItems (fun seen _ _ items _ =>
      mirrors_insertDescending (fun as _ _ bs => h.isLess w places library functions as bs)
        items seen) .nil 0 lists)
        fun ordered => .pure (changed ordered.reverse))
  case h_11 =>
    obtain rfl := rests.bare
    split <;> first | exact .none | simp_all

protected theorem filterEntries {entries entries' : Entries}
    (lists : Script.Mirrors constants entries entries') :
    Run.Alike constants lead ground (filterEntries ev native env entries f p)
      (filterEntries ev' native' env' entries' f' p') := by
  refine .bind (mirrors_filterMapM (fun {entry entry'} same => ?_) lists) fun kept =>
    .pure (.called (Called.mirrors_judge w places (.some lists.object) kept.object.ok) .none)
  have name : entry'.1 = entry.1 := same.fst.bare
  have kept {answer answer' : Value × Value} (answers : Script.Mirrors constants answer answer') :
      Script.Mirrors constants (if isTrue answer.1 then some (entry.1, answer.2) else none)
        (if isTrue answer'.1 then some (entry'.1, answer'.2) else none) := by
    rw [mirrors_isTrue answers.fst, name]
    split
    · exact .some (.pair (.string _) answers.snd)
    · exact .none
  refine .bind (h.callBack w places library functions _ (.cons ?_ .nil) 1 .nil same.snd)
    fun answers => .pure (kept answers)
  rw [name]
  exact .refl_of fun _ => rfl

omit functions in
/-- The same library function that calls functions, or none. -/
protected theorem higher? (name : String) {args args' : List Value}
    (values : Script.Mirrors constants args args') :
    Option.Rel (Run.Alike constants lead ground) (higher? ev native env name args p)
      (higher? ev' native' env' name args' p') := by
  rcases values.list_cases with ⟨rfl, rfl⟩ | ⟨first, first', more, more', rfl, rfl, firsts, others⟩
  · exact .none
  rcases others.list_cases with ⟨rfl, rfl⟩ | ⟨second, second', rest, rest', rfl, rfl, seconds, rests⟩
  · obtain rfl := firsts.bare
    cases first <;> exact .none
  cases first with
  | array items =>
    obtain ⟨items', rfl, lists⟩ := firsts.of_array
    cases second with
    | function g body cells bound =>
      obtain ⟨body', bound', rfl, -, -⟩ := seconds.of_function
      exact h.overArray? w places library seconds name lists rests
    | text g =>
      obtain rfl : second' = .text g := seconds.bare
      unfold higher?
      dsimp only
      have named : Script.Mirrors constants _ _ := mirrors_pointerTo g
      split
      · split
        · next callee found =>
          rw [found] at named
          exact h.overArray? w places library ⟨Except.ok.inj named.bare, Except.ok.inj named.plain⟩
            name lists rests
        · next cause found =>
          rw [found] at named
          refine .some (.pure (.called (.error (.fault (.caused ?_ places))) .none))
          exact ⟨Except.error.inj named.bare, Except.error.inj named.plain⟩
      · exact .none
    | _ =>
      obtain rfl := seconds.bare
      exact .none
  | object entries =>
    obtain ⟨entries', rfl, lists⟩ := firsts.of_object
    cases second with
    | function g body cells bound =>
      obtain ⟨body', bound', rfl, -, -⟩ := seconds.of_function
      rcases rests.list_cases with ⟨rfl, rfl⟩ | ⟨_, _, _, _, rfl, rfl, -, -⟩
      · unfold higher?
        dsimp only
        split
        · exact .some (h.filterEntries w places library seconds lists)
        · exact .none
      · exact .none
    | _ =>
      obtain rfl := seconds.bare
      exact .none
  | _ =>
    obtain rfl := firsts.bare
    exact .none

end Library

/-! ## Calls by name and by value -/

omit places in
protected theorem callNative (name : String) {args args' : List Value}
    (values : Script.Mirrors constants args args') (places : Script.Mirrors constants p p') :
    Run.Alike constants lead ground (callNative ev env name args p)
      (callNative ev' env' name args' p') := by
  have related : Option.Rel (Run.Alike constants lead ground) _ _ :=
    h.higher? w places (fun w name _ _ values _ _ places => mirrors_callPlain w values places name)
      name values
  unfold callNative
  generalize higher? ev callPlain env name args p = called,
    higher? ev' callPlain env' name args' p' = called' at related
  cases related with
  | none => exact mirrors_callPlain w values places name
  | some related => exact .bind (.tick w places) fun _ => .bind related fun calls => .noted calls

protected theorem callPointer {callee callee' : Value} (callees : Script.Mirrors constants callee callee')
    {args args' : List Value} (values : Script.Mirrors constants args args')
    {this this' : Option Receiver} (on : Script.Mirrors constants this this') :
    Run.Alike constants lead ground (callPointer ev env callee args this p)
      (callPointer ev' env' callee' args' this' p') :=
  h.callPointerWith w (fun w name _ _ values _ _ places => h.callNative w name values places)
    callees values on places

protected theorem callNamed (name : String) {args args' : List Value}
    (values : Script.Mirrors constants args args') :
    Run.Alike constants lead ground (callNamed ev env name args p)
      (callNamed ev' env' name args' p') := by
  unfold callNamed
  rw [values.length_eq]
  rcases (Env.mirrors_find? w name args.length).option_cases with
    ⟨none, none'⟩ | ⟨f, f', some, some', functions⟩
  · rw [none, none']
    exact h.callNative w name values places
  · rw [some, some']
    exact h.callByName w places .none functions values

/-! ## Calls as expressions -/

omit places in
protected theorem callOnVariable (name target : String) (q : Position) {rest : List Expr}
    (plain : arePlainExprs constants rest = true) (p : Position) :
    Run.Alike constants lead ground (callOnVariable ev env name target q rest p)
      (callOnVariable ev' env' name target .start (bareExprs rest) .start) := by
  refine .bind (h.arguments w plain) fun {args args'} values => .bind (.tick w (.at_ q)) fun _ =>
    .bind (.lookup? target) fun found => ?_
  rcases found.option_cases with ⟨rfl, rfl⟩ | ⟨x, x', rfl, rfl, same⟩
  · dsimp only
    rcases (Env.mirrors_functionNamed? w target).option_cases with
      ⟨none, none'⟩ | ⟨f, f', some, some', functions⟩
    · rw [none, none']
      exact .fail (fun _ => rfl) (.at_ q)
    · rw [some, some']
      exact .bind (h.callNamed w (.at_ p) name (.cons functions values)) fun calls => .finish calls
  · refine .bind .get fun {s s'} states => .bind (h.callNamed w (.at_ p) name
      (.cons (Run.Mirrors.read states (Run.Mirrors.slot same)) values)) fun {c c'} calls => ?_
    have makes : Script.Mirrors constants x.made x'.made := same.natural fun _ _ => rfl
    have ends : Run.Alike constants lead ground c.finish c'.finish := .finish calls
    obtain ⟨own, slot, made⟩ := x
    obtain ⟨own', slot', made'⟩ := x'
    obtain ⟨outcome, result⟩ := c
    obtain ⟨outcome', result'⟩ := c'
    -- Only what a library function made of a variable's own value goes back into the variable.
    obtain rfl : slot' = recast .bare slot := congrArg Variable.slot same.bare
    cases slot with
    | shared cell => exact ends
    | own v =>
      rcases makes.option_cases with ⟨rfl, rfl⟩ | ⟨_, _, rfl, rfl, -⟩
      · rcases calls.target.option_cases with ⟨⟨⟩, ⟨⟩⟩ | ⟨_, _, ⟨⟩, ⟨⟩, results⟩
        · exact ends
        · dsimp only
          rw [values.length_eq]
          rcases (Env.mirrors_find? w name (args.length + 1)).option_cases with
            ⟨none, none'⟩ | ⟨_, _, some, some', -⟩
          · rw [none, none']
            exact .bind (.store target results) fun _ => ends
          · rw [some, some']
            exact ends
      · exact ends

omit places in
protected theorem callOnThis (name : String) (q : Position) {rest : List Expr}
    (plain : arePlainExprs constants rest = true) (p : Position) :
    Run.Alike constants lead ground (callOnThis ev env name q rest p)
      (callOnThis ev' env' name .start (bareExprs rest) .start) := by
  refine .bind (h.arguments w plain) fun {args args'} values => .bind (.tick w (.at_ q)) fun _ =>
    .bind .get fun {s s'} states => ?_
  have found := states.this
  rcases found.option_cases with ⟨none, none'⟩ | ⟨this, this', held, held', same⟩
  · rw [none, none']
    exact .fail (fun _ => rfl) (.at_ q)
  · rw [held, held']
    have makes := same.receiverMade
    refine .bind (h.callNamed w (.at_ p) name (.cons same.receiverValue values)) fun {c c'} calls => ?_
    have ends : Run.Alike constants lead ground c.finish c'.finish := .finish calls
    obtain ⟨value, made⟩ := this
    obtain ⟨value', made'⟩ := this'
    obtain ⟨outcome, result⟩ := c
    obtain ⟨outcome', result'⟩ := c'
    rcases makes.option_cases with ⟨⟨⟩, ⟨⟩⟩ | ⟨_, _, ⟨⟩, ⟨⟩, -⟩
    · rcases calls.target.option_cases with ⟨⟨⟩, ⟨⟩⟩ | ⟨_, _, ⟨⟩, ⟨⟩, results⟩
      · exact ends
      · dsimp only
        rw [values.length_eq]
        rcases (Env.mirrors_find? w name (args.length + 1)).option_cases with
          ⟨none, none'⟩ | ⟨_, _, some, some', -⟩
        · rw [none, none']
          exact .bind (.setThis states held (.receiver results .none)) fun _ => ends
        · rw [some, some']
          exact ends
    · exact ends

omit places in
protected theorem apply (name : String) {args : List Expr}
    (plain : arePlainExprs constants args = true) (p : Position) :
    Run.Alike constants lead ground (apply ev env name args p)
      (apply ev' env' name (bareExprs args) .start) := by
  have usual : Run.Alike constants lead ground
      (do (← callNamed ev env name (← arguments ev env args) (some p)).finish)
      (do (← callNamed ev' env' name (← arguments ev' env' (bareExprs args)) (some .start)).finish) :=
    .bind (h.arguments w plain) fun values =>
      .bind (h.callNamed w (.at_ p) name values) fun calls => .finish calls
  unfold apply
  split
  · exact h.callOnVariable w name _ _ (Bool.and_eq_true_iff.mp plain).2 p
  · exact h.callOnThis w name _ (Bool.and_eq_true_iff.mp plain).2 p
  · next notVariable notThis =>
    cases args with
    | nil => exact usual
    | cons e rest =>
      cases e <;> first
        | exact (notVariable _ _ _ rfl).elim
        | exact (notThis _ _ rfl).elim
        | exact usual

section Operands

variable {e : Expr}

variable (plain : e.isPlain constants = true)

include plain

omit places in
protected theorem pointer :
    Run.Alike constants lead ground (pointer ev env e) (pointer ev' env' e.bare) := by
  refine .bind (h.expression w plain) fun {v v'} values => ?_
  obtain rfl := values.bare
  cases v with
  | text name => exact .ofResult (.some (.first e)) (mirrors_pointerTo name)
  | _ => exact .mismatch rfl "string" (.some (.first e))

omit places in
protected theorem applyPointer {args : List Expr} (plains : arePlainExprs constants args = true)
    (p : Position) : Run.Alike constants lead ground (applyPointer ev env e args p)
      (applyPointer ev' env' e.bare (bareExprs args) .start) := by
  refine .bind (h.expression w plain) fun {v v'} values => ?_
  cases v with
  | function name body cells bound =>
    have usual : Run.Alike constants lead ground
        (do (← callPointer ev env (.function name body cells bound) (← arguments ev env args) none
          (some p)).finish)
        (do (← callPointer ev' env' v' (← arguments ev' env' (bareExprs args)) none
          (some .start)).finish) :=
      .bind (h.arguments w plains) fun args =>
        .bind (h.callPointer w (.at_ p) values args .none) fun calls => .finish calls
    obtain ⟨body', bound', rfl, bodies, bounds⟩ := values.of_function
    rcases bodies.option_cases with ⟨rfl, rfl⟩ | ⟨_, _, rfl, rfl, -⟩
    · rcases bounds.list_cases with ⟨rfl, rfl⟩ | ⟨_, _, _, _, rfl, rfl, -, -⟩
      · exact h.apply w name plains p
      · exact usual
    · exact usual
  | _ =>
    obtain rfl := values.bare
    exact .mismatch rfl "Fn" (.some (.first e))

omit places in
protected theorem curried {args : List Expr} (plains : arePlainExprs constants args = true) :
    Run.Alike constants lead ground (curried ev env e args)
      (curried ev' env' e.bare (bareExprs args)) := by
  refine .bind (h.expression w plain) fun {v v'} values => ?_
  cases v with
  | function name body cells bound =>
    obtain ⟨body', bound', rfl, bodies, bounds⟩ := values.of_function
    exact .bind (h.arguments w plains) fun args => .pure (.function bodies (bounds.append args))
  | _ =>
    obtain rfl := values.bare
    exact .mismatch rfl "Fn" (.some (.first e))

omit places in
protected theorem isVariable :
    Run.Alike constants lead ground (isVariable ev env e) (isVariable ev' env' e.bare) := by
  refine .bind (h.expression w plain) fun {v v'} values => ?_
  obtain rfl := values.bare
  cases v with
  | text name =>
    refine .bind (.lookup? name) fun found => ?_
    rw [found.isSome_eq]
    exact .pure ⟨rfl, rfl⟩
  | _ => exact .mismatch rfl "string" (.some (.first e))

omit places in
protected theorem isFunction {count : Expr} (plains : count.isPlain constants = true) :
    Run.Alike constants lead ground (isFunction ev env e count)
      (isFunction ev' env' e.bare count.bare) := by
  refine .bind (h.expression w plain) fun {v v'} values => ?_
  obtain rfl := values.bare
  cases v with
  | text name =>
    refine .bind (h.expression w plains) fun {v v'} values => ?_
    obtain rfl := values.bare
    cases v with
    | integer n =>
      have known := (Env.mirrors_find? w name n.toInt.toNat).isSome_eq
      dsimp only [recast_integer]
      rw [known]
      exact .pure ⟨rfl, rfl⟩
    | _ => exact .mismatch rfl "i64" (.some (.first count))
  | _ => exact .mismatch rfl "string" (.some (.first e))

end Operands

omit places in
protected theorem call (name : String) {args : List Expr} (plain : arePlainExprs constants args = true)
    (p : Position) :
    Run.Alike constants lead ground (call ev env name args p)
      (call ev' env' name (bareExprs args) .start) := by
  refine .bind (.tick w (.at_ p)) fun _ => ?_
  split
  · exact h.pointer w (Bool.and_eq_true_iff.mp plain).1
  · exact h.applyPointer w (Bool.and_eq_true_iff.mp plain).1 (Bool.and_eq_true_iff.mp plain).2 p
  · exact h.curried w (Bool.and_eq_true_iff.mp plain).1 (Bool.and_eq_true_iff.mp plain).2
  · exact h.isVariable w (Bool.and_eq_true_iff.mp plain).1
  · exact h.isFunction w (Bool.and_eq_true_iff.mp plain).1
      (Bool.and_eq_true_iff.mp (Bool.and_eq_true_iff.mp plain).2).1
  · have usual : Run.Alike constants lead ground _ _ := h.apply w name plain p
    split <;> first | exact usual | simp_all [bareExprs_eq, List.map_eq_cons_iff]

end Mirrors

end Eval

end ScriptGate.Script
