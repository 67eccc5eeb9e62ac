import ScriptGate.Proofs.Script.Grow
import ScriptGate.Script.Tree.Statement

/-!
# Texts that are read in two places

The same tokens are read as a text of their own and as a part of a longer text, where more names are
known and the places are others. If they are read as a text of their own under some names
and as a part of the other text, then they also are a text of their own under any names that contain those
that are known in the other place (`Parse.Together`): that the names are known is found out there, and
everything else does not depend on names. Rules read together if the rules for their parts do.
-/

namespace ScriptGate.Script

/-- The grammar that knows other names from outside. -/
def Grammar.knowing (known : List String) (g : Grammar) : Grammar := { g with known := known }

/-- Two parsers at the same tokens. At the top of the text, the second one knows the names of the text
around it, too, all of which are `known`; within functions both used the same names without knowing
them. -/
structure Reading.Beside (known : List String) (base : Option (List (String × Bool)))
    (s s' : Reading) : Prop where
  rest : s'.rest.map Prod.fst = s.rest.map Prod.fst
  names : s'.frame.names = s.frame.names ++ base.getD []
  outer : base = none → s'.frame.outer.map Prod.fst = s.frame.outer.map Prod.fst
  functions : s'.functions.map Function.name = s.functions.map Function.name
  base : ∀ x ∈ base.getD [], x.1 ∈ known

/-- Two settings of which one may be deeper than the other, and in another place. -/
structure Setting.Beside (s s' : Setting) : Prop where
  atTop : s'.atTop = s.atTop
  inLoop : s'.inLoop = s.inLoop
  inFunction : s'.inFunction = s.inFunction
  strict : s'.strict = s.strict
  barEnds : s'.barEnds = s.barEnds

theorem Setting.Beside.placed {s s' : Setting} (h : s.Beside s') (p p' : Position) :
    Setting.Beside { s with pos := p } { s' with pos := p' } :=
  { h with }

theorem Setting.Beside.looping {s s' : Setting} (h : s.Beside s') (p p' : Position) :
    Setting.Beside { s with pos := p, inLoop := true } { s' with pos := p', inLoop := true } :=
  { h with inLoop := rfl }

namespace Parse

/-- Where a parser succeeds and so does another one beside it, a third one does what the first one does.
The results of the first two are related by `R`. -/
structure Together (known : List String) {α β : Type} (R : α → β → Prop) (m : Parse α) (m' : Parse β)
    (m'' : Parse α) : Prop where
  same : ∀ {base : Option (List (String × Bool))} {s s' : Reading}, s.Beside known base s' →
    ∀ {a : α} {t : Reading} {b : β} {u : Reading}, m s = .ok (a, t) → m' s' = .ok (b, u) →
      m'' s = .ok (a, t) ∧ R a b ∧ t.Beside known base u

/-- No relation at all. -/
def Any {α β : Type} (_ : α) (_ : β) : Prop := True

/-- What is the same up to the second part, which is a place. -/
def Placed {α : Type} (a b : α × Position) : Prop := b.1 = a.1

/-- Two turns of a repetition both go on, or both end it. -/
inductive Turn.Beside {α α' β β' : Type} (R : α → α' → Prop) (S : β → β' → Prop) :
    Turn α β → Turn α' β' → Prop where
  | again {a : α} {a' : α'} (same : R a a') : Beside R S (.again a) (.again a')
  | done {b : β} {b' : β'} (same : S b b') : Beside R S (.done b) (.done b')

namespace Together

variable {known : List String} {α β γ δ : Type} {R : α → β → Prop} {S : γ → δ → Prop}
  {m m'' : Parse α} {m' : Parse β}

/-- A parser that takes part itself. -/
theorem of_same (h : ∀ {base : Option (List (String × Bool))} {s s' : Reading}, s.Beside known base s' →
    ∀ {a : α} {t : Reading} {b : β} {u : Reading}, m s = .ok (a, t) → m' s' = .ok (b, u) →
      R a b ∧ t.Beside known base u) : Together known R m m' m :=
  ⟨fun beside _ _ _ _ first second => ⟨first, h beside first second⟩⟩

protected theorem pure {a : α} {b : β} (same : R a b) :
    Together known R (pure a) (pure b) (pure a) := by
  refine of_same fun beside _ _ _ _ first second => ?_
  cases first
  cases second
  exact ⟨same, beside⟩

protected theorem bind {f f'' : α → Parse γ} {f' : β → Parse δ} (h : Together known R m m' m'')
    (further : ∀ {a b}, R a b → Together known S (f a) (f' b) (f'' a)) :
    Together known S (m >>= f) (m' >>= f') (m'' >>= f'') := by
  constructor
  intro base s s' beside a t b u first second
  obtain ⟨x, v, first, firstMore⟩ := exists_of_bind first
  obtain ⟨y, w, second, secondMore⟩ := exists_of_bind second
  obtain ⟨third, same, later⟩ := h.same beside first second
  rw [bind_of_ok third]
  exact (further same).same later firstMore secondMore

protected theorem map {f : α → γ} {f' : β → δ} (h : Together known R m m' m'')
    (same : ∀ {a b}, R a b → S (f a) (f' b)) :
    Together known S (f <$> m) (f' <$> m') (f <$> m'') := by
  rw [← bind_pure_comp, ← bind_pure_comp, ← bind_pure_comp]
  exact .bind h fun related => .pure (same related)

/-! ### Parsers that stop -/

/-- Nothing has to be shown where the first parser always stops. -/
theorem of_stops (never : ∀ {s r}, m s = .ok r → False) : Together known R m m' m'' :=
  ⟨fun _ _ _ _ _ first _ => (never first).elim⟩

/-- Nothing has to be shown where the second parser always stops. -/
theorem of_stops_beside (never : ∀ {s r}, m' s = .ok r → False) : Together known R m m' m'' :=
  ⟨fun _ _ _ _ _ _ second => (never second).elim⟩

theorem fail (cause : CompileCause) (p : Position) : Together known R (Parse.fail cause p) m' m'' :=
  of_stops fun read => nomatch read

theorem fail_beside (cause : CompileCause) (p : Position) :
    Together known R m (Parse.fail cause p) m'' :=
  of_stops_beside fun read => nomatch read

/-- A parser that goes on with one that always stops does so too. -/
theorem bind_stops {m : Parse α} {f : α → Parse γ} {s : Reading} {r : γ × Reading}
    (read : (m >>= f) s = .ok r) (never : ∀ {a s r}, f a s = .ok r → False) : False := by
  obtain ⟨_, _, -, read⟩ := exists_of_bind read
  exact never read

theorem missing_stops {token purpose : String} {found : Lexeme} {s : Reading} {r : α × Reading}
    (read : Parse.missing token purpose found s = .ok r) : False := by
  unfold Parse.missing at read
  split at read <;> cases read

theorem missing_bind (token purpose : String) (found : Lexeme) (f : γ → Parse α) :
    Together known R (Parse.missing token purpose found >>= f) m' m'' :=
  of_stops fun read => by
    obtain ⟨_, _, first, -⟩ := exists_of_bind read
    exact missing_stops first

theorem missing (token purpose : String) (found : Lexeme) :
    Together known R (Parse.missing token purpose found) m' m'' :=
  of_stops missing_stops

/-- Going on unless something is wrong. -/
protected theorem guarded {c c' : Prop} [Decidable c] [Decidable c'] {refused refused'' : Parse α}
    {refused' : Parse β} (never : ∀ {s r}, refused s = .ok r → False)
    (never' : ∀ {s r}, refused' s = .ok r → False) (further : Together known R m m' m'') :
    Together known R (if c then refused else m) (if c' then refused' else m')
      (if c then refused'' else m'') := by
  by_cases wrong : c
  · rw [if_pos wrong]
    exact of_stops never
  · rw [if_neg wrong, if_neg wrong]
    split
    · exact of_stops_beside never'
    · exact further

/-- Going on only if that is allowed. -/
protected theorem permitted {c c' : Prop} [Decidable c] [Decidable c'] {cause cause' : CompileCause}
    {p p' : Position} (further : Together known R m m' m'') :
    Together known R (if c then m else Parse.fail cause p) (if c' then m' else Parse.fail cause' p')
      (if c then m'' else Parse.fail cause p) := by
  split
  · split
    · exact further
    · exact fail_beside _ _
  · exact fail _ _

end Together

/-! ### Tokens -/

/-- The token that a parser is at. -/
def lexeme (s : Reading) : Lexeme :=
  match s.rest with
  | lexeme :: _ => lexeme
  | [] => (.finish, s.stop)

theorem peek_eq (s : Reading) : peek s = .ok (lexeme s, s) := by
  unfold peek lexeme
  cases s.rest <;> rfl

theorem lexeme_beside {known : List String} {base : Option (List (String × Bool))} {s s' : Reading}
    (beside : s.Beside known base s') : (lexeme s').1 = (lexeme s).1 := by
  have same := beside.rest
  unfold lexeme
  cases here : s.rest with
  | nil =>
    rw [here] at same
    rw [List.map_eq_nil_iff.mp same]
  | cons first more =>
    rw [here] at same
    obtain ⟨first', more', there, head, -⟩ := List.map_eq_cons_iff.mp same
    rw [there]
    exact head

/-- A parser that takes no tokens and changes nothing, but may stop. -/
structure Checks {α : Type} (m : Parse α) : Prop where
  kept : ∀ {s t : Reading} {a : α}, m s = .ok (a, t) → t = s

namespace Checks

variable {α β : Type} {m : Parse α} {f : α → Parse β}

protected theorem pure (a : α) : Checks (pure a : Parse α) := ⟨fun read => by cases read; rfl⟩

protected theorem fail (cause : CompileCause) (p : Position) : Checks (fail cause p : Parse α) :=
  ⟨fun read => nomatch read⟩

protected theorem bind (h : Checks m) (further : ∀ a, Checks (f a)) : Checks (m >>= f) := by
  constructor
  intro s t b read
  obtain ⟨a, u, first, read⟩ := exists_of_bind read
  rw [(further a).kept read, h.kept first]

protected theorem ite {c : Prop} [Decidable c] {m' : Parse α} (h : Checks m) (h' : Checks m') :
    Checks (if c then m else m') := by
  split
  · exact h
  · exact h'

end Checks

/-- A parser whose results are all of one kind. -/
structure Gives {α : Type} (P : α → Prop) (m : Parse α) : Prop where
  of_ok : ∀ {s t : Reading} {a : α}, m s = .ok (a, t) → P a

namespace Gives

variable {α β : Type} {P : β → Prop} {m : Parse α}

protected theorem pure {b : β} (kind : P b) : Gives P (pure b) := ⟨fun read => by cases read; exact kind⟩

protected theorem fail (cause : CompileCause) (p : Position) : Gives P (fail cause p) :=
  ⟨fun read => nomatch read⟩

protected theorem bind {f : α → Parse β} (further : ∀ a, Gives P (f a)) : Gives P (m >>= f) :=
  ⟨fun read => by
    obtain ⟨a, _, -, read⟩ := exists_of_bind read
    exact (further a).of_ok read⟩

protected theorem ite {c : Prop} [Decidable c] {n n' : Parse β} (h : Gives P n) (h' : Gives P n') :
    Gives P (if c then n else n') := by
  split
  · exact h
  · exact h'

end Gives

namespace Together

variable {known : List String} {α β γ δ : Type} {R : α → β → Prop} {S : γ → δ → Prop}
  {m m'' : Parse α} {m' : Parse β}

protected theorem get : Together known Any (get : Parse Reading) get get :=
  .of_same fun beside _ _ _ _ first second => by
    cases first
    cases second
    exact ⟨trivial, beside⟩

protected theorem peek : Together known Placed peek peek peek := by
  refine of_same fun {base s s'} beside a t b u first second => ?_
  rw [peek_eq] at first second
  cases first
  cases second
  exact ⟨lexeme_beside beside, beside⟩

protected theorem skip : Together known Any skip skip skip := by
  refine of_same fun {base s s'} beside a t b u first second => ?_
  cases first
  cases second
  refine ⟨trivial, { beside with rest := ?_ }⟩
  exact List.map_tail.trans ((congrArg List.tail beside.rest).trans List.map_tail.symm)

protected theorem next : Together known Placed next next next :=
  .bind .peek fun same => .bind .skip fun _ => .pure same

/-- What follows a look at the next token. -/
theorem peek_bind {f f'' : Lexeme → Parse γ} {f' : Lexeme → Parse δ}
    (further : ∀ token p p', Together known S (f (token, p)) (f' (token, p')) (f'' (token, p))) :
    Together known S (Parse.peek >>= f) (Parse.peek >>= f') (Parse.peek >>= f'') := by
  refine .bind .peek ?_
  rintro ⟨token, p⟩ ⟨_, p'⟩ ⟨⟩
  exact further token p p'

/-- What follows the next token. -/
theorem next_bind {f f'' : Lexeme → Parse γ} {f' : Lexeme → Parse δ}
    (further : ∀ token p p', Together known S (f (token, p)) (f' (token, p')) (f'' (token, p))) :
    Together known S (Parse.next >>= f) (Parse.next >>= f') (Parse.next >>= f'') := by
  refine .bind .next ?_
  rintro ⟨token, p⟩ ⟨_, p'⟩ ⟨⟩
  exact further token p p'

/-- What follows a look at the next token, where what the second parser does is looked at later. -/
theorem peek_cases {f f'' : Lexeme → Parse γ} {f' : Lexeme → Parse δ}
    (further : ∀ token p p' m', f' (token, p') = m' →
      Together known S (f (token, p)) m' (f'' (token, p))) :
    Together known S (Parse.peek >>= f) (Parse.peek >>= f') (Parse.peek >>= f'') :=
  peek_bind fun token p p' => further token p p' _ rfl

protected theorem accept (sign : Sign) :
    Together known Placed (accept sign) (accept sign) (accept sign) := by
  refine peek_bind fun token p p' => ?_
  dsimp only
  split
  · split
    · exact .bind .skip fun _ => .pure rfl
    · exact .pure rfl
  · exact .pure rfl

protected theorem acceptWord (keyword : Keyword) :
    Together known Placed (acceptWord keyword) (acceptWord keyword) (acceptWord keyword) := by
  refine peek_bind fun token p p' => ?_
  dsimp only
  split
  · split
    · exact .bind .skip fun _ => .pure rfl
    · exact .pure rfl
  · exact .pure rfl

protected theorem expect (sign : Sign) (purpose purpose' : String) :
    Together known Any (expect sign purpose) (expect sign purpose') (expect sign purpose) := by
  refine next_bind fun token p p' => ?_
  split
  · next same =>
    cases same
    dsimp only
    split
    · exact .pure trivial
    · exact .missing _ _ _
  · exact .missing _ _ _

protected theorem variableName : Together known Placed variableName variableName variableName := by
  refine next_bind fun token p p' => ?_
  split
  · next same =>
    cases same
    exact .pure rfl
  · split
    · exact .fail _ _
    · exact .fail _ _
  · exact .fail _ _
  · exact .fail _ _

/-! ### Repetition -/

theorem spent_stops {step : α → Parse (Turn α γ)} {a : α} {s : Reading} {r : γ × Reading}
    (read : repeatFor step 0 a s = .ok r) : False :=
  bind_stops read fun read => nomatch read

protected theorem repeatFor {step step'' : α → Parse (Turn α γ)} {step' : β → Parse (Turn β δ)}
    (steps : ∀ {a b}, R a b → Together known (Turn.Beside R S) (step a) (step' b) (step'' a))
    (fuel fuel' : Nat) {a : α} {b : β} (same : R a b) :
    Together known S (repeatFor step fuel a) (repeatFor step' fuel' b) (repeatFor step'' fuel a) := by
  induction fuel generalizing a b fuel' with
  | zero => exact of_stops spent_stops
  | succ fuel ih =>
    cases fuel' with
    | zero => exact of_stops_beside spent_stops
    | succ fuel' =>
      refine .bind (steps same) fun turns => ?_
      cases turns with
      | again same => exact ih fuel' same
      | done same => exact .pure same

protected theorem iterate {step step'' : α → Parse (Turn α γ)} {step' : β → Parse (Turn β δ)}
    (steps : ∀ {a b}, R a b → Together known (Turn.Beside R S) (step a) (step' b) (step'' a))
    {a : α} {b : β} (same : R a b) :
    Together known S (iterate step a) (iterate step' b) (iterate step'' a) :=
  ⟨fun {_ s s'} beside => (Together.repeatFor steps (s.rest.length + 1) (s'.rest.length + 1) same).same
    beside⟩

protected theorem again {a : α} {b : β} (same : R a b) :
    Together known (Turn.Beside R S) (pure (.again a)) (pure (.again b)) (pure (.again a)) :=
  .pure (.again same)

protected theorem done {a : γ} {b : δ} (same : S a b) :
    Together known (Turn.Beside R S) (pure (.done a)) (pure (.done b)) (pure (.done a)) :=
  .pure (.done same)

/-! ### Checks -/

theorem of_checks (h : Checks m) (h' : Checks m') : Together known Any m m' m :=
  of_same fun beside _ _ _ _ first second => by
    rw [h.kept first, h'.kept second]
    exact ⟨trivial, beside⟩

protected theorem notBlock (kind kind' : String) :
    Together known Any (notBlock kind) (notBlock kind') (notBlock kind) := by
  refine peek_bind fun token p p' => ?_
  dsimp only
  split
  · exact .fail _ _
  · exact .pure trivial

protected theorem notAssignment :
    Together known Any notAssignment notAssignment notAssignment := by
  refine peek_bind fun token p p' => ?_
  dsimp only
  split
  · exact .fail _ _
  · exact .pure trivial

/-! ### Names -/

protected theorem define (name : String) (constant : Bool) : Together known Any
    (define name constant) (define name constant) (define name constant) := by
  refine of_same fun beside _ _ _ _ first second => ?_
  cases first
  cases second
  exact ⟨trivial, { beside with names := congrArg ((name, constant) :: ·) beside.names }⟩

theorem inScope_of_ok {m : Parse α} {s t : Reading} {a : α} (read : m s = .ok (a, t)) :
    inScope m s = .ok (a, { t with frame := { t.frame with names := s.frame.names } }) := by
  have eq : inScope m s = (m >>= fun a => do
    modify fun t => { t with frame := { t.frame with names := s.frame.names } }
    return a) s := rfl
  rw [eq, bind_of_ok read]
  rfl

theorem framed_of_ok {m : Parse α} {s t : Reading} {a : α}
    (read : m { s with frame := ⟨[], []⟩ } = .ok (a, t)) :
    framed m s = .ok ((a, t.frame.outer), { t with frame := s.frame }) := by
  have eq : framed m s = (m >>= fun a => do
    let outer := (← get).frame.outer
    modify fun t => { t with frame := s.frame }
    return (a, outer)) { s with frame := ⟨[], []⟩ } := rfl
  rw [eq, bind_of_ok read]
  rfl

protected theorem inScope (h : Together known R m m' m'') :
    Together known R (inScope m) (inScope m') (inScope m'') := by
  constructor
  intro base s s' beside a t b u first second
  obtain ⟨_, _, ⟨⟩, first⟩ := exists_of_bind first
  obtain ⟨_, _, ⟨⟩, second⟩ := exists_of_bind second
  obtain ⟨x, v, first, firstEnd⟩ := exists_of_bind first
  obtain ⟨y, w, second, secondEnd⟩ := exists_of_bind second
  obtain ⟨third, same, later⟩ := h.same beside first second
  cases firstEnd
  cases secondEnd
  exact ⟨inScope_of_ok third, same, { later with names := beside.names }⟩

/-- What is used without being known, by name. -/
def SameNames (outer outer' : List (String × Position)) : Prop :=
  outer'.map Prod.fst = outer.map Prod.fst

protected theorem framed (h : Together known R m m' m'') : Together known
    (fun a b => R a.1 b.1 ∧ SameNames a.2 b.2) (framed m) (framed m') (framed m'') := by
  constructor
  intro base s s' beside a t b u first second
  obtain ⟨_, _, ⟨⟩, first⟩ := exists_of_bind first
  obtain ⟨_, _, ⟨⟩, first⟩ := exists_of_bind first
  obtain ⟨_, _, ⟨⟩, second⟩ := exists_of_bind second
  obtain ⟨_, _, ⟨⟩, second⟩ := exists_of_bind second
  obtain ⟨x, v, first, firstEnd⟩ := exists_of_bind first
  obtain ⟨y, w, second, secondEnd⟩ := exists_of_bind second
  have inside : Reading.Beside known none { s with frame := ⟨[], []⟩ } { s' with frame := ⟨[], []⟩ } :=
    { beside with
      names := rfl, outer := fun _ => rfl, base := fun _ inside => (List.not_mem_nil inside).elim }
  obtain ⟨third, same, later⟩ := h.same inside first second
  cases firstEnd
  cases secondEnd
  exact ⟨framed_of_ok third, ⟨same, later.outer rfl⟩,
    { later with names := beside.names, outer := beside.outer, base := beside.base }⟩

end Together

/-- Whether a name is known to a parser without what is known from outside. -/
def knows (s : Reading) (name : String) : Bool :=
  s.frame.names.any (·.1 = name) || s.functions.any (·.name = name)

/-- A parser that used a name without knowing it. -/
def noting (s : Reading) (name : String) (p : Position) : Reading :=
  if s.frame.outer.any (·.1 = name) then s
  else { s with frame := { s.frame with outer := s.frame.outer ++ [(name, p)] } }

section Noting

variable (s : Reading) (name : String) (p : Position)

theorem noting_rest : (noting s name p).rest = s.rest := by
  unfold noting
  split <;> rfl

theorem noting_names : (noting s name p).frame.names = s.frame.names := by
  unfold noting
  split <;> rfl

theorem noting_functions : (noting s name p).functions = s.functions := by
  unfold noting
  split <;> rfl

theorem noting_outer : (noting s name p).frame.outer.map Prod.fst =
    if s.frame.outer.any (·.1 = name) then s.frame.outer.map Prod.fst
    else s.frame.outer.map Prod.fst ++ [name] := by
  unfold noting
  split
  · rfl
  · exact List.map_append

end Noting

theorem mention_apply (g : Grammar) (strict : Bool) (name : String) (p : Position) (s : Reading) :
    mention g strict name p s =
      if knows s name then .ok ((), s)
      else if strict && !g.known.contains name then .error ⟨.undefinedVariable name, p⟩
      else .ok ((), noting s name p) := by
  have eq : mention g strict name p s = (if !knows s name then do
      if !s.frame.outer.any (·.1 = name) then
        set { s with frame := { s.frame with outer := s.frame.outer ++ [(name, p)] } }
      if strict && !g.known.contains name then Parse.fail (.undefinedVariable name) p
    else pure () : Parse Unit) s := rfl
  rw [eq]
  unfold noting
  cases knows s name <;> cases s.frame.outer.any (·.1 = name) <;>
    cases strict && !g.known.contains name <;> rfl

/-- A name may be used if it is known, or if it need not be, or from outside. -/
theorem mention_eq_ok {g : Grammar} {strict : Bool} {name : String} {p : Position} {s t : Reading}
    {u : Unit} : mention g strict name p s = .ok (u, t) ↔
      knows s name = true ∧ t = s ∨
        knows s name = false ∧ (strict = true → name ∈ g.known) ∧ t = noting s name p := by
  rw [mention_apply]
  cases knows s name with
  | true => simp [eq_comm]
  | false => cases strict <;> by_cases inside : name ∈ g.known <;> simp [inside, eq_comm]

section Beside

variable {known : List String} {base : Option (List (String × Bool))} {s s' : Reading}
  (beside : s.Beside known base s')

include beside

/-- The second parser knows what the first one knows, and the names of the text around. -/
theorem knows_beside (name : String) :
    knows s' name = (knows s name || (base.getD []).any (·.1 = name)) := by
  have functions : s'.functions.any (·.name = name) = s.functions.any (·.name = name) := by
    have same := congrArg (List.any · (· = name)) beside.functions
    rw [List.any_map, List.any_map] at same
    exact same
  unfold knows
  rw [beside.names, functions, List.any_append, Bool.or_right_comm]

theorem noting_beside (name : String) (p p' : Position) :
    (noting s name p).Beside known base (noting s' name p') := by
  have same (alone : base = none) :
      s'.frame.outer.any (·.1 = name) = s.frame.outer.any (·.1 = name) := by
    have same := congrArg (List.any · (· = name)) (beside.outer alone)
    rw [List.any_map, List.any_map] at same
    exact same
  constructor
  · rw [noting_rest, noting_rest, beside.rest]
  · rw [noting_names, noting_names, beside.names]
  · intro alone
    rw [noting_outer, noting_outer, same alone, beside.outer alone]
  · rw [noting_functions, noting_functions, beside.functions]
  · exact beside.base

end Beside

namespace Together

section Grammars

variable {known : List String} {γ δ : Type} {S : γ → δ → Prop} {g g' : Grammar}
  (fewer : ∀ name ∈ g'.known, name ∈ known)

include fewer

/-- A name that may be used in the other place is known. -/
protected theorem mention (strict : Bool) (name : String) (p p' : Position) : Together known Any
    (mention g strict name p) (mention g' strict name p') (mention (g.knowing known) strict name p) := by
  constructor
  intro base s s' beside a t b u first second
  have both := knows_beside beside name
  rcases mention_eq_ok.mp first with ⟨knows, rfl⟩ | ⟨unknown, -, rfl⟩
  · rcases mention_eq_ok.mp second with ⟨-, rfl⟩ | ⟨unknown', -, -⟩
    · exact ⟨mention_eq_ok.mpr (.inl ⟨knows, rfl⟩), trivial, beside⟩
    · rw [knows, unknown'] at both
      cases both
  · rw [unknown, Bool.false_or] at both
    rcases mention_eq_ok.mp second with ⟨knows', rfl⟩ | ⟨-, inside', rfl⟩
    · -- The name is one of the text around.
      obtain ⟨x, around, same⟩ := List.any_eq_true.mp (both.symm.trans knows')
      obtain rfl := of_decide_eq_true same
      have top : base ≠ none := fun inside => by
        rw [inside] at around
        cases around
      refine ⟨mention_eq_ok.mpr (.inr ⟨unknown, fun _ => beside.base x around, rfl⟩), trivial, ?_⟩
      exact {
        rest := by rw [noting_rest, beside.rest]
        names := by rw [noting_names, beside.names]
        outer := fun inside => (top inside).elim
        functions := by rw [noting_functions, beside.functions]
        base := beside.base }
    · exact ⟨mention_eq_ok.mpr (.inr ⟨unknown, fun strict => fewer _ (inside' strict), rfl⟩), trivial,
        noting_beside beside name p p'⟩

/-- Names that may be used in the other place are known. -/
protected theorem mentions (strict : Bool) {outer outer' : List (String × Position)}
    (same : SameNames outer outer') : Together known Any
      (outer.forM fun (name, p) => mention g strict name p)
      (outer'.forM fun (name, p) => mention g' strict name p)
      (outer.forM fun (name, p) => mention (g.knowing known) strict name p) := by
  induction outer generalizing outer' with
  | nil =>
    rw [List.map_eq_nil_iff.mp same]
    exact .pure trivial
  | cons first more ih =>
    obtain ⟨first', more', rfl, head, tail⟩ := List.map_eq_cons_iff.mp same
    obtain ⟨name, p⟩ := first
    obtain ⟨_, p'⟩ := first'
    cases head
    exact .bind (.mention fewer strict name p p') fun _ => ih tail

omit fewer

/-- Going on one level deeper. -/
protected theorem deeper {σ σ' : Setting} (alike : σ.Beside σ') {f f'' : Setting → Parse γ}
    {f' : Setting → Parse δ}
    (further : ∀ {σ σ'}, σ.Beside σ' → Together known S (f σ) (f' σ') (f'' σ)) : Together known S
      (deeper g σ >>= f) (deeper g' σ' >>= f') (deeper (g.knowing known) σ >>= f'') := by
  refine .bind (R := Setting.Beside) (of_same fun beside _ _ _ _ first second => ?_) further
  unfold Parse.deeper at first second
  split at first
  · cases first
  · split at second
    · cases second
    · cases first
      cases second
      exact ⟨{ alike with }, beside⟩

end Grammars

end Together

end Parse

end ScriptGate.Script
