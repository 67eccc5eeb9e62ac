import ScriptGate.Proofs.Script.Split.Expression

/-!
# Scripts that are read in two places

The rules for statements, and with them the grammar as a whole, read together
(`Rules.together_ofGrammar`).
-/

namespace ScriptGate.Script

open Parse

namespace Rules

/-! ## Checks -/

theorem key_checks (e : Expr) : Checks (key e) := by
  unfold key
  split
  · exact .pure _
  · exact .pure _
  · split
    · exact .pure _
    · exact .fail _ _

theorem keys_checks (afterRange : Bool) (es : List Expr) : Checks (keys afterRange es) := by
  induction es generalizing afterRange with
  | nil => exact .pure _
  | cons e rest ih =>
    unfold keys
    refine .bind (key_checks e) fun k => ?_
    split
    · exact .ite (.bind (ih _) fun _ => .pure _) (ih _)
    · exact .ite (.bind (.fail _ _) fun _ => .bind (ih _) fun _ => .pure _)
        (.bind (ih _) fun _ => .pure _)

namespace Together

variable {known : List String} {g g' : Grammar} (fewer : ∀ name ∈ g'.known, name ∈ known)
  {r r' r'' : Rules} (h : Together known r r' r'') {σ σ' : Setting} (alike : σ.Beside σ')

include h alike

/-! ## Blocks, branches and loops -/

protected theorem blockOf : Parse.Together known Any
    (blockOf g r σ) (blockOf g' r' σ') (blockOf (g.knowing known) r'' σ) := by
  refine .inScope (.bind (.expect ..) fun _ => .bind (R := Any)
    (.iterate (R := Any) (fun {seen seen'} _ => ?_) trivial) fun _ => .pure trivial)
  refine .peek_cases fun token p p' m' there => ?_
  split
  · next same =>
    cases same
    subst there
    exact .bind .skip fun _ => .done trivial
  · exact .fail _ _
  · next notClosed notEnd =>
    split at there
    · next same =>
      cases same
      exact (notClosed _ rfl).elim
    · subst there
      exact .fail_beside _ _
    · subst there
      have below : Setting.Beside { σ with atTop := false } { σ' with atTop := false } :=
        { alike with atTop := rfl }
      refine .deeper below fun inner => .bind (h.statement inner) fun {found found'} same => ?_
      cases same with
      | none => exact .again trivial
      | some closes =>
        refine .peek_cases fun token p p' m' there => ?_
        split
        · next same =>
          cases same
          subst there
          exact .again trivial
        · next notClosed =>
          split at there
          · next same =>
            cases same
            exact (notClosed _ rfl).elim
          · subst there
            rw [closes]
            split
            · exact .again trivial
            · split
              · next same =>
                cases same
                exact .bind .skip fun _ => .again trivial
              · exact .missing _ _ _

protected theorem condition : Parse.Together known Any
    (condition g r σ) (condition g' r' σ') (condition (g.knowing known) r'' σ) :=
  .bind (.notBlock ..) fun _ => .deeper alike fun inner => .bind (h.expression inner) fun _ =>
    .bind (.of_checks (asBoolean_checks _) (asBoolean_checks _)) fun _ => .bind .notAssignment fun _ =>
      .pure trivial

protected theorem branchOf : Parse.Together known Statement.Beside
    (branchOf g r σ) (branchOf g' r' σ') (branchOf (g.knowing known) r'' σ) := by
  refine .next_bind fun _ p p' => .bind (h.condition (alike.placed p p')) fun _ =>
    .deeper (alike.placed p p') fun inner => .bind (h.block inner) fun _ => .bind (.acceptWord _) ?_
  rintro ⟨hasElse, q⟩ ⟨_, q'⟩ ⟨⟩
  dsimp only
  split
  · exact .pure rfl
  · refine .peek_bind fun token q q' => ?_
    dsimp only
    split
    · exact .deeper (alike.placed p p') fun inner => .bind (h.branch inner) fun _ => .pure rfl
    · exact .deeper (alike.placed p p') fun inner => .bind (h.block inner) fun _ => .pure rfl

protected theorem loopOf : Parse.Together known Statement.Beside
    (loopOf g r σ) (loopOf g' r' σ') (loopOf (g.knowing known) r'' σ) := by
  refine .next_bind fun word p p' => ?_
  dsimp only
  split
  · exact .bind (h.condition alike) fun _ => .deeper (alike.looping p p') fun inner =>
      .bind (h.block inner) fun _ => .pure rfl
  · exact .deeper (alike.looping p p') fun inner => .bind (h.block inner) fun _ => .pure rfl

protected theorem doLoop : Parse.Together known Statement.Beside
    (doLoop g r σ) (doLoop g' r' σ') (doLoop (g.knowing known) r'' σ) := by
  refine .next_bind fun _ p p' => .deeper (alike.looping p p') fun inner =>
    .bind (h.block inner) fun _ => .next_bind fun token q q' => ?_
  have after (goal : Bool) {body body' : List Statement} : Parse.Together known Statement.Beside
      (do return .repeatAfter body (← condition g r { σ with pos := p }) goal p)
      (do return .repeatAfter body' (← condition g' r' { σ' with pos := p' }) goal p')
      (do return .repeatAfter body (← condition (g.knowing known) r'' { σ with pos := p }) goal p) :=
    .bind (h.condition (alike.placed p p')) fun _ => .pure rfl
  split
  · next same =>
    cases same
    refine .bind (R := Eq) (.pure rfl) fun same => ?_
    cases same
    exact after _
  · next same =>
    cases same
    refine .bind (R := Eq) (.pure rfl) fun same => ?_
    cases same
    exact after _
  · exact .of_stops fun read => nomatch read

omit h alike in
theorem together_loopNames : Parse.Together known Eq loopNames loopNames loopNames := by
  refine .bind (.accept _) ?_
  rintro ⟨paired, p⟩ ⟨_, p'⟩ ⟨⟩
  refine .bind .variableName ?_
  rintro ⟨name, q⟩ ⟨_, q'⟩ ⟨⟩
  dsimp only
  split
  · exact .pure rfl
  · refine .bind (.accept _) ?_
    rintro ⟨hasComma, p⟩ ⟨_, p'⟩ ⟨⟩
    dsimp only
    split
    · exact .of_stops fun read => nomatch read
    · refine .bind .variableName ?_
      rintro ⟨counter, q⟩ ⟨_, q'⟩ ⟨⟩
      refine .guarded (fun read => nomatch read) (fun read => nomatch read) (.bind (.accept _) ?_)
      rintro ⟨closed, p⟩ ⟨_, p'⟩ ⟨⟩
      exact .guarded (fun read => nomatch read) (fun read => nomatch read) (.pure rfl)

/-- What a loop over items does with each of them, from where its name is defined. -/
protected theorem forEach {name : String} {counter : Option String} {e e' : Expr} (p p' : Position) :
    Parse.Together known Statement.Beside
      (do
        define name false
        let (body, brace) ← r.block (← deeper g { σ with pos := p, inLoop := true })
        return .forEach name counter e body brace p)
      (do
        define name false
        let (body, brace) ← r'.block (← deeper g' { σ' with pos := p', inLoop := true })
        return .forEach name counter e' body brace p')
      (do
        define name false
        let (body, brace) ← r''.block (← deeper (g.knowing known) { σ with pos := p, inLoop := true })
        return .forEach name counter e body brace p) :=
  .bind (.define ..) fun _ => .deeper (alike.looping p p') fun inner =>
    .bind (h.block inner) fun _ => .pure rfl

protected theorem forLoop : Parse.Together known Statement.Beside
    (forLoop g r σ) (forLoop g' r' σ') (forLoop (g.knowing known) r'' σ) := by
  refine .inScope (.next_bind fun _ p p' => .bind together_loopNames ?_)
  rintro ⟨name, counter⟩ _ ⟨⟩
  refine .next_bind fun token q q' => ?_
  dsimp only
  split
  · next same =>
    cases same
    refine .bind (.notBlock ..) fun _ => .deeper (alike.placed p p') fun inner =>
      .bind (h.expression inner) fun _ =>
        .bind (.of_checks (asIterable_checks _) (asIterable_checks _)) fun _ => ?_
    cases counter with
    | none => exact h.forEach alike p p'
    | some counter => exact .bind (.define ..) fun _ => h.forEach alike p p'
  · exact .missing_bind _ _ _ _

/-! ## Switches -/

omit h alike in
/-- An expression whose faults are replaced by another one. -/
theorem caught {α β : Type} {R : α → β → Prop} {m m' m'' : Parse Expr} {f f'' : Expr → Parse α}
    {f' : Expr → Parse β} (cause : CompileCause) (reads : Parse.Together known Any m m' m'')
    (further : ∀ e e', Parse.Together known R (f e) (f' e') (f'' e)) : Parse.Together known R
      (do
        let state ← get
        match m.run state with
        | .error e => Parse.fail cause e.pos
        | .ok (a, state) =>
          set state
          f a)
      (do
        let state ← get
        match m'.run state with
        | .error e => Parse.fail cause e.pos
        | .ok (a, state) =>
          set state
          f' a)
      (do
        let state ← get
        match m''.run state with
        | .error e => Parse.fail cause e.pos
        | .ok (a, state) =>
          set state
          f'' a) := by
  have eq {α : Type} {m : Parse Expr} {f : Expr → Parse α} {s : Reading} {r : α × Reading} :
      (do
        let state ← get
        match m.run state with
        | .error e => Parse.fail cause e.pos
        | .ok (a, state) =>
          set state
          f a : Parse α) s = .ok r ↔ (m >>= f) s = .ok r := by
    change (match m s with
      | .error e => Parse.fail cause e.pos
      | .ok (a, state) => (do
          set state
          f a : Parse α)) s = .ok r ↔ Except.bind (m s) (fun a => f a.1 a.2) = .ok r
    cases m s with
    | error e => exact ⟨(nomatch ·), (nomatch ·)⟩
    | ok a => exact Iff.rfl
  constructor
  intro base s s' beside a t b u first second
  obtain ⟨third, same⟩ := (reads.bind fun _ => further _ _).same beside (eq.mp first) (eq.mp second)
  exact ⟨eq.mpr third, same⟩

omit h alike in
/-- Behind a key of a case is another one, or the keys end. -/
theorem together_afterKey (seen seen' : List Expr) (e e' : Expr) :
    Parse.Together known (Turn.Beside (Any (α := List Expr)) (Any (α := List Expr)))
      (do
        let (more, _) ← accept .pipe
        return if more then Turn.again (e :: seen) else Turn.done (e :: seen).reverse)
      (do
        let (more, _) ← accept .pipe
        return if more then Turn.again (e' :: seen') else Turn.done (e' :: seen').reverse)
      (do
        let (more, _) ← accept .pipe
        return if more then Turn.again (e :: seen) else Turn.done (e :: seen).reverse) := by
  refine .bind (.accept .pipe) ?_
  rintro ⟨more, p⟩ ⟨_, p'⟩ ⟨⟩
  dsimp only
  split
  · exact .again trivial
  · exact .done trivial

protected theorem caseKeys : Parse.Together known Any
    (caseKeys g r σ) (caseKeys g' r' σ') (caseKeys (g.knowing known) r'' σ) := by
  refine .iterate (R := Any) (fun {seen seen'} _ => .deeper alike fun {σ σ'} inner => ?_) trivial
  have barred : Setting.Beside { σ with barEnds := true } { σ' with barEnds := true } :=
    { inner with barEnds := rfl }
  exact caught (.expressionWanted "literal") (h.expression barred) (together_afterKey seen seen')

/-- The keys and the condition of a case that is not the default one. -/
protected theorem keyed (p p' : Position) : Parse.Together known (fun a b => BothGiven a.1 b.1)
    (do
      let keys ← caseKeys g r σ
      let (hasCondition, _) ← acceptWord .if_
      if hasCondition then return (some (keys, some (← condition g r σ)), p)
      return (some (keys, none), p))
    (do
      let keys ← caseKeys g' r' σ'
      let (hasCondition, _) ← acceptWord .if_
      if hasCondition then return (some (keys, some (← condition g' r' σ')), p')
      return (some (keys, none), p'))
    (do
      let keys ← caseKeys (g.knowing known) r'' σ
      let (hasCondition, _) ← acceptWord .if_
      if hasCondition then return (some (keys, some (← condition (g.knowing known) r'' σ)), p)
      return (some (keys, none), p)) := by
  refine .bind (h.caseKeys alike) fun _ => .bind (.acceptWord _) ?_
  rintro ⟨hasCondition, q⟩ ⟨_, q'⟩ ⟨⟩
  dsimp only
  split
  · exact .bind (h.condition alike) fun _ => .pure rfl
  · exact .pure rfl

protected theorem caseHead (soFar soFar' : SwitchSoFar) :
    Parse.Together known (fun a b => BothGiven a.1 b.1) (caseHead g r σ soFar)
      (caseHead g' r' σ' soFar') (caseHead (g.knowing known) r'' σ soFar) := by
  refine .peek_cases fun token p p' m' there => ?_
  cases before : soFar.otherwise with
  | some otherwise => exact .fail _ _
  | none =>
    cases before' : soFar'.otherwise with
    | some otherwise =>
      rw [before'] at there
      subst there
      exact .fail_beside _ _
    | none =>
      rw [before'] at there
      split
      · next same =>
        cases same
        subst there
        refine .bind .skip fun _ => .bind (.acceptWord _) ?_
        rintro ⟨hasCondition, q⟩ ⟨_, q'⟩ ⟨⟩
        exact .guarded (fun read => nomatch read) (fun read => nomatch read) (.pure rfl)
      · next known => cases known
      · next notUnderscore _ same =>
        cases same
        split at there
        · next same =>
          cases same
          exact (notUnderscore rfl).elim
        · next known => cases known
        · next same =>
          cases same
          subst there
          exact h.keyed alike p p'

omit h alike in
/-- Behind an action that closes itself there is no need of a comma. -/
theorem together_afterAction (soFar soFar' : SwitchSoFar) {s s' : Statement}
    (closes : closesItself s' = closesItself s) :
    Parse.Together known (Turn.Beside (Any (α := SwitchSoFar)) Statement.Beside)
      (do match ← peek with
        | (.sign .comma, _) =>
          skip
          return .again soFar
        | (.sign .rightBrace, _) => return .again soFar
        | (.finish, p) => Parse.fail (.missing ")" "to end this switch block") p
        | (.fault f, p) => Parse.fail (.lexical f) p
        | (_, q) =>
          if closesItself s then return .again soFar
          Parse.fail (.missing "," "to separate the items in this switch block") q)
      (do match ← peek with
        | (.sign .comma, _) =>
          skip
          return .again soFar'
        | (.sign .rightBrace, _) => return .again soFar'
        | (.finish, p) => Parse.fail (.missing ")" "to end this switch block") p
        | (.fault f, p) => Parse.fail (.lexical f) p
        | (_, q) =>
          if closesItself s' then return .again soFar'
          Parse.fail (.missing "," "to separate the items in this switch block") q)
      (do match ← peek with
        | (.sign .comma, _) =>
          skip
          return .again soFar
        | (.sign .rightBrace, _) => return .again soFar
        | (.finish, p) => Parse.fail (.missing ")" "to end this switch block") p
        | (.fault f, p) => Parse.fail (.lexical f) p
        | (_, q) =>
          if closesItself s then return .again soFar
          Parse.fail (.missing "," "to separate the items in this switch block") q) := by
  refine .peek_cases fun token p p' m' there => ?_
  split
  · next same =>
    cases same
    subst there
    exact .bind .skip fun _ => .again trivial
  · next same =>
    cases same
    subst there
    exact .again trivial
  · exact .fail _ _
  · exact .fail _ _
  · next notComma notClosed _ _ same =>
    cases same
    split at there
    · next same =>
      cases same
      exact (notComma rfl).elim
    · next same =>
      cases same
      exact (notClosed rfl).elim
    · subst there
      exact .fail_beside _ _
    · subst there
      exact .fail_beside _ _
    · subst there
      rw [closes]
      split
      · exact .again trivial
      · exact .fail _ _

protected theorem switchOf : Parse.Together known Statement.Beside
    (switchOf g r σ) (switchOf g' r' σ') (switchOf (g.knowing known) r'' σ) := by
  refine .next_bind fun _ start start' => .deeper (alike.placed _ _) fun inner =>
    .bind (h.expression inner) fun _ => .bind (.expect ..) fun _ =>
      .iterate (R := Any) (fun {soFar soFar'} _ => ?_) trivial
  refine .peek_cases fun token p p' m' there => ?_
  split
  · next same =>
    cases same
    subst there
    exact .bind .skip fun _ => .done rfl
  · exact .fail _ _
  · next notClosed notEnd =>
    split at there
    · next same =>
      cases same
      exact (notClosed _ rfl).elim
    · subst there
      exact .fail_beside _ _
    · subst there
      refine .bind (h.caseHead (alike.placed _ _) soFar soFar') ?_
      rintro ⟨head, p⟩ ⟨head', p'⟩ given
      refine .bind (.expect ..) fun _ => .deeper (alike.placed _ _) fun inner =>
        .bind (h.statement inner) fun {action action'} same => ?_
      have closes : closesItself (action'.getD (.block [] p')) =
          closesItself (action.getD (.block [] p)) := by
        cases same with
        | none => rfl
        | some closes => exact closes
      cases head with
      | none =>
        cases head' with
        | none => exact .bind (.pure (R := Any) trivial) fun _ => together_afterAction _ _ closes
        | some => cases given
      | some head =>
        cases head' with
        | none => cases given
        | some head' =>
          exact .bind (.of_checks (keys_checks ..) (keys_checks ..)) fun _ =>
            .bind (.pure (R := Any) trivial) fun _ => together_afterAction _ _ closes

/-! ## Definitions, jumps and assignments -/

protected theorem definition (constant : Bool) : Parse.Together known Statement.Beside
    (definition g r σ constant) (definition g' r' σ' constant)
    (definition (g.knowing known) r'' σ constant) := by
  refine .next_bind fun _ start start' => .bind .variableName ?_
  rintro ⟨name, p⟩ ⟨_, p'⟩ ⟨⟩
  refine .bind (.accept _) ?_
  rintro ⟨hasValue, q⟩ ⟨_, q'⟩ ⟨⟩
  dsimp only
  split
  · exact .deeper (alike.placed _ _) fun inner => .bind (.map (S := Any) (h.expression inner)
      fun _ => trivial) fun _ => .bind (.define ..) fun _ => .pure rfl
  · exact .bind (.pure (R := Any) trivial) fun _ => .bind (.define ..) fun _ => .pure rfl

protected theorem handlerOf {body body' : List Statement} {brace brace' : Position}
    {name name' : Option String} : Parse.Together known Statement.Beside
      (handlerOf g r σ body brace name) (handlerOf g' r' σ' body' brace' name')
      (handlerOf (g.knowing known) r'' σ body brace name) :=
  .deeper alike fun inner => .bind (h.block inner) fun _ => .pure rfl

protected theorem attemptOf : Parse.Together known Statement.Beside
    (attemptOf g r σ) (attemptOf g' r' σ') (attemptOf (g.knowing known) r'' σ) := by
  refine .next_bind fun _ start start' => .deeper (alike.placed _ _) fun inner =>
    .bind (h.block inner) fun _ => .bind (.acceptWord _) ?_
  rintro ⟨hasCatch, p⟩ ⟨_, p'⟩ ⟨⟩
  refine .guarded (fun read => nomatch read) (fun read => nomatch read)
    (.inScope (.bind (.accept _) ?_))
  rintro ⟨hasName, p⟩ ⟨_, p'⟩ ⟨⟩
  dsimp only
  split
  · refine .bind .variableName ?_
    rintro ⟨name, q⟩ ⟨_, q'⟩ ⟨⟩
    refine .bind (.accept _) ?_
    rintro ⟨closed, p⟩ ⟨_, p'⟩ ⟨⟩
    exact .guarded (fun read => nomatch read) (fun read => nomatch read)
      (.bind (.define ..) fun _ => .bind (.pure (R := Any) trivial) fun _ =>
        h.handlerOf (alike.placed _ _))
  · exact .bind (.pure (R := Any) trivial) fun _ => h.handlerOf (alike.placed _ _)

protected theorem leaveOf : Parse.Together known Statement.Beside
    (leaveOf g r σ) (leaveOf g' r' σ') (leaveOf (g.knowing known) r'' σ) := by
  refine .next_bind fun _ start start' => .peek_bind fun token p p' => ?_
  dsimp only
  split
  · exact .pure rfl
  · exact .pure rfl
  · exact .pure rfl
  · exact .deeper alike fun inner => .bind (h.expression inner) fun _ => .pure rfl

omit h alike in
/-- What a jump gives is told by its word alone. -/
theorem together_jump (word : Token) (value value' : Option Expr) (start start' : Position) :
    Parse.Together known Statement.Beside
      (match word with
        | .keyword .throw_ => pure (.raise value start)
        | _ => pure (.giveBack value start))
      (match word with
        | .keyword .throw_ => pure (.raise value' start')
        | _ => pure (.giveBack value' start'))
      (match word with
        | .keyword .throw_ => pure (.raise value start)
        | _ => pure (.giveBack value start)) := by
  split
  · exact .pure rfl
  · exact .pure rfl

/-- A jump reads its value unless it is bare. -/
protected theorem valued (g g' : Grammar) (word : Token) (start start' : Position) (bare : Bool) :
    Parse.Together known Statement.Beside
      (do
        let value ← if bare then pure none else some <$> r.expression (← deeper g σ)
        match word with
          | .keyword .throw_ => pure (.raise value start)
          | _ => pure (.giveBack value start))
      (do
        let value ← if bare then pure none else some <$> r'.expression (← deeper g' σ')
        match word with
          | .keyword .throw_ => pure (.raise value start')
          | _ => pure (.giveBack value start'))
      (do
        let value ← if bare then pure none else
          some <$> r''.expression (← deeper (g.knowing known) σ)
        match word with
          | .keyword .throw_ => pure (.raise value start)
          | _ => pure (.giveBack value start)) := by
  dsimp only
  split
  · exact .bind (.pure (R := Any) trivial) fun _ => together_jump ..
  · exact .deeper alike fun inner => .bind (.map (S := Any) (h.expression inner)
      fun _ => trivial) fun _ => together_jump ..

protected theorem jumpOf : Parse.Together known Statement.Beside
    (jumpOf g r σ) (jumpOf g' r' σ') (jumpOf (g.knowing known) r'' σ) := by
  refine .next_bind fun word start start' => .peek_bind fun token p p' => ?_
  dsimp only
  rw [alike.atTop]
  split
  · exact h.valued alike g g' word start start' true
  · exact h.valued alike g g' word start start' true
  · exact h.valued alike g g' word start start' (!σ.atTop)
  · exact h.valued alike g g' word start start' false

omit h alike in
theorem assignTo_checks (op : Option Binary) (target value : Expr) (p : Position) :
    Checks (assignTo op target value p) := by
  unfold assignTo
  split
  · exact .pure _
  · exact .bind (m := constant? _) ⟨fun read => by cases read; rfl⟩ fun _ =>
      .ite (.bind (.fail _ _) fun _ => .pure _) (.pure _)
  · split
    · exact .fail _ _
    · exact .pure _
    · exact .pure _
    · exact .fail _ _
  · split
    · exact .fail _ _
    · exact .fail _ _
  · exact .ite (.fail _ _) (.fail _ _)

omit h alike in
theorem assignTo_gives (op : Option Binary) (target value : Expr) (p : Position) :
    Gives (closesItself · = false) (assignTo op target value p) := by
  unfold assignTo
  split
  · exact .pure rfl
  · exact .bind fun _ => .ite (.bind fun _ => .pure rfl) (.pure rfl)
  · split
    · exact .fail _ _
    · exact .pure rfl
    · exact .pure rfl
    · exact .fail _ _
  · split
    · exact .fail _ _
    · exact .fail _ _
  · exact .ite (.fail _ _) (.fail _ _)

omit h alike in
theorem together_assignTo (op : Option Binary) (target target' value value' : Expr) (p p' : Position) :
    Parse.Together known Statement.Beside (assignTo op target value p)
      (assignTo op target' value' p') (assignTo op target value p) :=
  .of_same fun beside _ _ _ _ first second => by
    refine ⟨((assignTo_gives ..).of_ok second).trans ((assignTo_gives ..).of_ok first).symm, ?_⟩
    rw [(assignTo_checks ..).kept first, (assignTo_checks ..).kept second]
    exact beside

protected theorem expressionStatement : Parse.Together known Statement.Beside
    (expressionStatement r σ) (expressionStatement r' σ') (expressionStatement r'' σ) := by
  refine .peek_bind fun _ start start' => .bind (h.expression (alike.placed _ _)) fun {e e'} _ =>
    .peek_cases fun token p p' m' there => ?_
  split
  · next same =>
    cases same
    subst there
    dsimp only
    split
    · exact .bind .skip fun _ => .bind (h.expression (alike.placed _ _)) fun _ =>
        together_assignTo _ _ _ _ _ _ _
    · exact .pure rfl
  · next notSign =>
    split at there
    · next same =>
      cases same
      exact (notSign _ _ rfl).elim
    · subst there
      exact .pure rfl

/-! ## Functions -/

omit h alike in
theorem together_parameters (name : String) :
    Parse.Together known Any (parameters name) (parameters name) (parameters name) := by
  refine .peek_cases fun token p p' m' there => ?_
  split
  · next same =>
    cases same
    subst there
    exact .bind .skip fun _ => .pure trivial
  · next same =>
    cases same
    subst there
    refine .bind .skip fun _ => .bind (.accept _) ?_
    rintro ⟨closed, q⟩ ⟨_, q'⟩ ⟨⟩
    dsimp only
    split
    · exact .pure trivial
    · refine .iterate (R := Any) (fun {seen seen'} _ => .next_bind fun token p p' => ?_) trivial
      split
      · next same =>
        cases same
        exact .done trivial
      · next same =>
        cases same
        refine .guarded (fun read => nomatch read) (fun read => nomatch read)
          (.bind (.define ..) fun _ => .next_bind fun token q q' => ?_)
        split
        · next same =>
          cases same
          exact .done trivial
        · next same =>
          cases same
          exact .again trivial
        · exact .missing _ _ _
      · exact .missing _ _ _
  · exact .fail _ _

protected theorem functionNamed (name : String) : Parse.Together known
    (fun f f' => f'.name = f.name) (functionNamed g r σ name) (functionNamed g' r' σ' name)
    (functionNamed (g.knowing known) r'' σ name) := by
  have inside : Setting.Beside ⟨0, σ.pos, false, false, true, σ.strict, false⟩
      ⟨0, σ'.pos, false, false, true, σ'.strict, false⟩ :=
    ⟨rfl, rfl, rfl, alike.strict, rfl⟩
  refine .bind (.framed (R := Any) (.bind (together_parameters name) fun _ =>
    .peek_bind fun token p p' => ?_)) fun _ => .pure rfl
  split
  · next same =>
    cases same
    exact .deeper inside fun inner => .bind (h.block inner) fun _ => .pure trivial
  · exact .fail _ _

protected theorem function : Parse.Together known
    (fun f f' => f'.name = f.name) (function g r σ) (function g' r' σ')
    (function (g.knowing known) r'' σ) := by
  refine .next_bind fun token p p' => ?_
  split
  · next same =>
    cases same
    exact .bind (R := Eq) (.pure rfl) fun same => same ▸ h.functionNamed alike _
  · exact .fail _ _
  · exact .fail _ _

protected theorem functionStatement : Parse.Together known Any
    (functionStatement g r σ) (functionStatement g' r' σ')
    (functionStatement (g.knowing known) r'' σ) := by
  refine .next_bind fun word p p' => ?_
  have defined (start start' : Position) : Parse.Together known Any
      (do
        let f ← function g r { σ with pos := start }
        let table := (← get).functions
        if (table.find? f.name f.params.length).isSome then
          Parse.fail (.duplicateFunction f.name f.params.length) start
        modify fun state => { state with functions := f :: state.functions })
      (do
        let f ← function g' r' { σ' with pos := start' }
        let table := (← get).functions
        if (table.find? f.name f.params.length).isSome then
          Parse.fail (.duplicateFunction f.name f.params.length) start'
        modify fun state => { state with functions := f :: state.functions })
      (do
        let f ← function (g.knowing known) r'' { σ with pos := start }
        let table := (← get).functions
        if (table.find? f.name f.params.length).isSome then
          Parse.fail (.duplicateFunction f.name f.params.length) start
        modify fun state => { state with functions := f :: state.functions }) :=
    .bind (h.function (alike.placed _ _)) fun {f f'} same => .bind (R := Any) .get fun _ =>
      .guarded (fun read => nomatch read) (fun read => nomatch read)
        (.of_same fun beside _ _ _ _ first second => by
          cases first
          cases second
          refine ⟨trivial, { beside with functions := ?_ }⟩
          exact (congrArg (· :: _) same).trans (congrArg (_ :: ·) beside.functions))
  dsimp only
  split
  · refine .bind (.acceptWord _) ?_
    rintro ⟨follows, q⟩ ⟨_, q'⟩ ⟨⟩
    dsimp only
    split
    · exact .bind (R := Any) (.pure trivial) fun _ => defined _ _
    · exact .of_stops fun read => nomatch read
  · exact .bind (R := Any) (.pure trivial) fun _ => defined _ _

/-! ## All statements -/

protected theorem constructOf : Parse.Together known Statement.Beside
    (constructOf g r σ) (constructOf g' r' σ') (constructOf (g.knowing known) r'' σ) := by
  refine .peek_bind fun token p p' => .deeper (alike.placed p p') fun inner => ?_
  dsimp only
  split
  · exact h.branch inner
  · exact h.switchOf inner
  · exact h.doLoop inner
  · exact h.forLoop inner
  · exact .bind (h.block inner) fun _ => .pure rfl
  · exact h.loopOf inner

protected theorem statementOf : Parse.Together known (Option.Rel Statement.Beside)
    (statementOf g r σ) (statementOf g' r' σ') (statementOf (g.knowing known) r'' σ) := by
  refine .peek_bind fun token p p' => ?_
  have placed := alike.placed p p'
  dsimp only
  split
  · exact .pure .none
  · exact .bind .skip fun _ => .pure .none
  · exact .permitted (.bind (h.functionStatement placed) fun _ => .pure .none)
  · exact .permitted (.bind (h.functionStatement placed) fun _ => .pure .none)
  · exact .bind (h.construct placed) fun same => .pure (.some same)
  · exact .bind (h.construct placed) fun same => .pure (.some same)
  · exact .bind (h.construct placed) fun same => .pure (.some same)
  · exact .bind (h.construct placed) fun same => .pure (.some same)
  · exact .bind (h.construct placed) fun same => .pure (.some same)
  · exact .bind (h.construct placed) fun same => .pure (.some same)
  · exact .bind (h.construct placed) fun same => .pure (.some same)
  · exact .permitted (.bind .skip fun _ => .pure (.some rfl))
  · exact .permitted (.map (h.leaveOf placed) .some)
  · exact .map (h.jumpOf placed) .some
  · exact .map (h.jumpOf placed) .some
  · exact .deeper placed fun inner => .bind (h.attemptOf inner) fun same => .pure (.some same)
  · exact .deeper placed fun inner => .bind (h.definition inner false) fun same => .pure (.some same)
  · exact .deeper placed fun inner => .bind (h.definition inner true) fun same => .pure (.some same)
  · exact .fail _ _
  · exact .fail _ _
  · exact .deeper placed fun inner => .bind (h.expressionStatement inner) fun same =>
      .pure (.some same)

end Together

/-- Without fuel nothing is read. -/
theorem spent_stops {α : Type} {s : Reading} {r : α × Reading}
    (read : (do Parse.fail .incomplete (← Parse.peek).2 : Parse α) s = .ok r) : False :=
  Parse.Together.bind_stops read fun read => nomatch read

/-- The grammar reads the same in two places, if all names that are known in the other one are known. -/
theorem together_ofGrammar {known : List String} {g g' : Grammar} (fewer : ∀ name ∈ g'.known, name ∈ known)
    (fuel fuel' : Nat) : Together known (ofGrammar g fuel) (ofGrammar g' fuel')
      (ofGrammar (g.knowing known) fuel) := by
  induction fuel generalizing fuel' with
  | zero => constructor <;> intros <;> exact .of_stops spent_stops
  | succ fuel ih =>
    cases fuel' with
    | zero => constructor <;> intros <;> exact .of_stops_beside spent_stops
    | succ fuel' =>
      have h := ih fuel'
      constructor
      · exact fun alike => h.expressionOf alike
      · exact fun alike => Together.operandOf fewer h alike
      · exact fun alike => h.operatorsOf alike
      · exact fun alike => h.constructOf alike
      · exact fun alike => h.statementOf alike
      · exact fun alike => h.blockOf alike
      · exact fun alike => h.branchOf alike

end Rules

end ScriptGate.Script
