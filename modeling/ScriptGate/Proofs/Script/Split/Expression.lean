import ScriptGate.Proofs.Script.Split.Reading

/-!
# Expressions that are read in two places

The rules for expressions read together if those for their parts do. What an expression is does not
matter to what is read behind it, so nothing is said of how the two results are related.
-/

namespace ScriptGate.Script

open Parse

/-- Whether two statements both close with a block, or neither does. -/
def Statement.Beside (s s' : Statement) : Prop := Rules.closesItself s' = Rules.closesItself s

/-- Rules of which the third ones have the results of the first ones where the second ones succeed, too. -/
structure Rules.Together (known : List String) (r r' r'' : Rules) : Prop where
  expression : ∀ {σ σ' : Setting}, σ.Beside σ' →
    Parse.Together known Any (r.expression σ) (r'.expression σ') (r''.expression σ)
  operand : ∀ {σ σ' : Setting}, σ.Beside σ' →
    Parse.Together known Any (r.operand σ) (r'.operand σ') (r''.operand σ)
  operators : ∀ {σ σ' : Setting}, σ.Beside σ' → ∀ (parent : Nat) (left left' : Expr),
    Parse.Together known Any (r.operators σ parent left) (r'.operators σ' parent left')
      (r''.operators σ parent left)
  construct : ∀ {σ σ' : Setting}, σ.Beside σ' →
    Parse.Together known Statement.Beside (r.construct σ) (r'.construct σ') (r''.construct σ)
  statement : ∀ {σ σ' : Setting}, σ.Beside σ' → Parse.Together known (Option.Rel Statement.Beside)
    (r.statement σ) (r'.statement σ') (r''.statement σ)
  block : ∀ {σ σ' : Setting}, σ.Beside σ' →
    Parse.Together known Any (r.block σ) (r'.block σ') (r''.block σ)
  branch : ∀ {σ σ' : Setting}, σ.Beside σ' →
    Parse.Together known Statement.Beside (r.branch σ) (r'.branch σ') (r''.branch σ)

/-! ## Checks -/

namespace Rules

variable {known : List String}

theorem asBoolean_checks (e : Expr) : Checks (asBoolean e) := by
  unfold asBoolean
  split
  · exact .fail _ _
  · exact .pure _

theorem asIterable_checks (e : Expr) : Checks (asIterable e) := by
  unfold asIterable
  split
  · exact .fail _ _
  · exact .pure _

theorem checkIndex_checks (whole key : Expr) : Checks (checkIndex whole key) := by
  unfold checkIndex
  split
  · split
    · exact .fail _ _
    · exact .pure _
  · split
    · exact .fail _ _
    · exact .pure _
  · split
    · exact .fail _ _
    · exact .pure _
  · split
    · exact .fail _ _
    · exact .pure _
  · exact .pure _

theorem join_checks (token : Token) (p : Position) (left right : Expr) :
    Checks (join token p left right) := by
  unfold join
  split
  · exact .bind (asBoolean_checks right) fun _ => .bind (asBoolean_checks left) fun _ => .pure _
  · exact .bind (asBoolean_checks right) fun _ => .bind (asBoolean_checks left) fun _ => .pure _
  · exact .pure _
  · exact .pure _
  · exact .pure _
  · split <;> exact .pure _
  · exact .pure _

theorem together_precedence (token : Token) (p p' : Position) :
    Parse.Together known Eq (precedence (token, p)) (precedence (token, p')) (precedence (token, p)) := by
  unfold precedence
  split
  · next same =>
    cases same
    exact .pure rfl
  · next same =>
    cases same
    exact .pure rfl
  · next same =>
    cases same
    dsimp only
    split
    · exact .pure rfl
    · exact .fail _ _
  · next notSign notIn notReserved =>
    split
    · next same =>
      cases same
      exact (notSign _ _ rfl).elim
    · next same =>
      cases same
      exact (notIn _ rfl).elim
    · next same =>
      cases same
      exact (notReserved _ _ rfl).elim
    · exact .pure rfl

namespace Together

variable {known : List String} {g g' : Grammar} (fewer : ∀ name ∈ g'.known, name ∈ known)
  {r r' r'' : Rules} (h : Together known r r' r'') {σ σ' : Setting} (alike : σ.Beside σ')

include h alike

/-! ## Operators -/

protected theorem rightOperand (operator : Token) : Parse.Together known Any
    (rightOperand r σ operator) (rightOperand r' σ' operator) (rightOperand r'' σ operator) := by
  refine .peek_bind fun token p p' => ?_
  dsimp only
  split
  · exact .pure trivial
  · exact h.operand alike

protected theorem operatorsOf (parent : Nat) (left left' : Expr) : Parse.Together known Any
    (operatorsOf g r σ parent left) (operatorsOf g' r' σ' parent left')
    (operatorsOf (g.knowing known) r'' σ parent left) := by
  refine .iterate (R := fun a b => a.1.Beside b.1) ?_ (alike.placed _ _)
  rintro ⟨σ, left⟩ ⟨σ', left'⟩ alike
  refine .peek_bind fun token p p' => ?_
  have ended : ends σ' token = ends σ token := by
    unfold ends
    split
    · exact alike.barEnds
    · rfl
  dsimp only
  rw [ended]
  split
  · exact .done trivial
  · refine .bind (together_precedence token p p') fun {own _} same => ?_
    cases same
    split
    · exact .done trivial
    · refine .bind .skip fun _ => .bind (h.rightOperand alike token) fun {right right'} _ => ?_
      refine .peek_bind fun following q q' => .bind (together_precedence following q q') ?_
      intro next _ same
      cases same
      split
      · exact .deeper alike fun inner => .bind (h.operators inner own _ _) fun _ =>
          .deeper alike fun alike => .bind (.of_checks (join_checks ..) (join_checks ..)) fun _ =>
            .again (alike.placed p p')
      · exact .bind (.pure (R := Any) trivial) fun _ => .deeper alike fun alike =>
          .bind (.of_checks (join_checks ..) (join_checks ..)) fun _ => .again (alike.placed p p')

protected theorem expressionOf : Parse.Together known Any
    (expressionOf g r σ) (expressionOf g' r' σ') (expressionOf (g.knowing known) r'' σ) :=
  .peek_bind fun _ p p' => .deeper (alike.placed p p') fun alike =>
    .bind (h.operand alike) fun _ => h.operators alike 1 _ _

/-! ## Arguments, indexes and literals of collections -/

protected theorem arguments (name : String) : Parse.Together known Any
    (arguments g r σ name) (arguments g' r' σ' name) (arguments (g.knowing known) r'' σ name) := by
  unfold arguments
  refine .peek_bind fun token p p' => ?_
  split
  · exact .fail _ _
  · exact .fail _ _
  · next same =>
    cases same
    exact .bind .skip fun _ => .pure trivial
  · next notEnd notFault notClosed =>
    split
    · exact .fail_beside _ _
    · exact .fail_beside _ _
    · next same =>
      cases same
      exact (notClosed _ rfl).elim
    · refine .deeper alike fun alike => .iterate (R := Any) (fun _ => .peek_bind fun token p p' => ?_)
        trivial
      dsimp only
      split
      case' h_1 => refine .bind (.pure (R := Any) trivial) fun _ => ?_
      case' h_2 =>
        refine .bind (h.expression alike) fun _ => .bind (.pure (R := Any) trivial) fun _ => ?_
      all_goals
        refine .peek_bind fun token p p' => ?_
        split
        · next same =>
          cases same
          exact .bind .skip fun _ => .done trivial
        · next same =>
          cases same
          exact .bind .skip fun _ => .again trivial
        · exact .fail _ _
        · exact .missing _ _ _

protected theorem callOf (name : String) (p p' : Position) (given : Bool) : Parse.Together known Any
    (callOf g r σ name p given) (callOf g' r' σ' name p' given)
    (callOf (g.knowing known) r'' σ name p given) := by
  unfold callOf
  split
  · exact .pure trivial
  · exact h.arguments (alike.placed p p') name

protected theorem indexes (whole whole' : Expr) (joint joint' : Joint) : Parse.Together known Any
    (indexes g r σ whole joint) (indexes g' r' σ' whole' joint')
    (indexes (g.knowing known) r'' σ whole joint) := by
  refine .iterate (R := fun a b => a.1.Beside b.1 ∧ b.2.2.isEmpty = a.2.2.isEmpty) ?_ ⟨alike, rfl⟩
  rintro ⟨σ, joint, seen⟩ ⟨σ', joint', seen'⟩ ⟨alike, isFirst⟩
  refine .deeper (alike.placed _ _) fun alike => .deeper alike fun inner =>
    .bind (h.expression inner) fun {key key'} _ => ?_
  dsimp only at isFirst ⊢
  rw [isFirst]
  split
  case' isTrue => refine .bind (.of_checks (checkIndex_checks ..) (checkIndex_checks ..)) fun _ => ?_
  all_goals
    refine .peek_bind fun token p p' => ?_
    split
    · next same =>
      cases same
      refine .bind .skip fun _ => .peek_bind fun token p p' => ?_
      split
      · next same =>
        cases same
        exact .bind .skip fun _ => .again ⟨alike, rfl⟩
      · next same =>
        cases same
        exact .bind .skip fun _ => .again ⟨alike, rfl⟩
      · next notOpen notQuestion =>
        split
        · next same =>
          cases same
          exact (notOpen _ rfl).elim
        · next same =>
          cases same
          exact (notQuestion _ rfl).elim
        · exact .done trivial
    · exact .missing _ _ _

protected theorem array : Parse.Together known Any
    (array g r σ) (array g' r' σ') (array (g.knowing known) r'' σ) := by
  refine .next_bind fun _ opened opened' => .iterate (R := Any) (fun {seen seen'} _ => ?_) trivial
  refine .peek_bind fun token p p' => .guarded (fun read => nomatch read) (fun read => nomatch read) ?_
  split
  · exact .bind .skip fun _ => .done trivial
  · exact .fail _ _
  · refine .deeper (alike.placed _ _) fun alike => .bind (h.expression alike) fun _ =>
      .peek_bind fun token p p' => ?_
    split
    · next same =>
      cases same
      exact .bind .skip fun _ => .again trivial
    · next same =>
      cases same
      exact .again trivial
    · exact .fail _ _
    · exact .missing _ _ _

omit h alike in
theorem together_entryName (seen seen' : List (String × Expr)) :
    Parse.Together known Eq (entryName seen) (entryName seen') (entryName seen) := by
  have fresh (name : String) (p p' : Position) : Parse.Together known Eq
      (if seen.any (·.1 = name) then Parse.fail (.duplicateProperty name) p else return name)
      (if seen'.any (·.1 = name) then Parse.fail (.duplicateProperty name) p' else return name)
      (if seen.any (·.1 = name) then Parse.fail (.duplicateProperty name) p else return name) := by
    by_cases twice : seen.any (·.1 = name) = true
    · rw [if_pos twice]
      exact .fail _ _
    · rw [if_neg twice]
      split
      · exact .fail_beside _ _
      · exact .pure rfl
  have refused {p : Position} {s : Reading} {r : String × Reading}
      (read : noEntryName seen p s = .ok r) : False := by
    unfold noEntryName at read
    split at read <;> cases read
  refine .next_bind fun token p p' => ?_
  split
  · next same =>
    cases same
    exact fresh _ p p'
  · next same =>
    cases same
    exact fresh _ p p'
  · split
    · exact .fail _ _
    · exact .of_stops refused
  · exact .fail _ _
  · exact .fail _ _
  · exact .of_stops refused

protected theorem object : Parse.Together known Any
    (object g r σ) (object g' r' σ') (object (g.knowing known) r'' σ) := by
  refine .next_bind fun _ opened opened' => .iterate (R := Any) (fun {seen seen'} _ => ?_) trivial
  have refused {cause : CompileCause} {f : Unit → Parse (Turn (List (String × Expr)) Expr)}
      {s : Reading} {r : Turn (List (String × Expr)) Expr × Reading}
      (read : (do
        let l ← peek
        let u ← Parse.fail cause l.2
        f u) s = .ok r) : False :=
    Parse.Together.bind_stops read fun read => by cases read
  refine .peek_cases fun token p p' m' there => ?_
  split
  · next same =>
    cases same
    subst there
    exact .bind .skip fun _ => .done trivial
  · exact .fail _ _
  · next notClosed notEnd =>
    split at there
    · next same =>
      cases same
      exact (notClosed _ rfl).elim
    · subst there
      exact .fail_beside _ _
    · subst there
      refine .bind (together_entryName seen seen') fun {name _} same => ?_
      cases same
      refine .bind (.expect ..) fun _ => .guarded refused refused (.deeper (alike.placed _ _) fun alike =>
        .bind (h.expression alike) fun _ => .peek_bind fun token p p' => ?_)
      split
      · next same =>
        cases same
        exact .bind .skip fun _ => .again trivial
      · next same =>
        cases same
        exact .again trivial
      · exact .fail _ _
      · exact .missing _ _ _

protected theorem bracketed : Parse.Together known Any
    (bracketed r σ) (bracketed r' σ') (bracketed r'' σ) := by
  refine .next_bind fun _ opened opened' => .bind (.accept _) ?_
  rintro ⟨closed, p⟩ ⟨_, p'⟩ ⟨⟩
  dsimp only
  split
  · exact .pure trivial
  · exact .bind (h.expression (alike.placed _ _)) fun _ => .bind (.expect ..) fun _ => .pure trivial

/-! ## Anonymous functions -/

omit h alike in
theorem together_closureParams :
    Parse.Together known Any closureParams closureParams closureParams := by
  refine .bind (.accept .pipe) ?_
  rintro ⟨closed, p⟩ ⟨_, p'⟩ ⟨⟩
  dsimp only
  split
  · exact .pure trivial
  · refine .iterate (R := Any) (fun {seen seen'} _ => .next_bind fun token p p' => ?_) trivial
    split
    · next same =>
      cases same
      exact .done trivial
    · next same =>
      cases same
      refine .guarded (fun read => nomatch read) (fun read => nomatch read)
        (.bind (.define ..) fun _ => .next_bind fun token p p' => ?_)
      split
      · next same =>
        cases same
        exact .done trivial
      · next same =>
        cases same
        exact .again trivial
      · exact .missing _ _ _
    · exact .missing _ _ _

include fewer

protected theorem closure : Parse.Together known Any
    (closure g r σ) (closure g' r' σ') (closure (g.knowing known) r'' σ) := by
  refine .next_bind fun bar opened opened' => .deeper (alike.placed _ _) fun {σ σ'} alike => ?_
  have inside : Setting.Beside
      { σ with atTop := false, inLoop := false, inFunction := true, strict := false, barEnds := false }
      { σ' with atTop := false, inLoop := false, inFunction := true, strict := false, barEnds := false } :=
    ⟨rfl, rfl, rfl, rfl, rfl⟩
  have body (params params' : List String) := Parse.Together.bind (h.statement inside)
    fun {body body'} _ => .pure (R := Any) (a := (params, body)) (b := (params', body')) trivial
  refine .bind (.framed (R := Any) ?_) ?_
  · dsimp only
    split
    · exact .bind (.pure (R := Any) trivial) fun _ => body _ _
    · exact .bind together_closureParams fun _ => body _ _
  · rintro ⟨⟨params, body⟩, outer⟩ ⟨⟨params', body'⟩, outer'⟩ ⟨-, same⟩
    dsimp only at same ⊢
    rw [alike.strict]
    refine .bind (.mentions fewer σ.strict same) fun _ => ?_
    exact .of_checks (.ite (.pure _) (.pure _)) (.ite (.pure _) (.pure _))

/-! ## Operands -/

omit fewer in
protected theorem namedLink (joint joint' : Joint) (name : String) (p p' : Position)
    (callOnly : Bool) : Parse.Together known Any (namedLink g r σ joint name p callOnly)
      (namedLink g' r' σ' joint' name p' callOnly)
      (namedLink (g.knowing known) r'' σ joint name p callOnly) := by
  refine .peek_cases fun token q q' m' there => ?_
  split
  · next same =>
    cases same
    subst there
    exact .bind .skip fun _ => .bind (h.callOf alike name p p' false) fun _ => .pure trivial
  · next same =>
    cases same
    subst there
    exact .bind .skip fun _ => .bind (h.callOf alike name p p' true) fun _ => .pure trivial
  · next notOpen notUnit =>
    split at there
    · next same =>
      cases same
      exact (notOpen _ rfl).elim
    · next same =>
      cases same
      exact (notUnit _ rfl).elim
    · subst there
      split
      · exact .fail _ _
      · exact .pure trivial

omit fewer in
protected theorem memberLink (joint joint' : Joint) : Parse.Together known Any
    (memberLink g r σ joint) (memberLink g' r' σ' joint')
    (memberLink (g.knowing known) r'' σ joint) := by
  refine .deeper (alike.placed _ _) fun alike => .next_bind fun token p p' => ?_
  split
  · next same =>
    cases same
    exact h.namedLink alike joint joint' _ p p' false
  · next same =>
    cases same
    dsimp only
    split
    · exact h.namedLink alike joint joint' _ p p' true
    · exact .fail _ _
  · exact .fail _ _

omit fewer in
protected theorem links (e e' : Expr) : Parse.Together known Any
    (links g r σ e) (links g' r' σ' e') (links (g.knowing known) r'' σ e) := by
  refine .iterate (R := fun a b => a.1.Beside b.1) ?_ alike
  rintro ⟨σ, e⟩ ⟨σ', e'⟩ alike
  have deeper : Setting.Beside { σ with level := σ.level + 1 } { σ' with level := σ'.level + 1 } :=
    { alike with }
  refine .peek_cases fun token p p' m' there => ?_
  split
  · next same =>
    cases same
    subst there
    exact .bind .skip fun _ => .bind (h.memberLink alike _ _) fun _ => .again deeper
  · next same =>
    cases same
    subst there
    exact .bind .skip fun _ => .bind (h.memberLink alike _ _) fun _ => .again deeper
  · next same =>
    cases same
    subst there
    exact .bind .skip fun _ => .bind (h.indexes alike e e' _ _) fun _ => .again alike
  · next same =>
    cases same
    subst there
    exact .bind .skip fun _ => .bind (h.indexes alike e e' _ _) fun _ => .again alike
  · next notPeriod notElvis notOpen notQuestion =>
    split at there
    · next same =>
      cases same
      exact (notPeriod _ rfl).elim
    · next same =>
      cases same
      exact (notElvis _ rfl).elim
    · next same =>
      cases same
      exact (notOpen _ rfl).elim
    · next same =>
      cases same
      exact (notQuestion _ rfl).elim
    · subst there
      exact .done trivial

/-- Two things that may be left out are both there, or both left out. -/
def BothGiven {α β : Type} (a : Option α) (b : Option β) : Prop := b.isSome = a.isSome

omit fewer in
protected theorem callBehind? (name : String) (p p' : Position) : Parse.Together known BothGiven
    (callBehind? g r σ name p) (callBehind? g' r' σ' name p')
    (callBehind? (g.knowing known) r'' σ name p) := by
  have call {given : Bool} : Parse.Together known BothGiven
      (do return some (Expr.call name (← callOf g r σ name p given) p))
      (do return some (Expr.call name (← callOf g' r' σ' name p' given) p'))
      (do return some (Expr.call name (← callOf (g.knowing known) r'' σ name p given) p)) :=
    .bind (h.callOf alike name p p' given) fun _ => .pure rfl
  refine .peek_cases fun token q q' m' there => ?_
  split
  · next same =>
    cases same
    subst there
    exact .bind .skip fun _ => call
  · next same =>
    cases same
    subst there
    exact .bind .skip fun _ => call
  · next same =>
    cases same
    subst there
    refine .bind .skip fun _ => .next_bind fun token q q' => ?_
    split
    · next same =>
      cases same
      exact call
    · next same =>
      cases same
      exact call
    · exact .fail _ _
  · next notOpen notUnit notBang =>
    split at there
    · next same =>
      cases same
      exact (notOpen _ rfl).elim
    · next same =>
      cases same
      exact (notUnit _ rfl).elim
    · next same =>
      cases same
      exact (notBang _ rfl).elim
    · subst there
      exact .pure rfl

omit fewer in
protected theorem globalMember (full member : String) (p p' : Position) : Parse.Together known Any
    (globalMember g r σ full member p) (globalMember g' r' σ' full member p')
    (globalMember (g.knowing known) r'' σ full member p) := by
  refine .peek_cases fun token q q' m' there => ?_
  split
  · next same =>
    cases same
    subst there
    exact .bind .skip fun _ => .bind (h.callOf alike member p p' false) fun _ => .pure trivial
  · next same =>
    cases same
    subst there
    exact .bind .skip fun _ => .bind (h.callOf alike member p p' true) fun _ => .pure trivial
  · next notOpen notUnit =>
    split at there
    · next same =>
      cases same
      exact (notOpen _ rfl).elim
    · next same =>
      cases same
      exact (notUnit _ rfl).elim
    · subst there
      exact .pure trivial

protected theorem named (name : String) (p p' : Position) : Parse.Together known Any
    (named g r σ name p) (named g' r' σ' name p') (named (g.knowing known) r'' σ name p) := by
  refine .bind (h.callBehind? alike name p p') fun {call call'} same =>
    .peek_cases fun token q q' m' there => ?_
  cases call with
  | some call =>
    cases call' with
    | none => cases same
    | some call' =>
      subst there
      exact .pure trivial
  | none =>
    cases call' with
    | some call' => cases same
    | none =>
      split
      · next known => cases known
      · next same =>
        cases same
        subst there
        refine .bind .skip fun _ => .bind .variableName ?_
        rintro ⟨member, q⟩ ⟨_, q'⟩ ⟨⟩
        exact .guarded (fun read => nomatch read) (fun read => nomatch read)
          (h.globalMember alike _ member p p')
      · next notColon =>
        split at there
        · next known => cases known
        · next same =>
          cases same
          exact (notColon _ rfl).elim
        · subst there
          rw [alike.strict]
          exact .bind (.mention fewer σ.strict name p p') fun _ => .pure trivial

omit fewer in
protected theorem reservedWord (word : String) (p p' : Position) : Parse.Together known Any
    (reservedWord g r σ word p) (reservedWord g' r' σ' word p')
    (reservedWord (g.knowing known) r'' σ word p) := by
  unfold reservedWord
  dsimp only
  rw [alike.inFunction]
  have alone : Parse.Together known Any
      (if word = "this" then
        if σ.inFunction then return .this p
        else Parse.fail (.lexical (.improperSign "this" " can only be used in functions")) p
      else Parse.fail (.reserved word) p : Parse Expr)
      (if word = "this" then
        if σ.inFunction then return .this p'
        else Parse.fail (.lexical (.improperSign "this" " can only be used in functions")) p'
      else Parse.fail (.reserved word) p' : Parse Expr)
      (if word = "this" then
        if σ.inFunction then return .this p
        else Parse.fail (.lexical (.improperSign "this" " can only be used in functions")) p
      else Parse.fail (.reserved word) p) := by
    split
    · split
      · exact .pure trivial
      · exact .fail _ _
    · exact .fail _ _
  split
  · refine .bind (h.callBehind? alike word p p') fun {call call'} same => ?_
    cases call with
    | some call =>
      cases call' with
      | none => cases same
      | some call' => exact .pure trivial
    | none =>
      cases call' with
      | none => exact alone
      | some call' => cases same
  · exact alone

omit fewer in
/-- A construct is a block of its own, or is put into one. -/
protected theorem enclosed : Parse.Together known Any
    (do match ← r.construct σ with
      | .block body p => return .block body p
      | statement => return .block [statement] statement.pos : Parse Expr)
    (do match ← r'.construct σ' with
      | .block body p => return .block body p
      | statement => return .block [statement] statement.pos : Parse Expr)
    (do match ← r''.construct σ with
      | .block body p => return .block body p
      | statement => return .block [statement] statement.pos) :=
  .bind (h.construct alike) fun _ =>
    .of_checks (by split <;> exact .pure _) (by split <;> exact .pure _)

protected theorem primary : Parse.Together known Any
    (primary g r σ) (primary g' r' σ') (primary (g.knowing known) r'' σ) := by
  refine .peek_bind fun token p p' => ?_
  have placed := alike.placed p p'
  have literal (v : Literal) : Parse.Together known Any
      (do
        skip
        return Expr.literal v p)
      (do
        skip
        return Expr.literal v p')
      (do
        skip
        return Expr.literal v p) := .bind .skip fun _ => .pure trivial
  have ended : ends { σ' with pos := p' } token = ends { σ with pos := p } token := by
    unfold ends
    split
    · exact alike.barEnds
    · rfl
  dsimp only
  split
  case h_1 | h_2 => exact .fail _ _
  case h_10 => exact .deeper placed fun alike => h.bracketed alike
  case h_11 => exact .deeper placed fun alike => h.array alike
  case h_12 => exact .deeper placed fun alike => h.object alike
  case h_13 | h_14 =>
    rw [ended]
    split
    · exact .fail _ _
    · exact h.closure fewer placed
  case h_15 | h_16 | h_17 | h_18 | h_19 | h_20 | h_21 => exact h.enclosed placed
  case h_22 => exact .bind .skip fun _ => h.named fewer placed _ p p'
  case h_23 => exact .bind .skip fun _ => h.reservedWord placed _ p p'
  case h_24 => exact .fail _ _
  all_goals exact literal _

protected theorem operandOf : Parse.Together known Any
    (operandOf g r σ) (operandOf g' r' σ') (operandOf (g.knowing known) r'' σ) := by
  refine .peek_bind fun token p p' => ?_
  have placed := alike.placed p p'
  dsimp only
  split
  · exact .bind .skip fun _ => .deeper placed fun alike => .bind (h.operand alike) fun _ => .pure trivial
  · exact .bind .skip fun _ => .deeper placed fun alike => .bind (h.operand alike) fun _ =>
      .of_checks (by split <;> exact .pure _) (by split <;> exact .pure _)
  · exact .bind .skip fun _ => .deeper placed fun alike => .bind (h.operand alike) fun _ => .pure trivial
  · exact .pure trivial
  · exact .pure trivial
  · exact .bind (h.primary fewer placed) fun _ => h.links placed _ _

end Together

end Rules

end ScriptGate.Script
