import ScriptGate.Proofs.Script.Follow
import ScriptGate.Script.Tree.Expression

/-!
# Grammars that accept more

What is read under limits on nesting and on the size of literals is read in the same way under wider
ones. A parser grows into another one if that one succeeds wherever the first one does, with the
same result (`Parse.Grows`). Each rule of the grammar does so if the rules for its parts do, and
hence the whole grammar (`Tree.parse_of_within`).
-/

namespace ScriptGate.Script

/-- Whether a grammar accepts at least what another one does: its limits are wider. -/
structure Grammar.Within (g g' : Grammar) : Prop where
  maxDepth : CapWithin g.maxDepth g'.maxDepth
  maxItems : CapWithin g.maxItems g'.maxItems
  known : g'.known = g.known
  settle : g'.settle = g.settle

namespace Parse

/-- Whether a parser has the results of another one. -/
def Grows {α : Type} (m m' : Parse α) : Prop := ∀ s r, m s = .ok r → m' s = .ok r

theorem exists_of_bind {α β : Type} {m : Parse α} {f : α → Parse β} {s : Reading}
    {r : β × Reading} (read : (m >>= f) s = .ok r) : ∃ a t, m s = .ok (a, t) ∧ f a t = .ok r := by
  change Except.bind (m s) (fun a => f a.1 a.2) = .ok r at read
  cases first : m s with
  | error e =>
    rw [first] at read
    cases read
  | ok a =>
    rw [first] at read
    exact ⟨a.1, a.2, rfl, read⟩

theorem bind_of_ok {α β : Type} {m : Parse α} {f : α → Parse β} {s t : Reading} {a : α}
    (read : m s = .ok (a, t)) : (m >>= f) s = f a t := by
  change Except.bind (m s) (fun a => f a.1 a.2) = _
  rw [read]
  rfl

namespace Grows

variable {α β : Type} {m m' : Parse α}

protected theorem refl (m : Parse α) : Grows m m := fun _ _ read => read

/-- Every parser has the results of one that always stops. -/
theorem fail (cause : CompileCause) (p : Position) (m' : Parse α) : Grows (fail cause p) m' :=
  fun _ _ read => nomatch read

protected theorem bind {f f' : α → Parse β} (h : Grows m m') (further : ∀ a, Grows (f a) (f' a)) :
    Grows (m >>= f) (m' >>= f') := by
  intro s r read
  obtain ⟨a, t, first, read⟩ := exists_of_bind read
  rw [bind_of_ok (h s _ first)]
  exact further a t r read

theorem fail_bind (cause : CompileCause) (p : Position) (f : α → Parse β) (m' : Parse β) :
    Grows (Parse.fail cause p >>= f) m' :=
  fun _ _ read => nomatch read

theorem missing_bind (token purpose : String) (found : Lexeme) (f : α → Parse β) (m' : Parse β) :
    Grows (missing token purpose found >>= f) m' := by
  unfold missing
  split <;> exact .fail_bind _ _ f m'

protected theorem map (f : α → β) (h : Grows m m') : Grows (f <$> m) (f <$> m') := by
  rw [← bind_pure_comp, ← bind_pure_comp]
  exact .bind h fun _ => .refl _

protected theorem repeatFor {step step' : α → Parse (Turn α β)}
    (steps : ∀ a, Grows (step a) (step' a)) (fuel : Nat) (a : α) :
    Grows (repeatFor step fuel a) (repeatFor step' fuel a) := by
  induction fuel generalizing a with
  | zero => exact .refl _
  | succ fuel ih =>
    refine .bind (steps a) fun turn => ?_
    cases turn with
    | again a => exact ih a
    | done b => exact .refl _

protected theorem iterate {step step' : α → Parse (Turn α β)}
    (steps : ∀ a, Grows (step a) (step' a)) (a : α) : Grows (iterate step a) (iterate step' a) :=
  .bind (.refl _) fun s => .repeatFor steps (s.rest.length + 1) a

protected theorem inScope (h : Grows m m') : Grows (inScope m) (inScope m') :=
  .bind (.refl _) fun _ => .bind h fun _ => .refl _

protected theorem framed (h : Grows m m') : Grows (framed m) (framed m') :=
  .bind (.refl _) fun _ => .bind (.refl _) fun _ => .bind h fun _ => .refl _

end Grows

section Grammars

variable {g g' : Grammar} (w : g.Within g')

include w

theorem grows_deeper (s : Setting) : Grows (deeper g s) (deeper g' s) := by
  unfold deeper
  dsimp only
  split
  · exact .fail _ _ _
  · next fits =>
    rw [if_neg (mt w.maxDepth.lt_of_lt fits)]
    exact .refl _

theorem mention_eq (strict : Bool) (name : String) (p : Position) :
    mention g' strict name p = mention g strict name p := by
  unfold mention
  rw [w.known]

/-- Going on one level deeper. -/
theorem Grows.deeper {α : Type} {f f' : Setting → Parse α} (s : Setting)
    (further : ∀ s, Grows (f s) (f' s)) : Grows (deeper g s >>= f) (deeper g' s >>= f') :=
  .bind (grows_deeper w s) further

/-- Going on unless there are too many items. -/
theorem Grows.capped {α : Type} {n : Nat} {refused refused' m m' : Parse α}
    (never : ∀ {s r}, refused s = .ok r → False) (further : Grows m m') :
    Grows (if 0 < g.maxItems ∧ g.maxItems ≤ n then refused else m)
      (if 0 < g'.maxItems ∧ g'.maxItems ≤ n then refused' else m') := by
  intro s r read
  split at read
  · exact (never read).elim
  · next fits =>
    rw [if_neg (mt w.maxItems.le_of_le fits)]
    exact further s r read

end Grammars

end Parse

open Parse

/-- Whether rules have the results of others. -/
structure Rules.Grows (r r' : Rules) : Prop where
  expression : ∀ s, Parse.Grows (r.expression s) (r'.expression s)
  operand : ∀ s, Parse.Grows (r.operand s) (r'.operand s)
  operators : ∀ s parent left, Parse.Grows (r.operators s parent left) (r'.operators s parent left)
  construct : ∀ s, Parse.Grows (r.construct s) (r'.construct s)
  statement : ∀ s, Parse.Grows (r.statement s) (r'.statement s)
  block : ∀ s, Parse.Grows (r.block s) (r'.block s)
  branch : ∀ s, Parse.Grows (r.branch s) (r'.branch s)

namespace Rules.Grows

variable {g g' : Grammar} {r r' : Rules} (h : Grows r r') (w : g.Within g')

include h w

/-! ## Operators -/

omit w in
protected theorem rightOperand (s : Setting) (operator : Token) :
    Parse.Grows (rightOperand r s operator) (rightOperand r' s operator) := by
  refine .bind (.refl _) fun (token, p) => ?_
  dsimp only
  split
  · exact .refl _
  · exact h.operand s

protected theorem operatorsOf (s : Setting) (parent : Nat) (left : Expr) :
    Parse.Grows (operatorsOf g r s parent left) (operatorsOf g' r' s parent left) := by
  refine .iterate (fun (s, left) => .bind (.refl _) fun (token, p) => ?_) _
  dsimp only
  split
  · exact .refl _
  · refine .bind (.refl _) fun own => ?_
    split
    · exact .refl _
    · refine .bind (.refl _) fun _ => .bind (h.rightOperand s token) fun right =>
        .bind (.refl _) fun following => .bind (.refl _) fun next => ?_
      split
      · exact .deeper w s fun s => .bind (h.operators s own right) fun right =>
          .deeper w _ fun s => .refl _
      · exact .bind (.refl _) fun right => .deeper w s fun s => .refl _

protected theorem expressionOf (s : Setting) :
    Parse.Grows (expressionOf g r s) (expressionOf g' r' s) :=
  .bind (.refl _) fun _ => .deeper w _ fun s => .bind (h.operand s) fun e => h.operators s 1 e

/-! ## Arguments, indexes and literals of collections -/

protected theorem arguments (s : Setting) (name : String) :
    Parse.Grows (arguments g r s name) (arguments g' r' s name) := by
  refine .bind (.refl _) fun found => ?_
  split
  · exact .refl _
  · exact .refl _
  · exact .refl _
  · refine .deeper w s fun s => .iterate (fun seen => .bind (.refl _) fun next => ?_) _
    split
    · exact .refl _
    · exact .bind (h.expression s) fun _ => .refl _

protected theorem callOf (s : Setting) (name : String) (p : Position) (given : Bool) :
    Parse.Grows (callOf g r s name p given) (callOf g' r' s name p given) := by
  unfold callOf
  split
  · exact .refl _
  · exact h.arguments w _ name

protected theorem indexes (s : Setting) (whole : Expr) (joint : Joint) :
    Parse.Grows (indexes g r s whole joint) (indexes g' r' s whole joint) :=
  .iterate (fun _ => .deeper w _ fun s => .deeper w s fun s =>
    .bind (h.expression s) fun _ => .refl _) _

protected theorem array (s : Setting) : Parse.Grows (array g r s) (array g' r' s) := by
  refine .bind (.refl _) fun (token, opened) => .iterate (fun seen => ?_) _
  refine .bind (.refl _) fun (token, p) => ?_
  refine .capped w (fun read => nomatch read) ?_
  split
  · exact .refl _
  · exact .refl _
  · exact .deeper w _ fun s => .bind (h.expression s) fun item => .refl _

protected theorem object (s : Setting) : Parse.Grows (object g r s) (object g' r' s) := by
  refine .bind (.refl _) fun (token, opened) => .iterate (fun seen => ?_) _
  refine .bind (.refl _) fun found => ?_
  split
  · exact .refl _
  · exact .refl _
  · refine .bind (.refl _) fun name => .bind (.refl _) fun _ => .capped w (fun read => ?_) ?_
    · obtain ⟨lexeme, t, -, read⟩ := exists_of_bind read
      cases read
    · exact .deeper w _ fun s => .bind (h.expression s) fun value => .refl _

omit w in
protected theorem bracketed (s : Setting) : Parse.Grows (bracketed r s) (bracketed r' s) := by
  refine .bind (.refl _) fun (token, opened) => .bind (.refl _) fun (closed, p) => ?_
  dsimp only
  split
  · exact .refl _
  · exact .bind (h.expression _) fun e => .refl _

/-! ## Anonymous functions -/

protected theorem closure (s : Setting) : Parse.Grows (closure g r s) (closure g' r' s) := by
  refine .bind (.refl _) fun (bar, opened) => .deeper w _ fun s => ?_
  have body (params : List String) := Parse.Grows.bind
    (h.statement
      { s with atTop := false, inLoop := false, inFunction := true, strict := false, barEnds := false })
    fun body => .refl (return (params, body))
  refine .bind (.framed ?_) fun ((params, body), outer) => ?_
  · dsimp only
    split
    · exact .bind (.refl _) body
    · exact .bind (.refl _) body
  · dsimp only
    simp only [mention_eq w, w.settle]
    exact .refl _

/-! ## Operands -/

protected theorem namedLink (s : Setting) (joint : Joint) (name : String) (p : Position)
    (callOnly : Bool) : Parse.Grows (namedLink g r s joint name p callOnly)
      (namedLink g' r' s joint name p callOnly) := by
  refine .bind (.refl _) fun found => ?_
  split
  · exact .bind (.refl _) fun _ => .bind (h.callOf w s name p false) fun _ => .refl _
  · exact .bind (.refl _) fun _ => .bind (h.callOf w s name p true) fun _ => .refl _
  · exact .refl _

protected theorem memberLink (s : Setting) (joint : Joint) :
    Parse.Grows (memberLink g r s joint) (memberLink g' r' s joint) := by
  refine .deeper w _ fun s => .bind (.refl _) fun found => ?_
  split
  · exact h.namedLink w s joint _ _ false
  · split
    · exact h.namedLink w s joint _ _ true
    · exact .refl _
  · exact .refl _

protected theorem links (s : Setting) (e : Expr) :
    Parse.Grows (links g r s e) (links g' r' s e) := by
  refine .iterate (fun (s, e) => .bind (.refl _) fun found => ?_) _
  split
  · exact .bind (.refl _) fun _ => .bind (h.memberLink w s _) fun _ => .refl _
  · exact .bind (.refl _) fun _ => .bind (h.memberLink w s _) fun _ => .refl _
  · exact .bind (.refl _) fun _ => .bind (h.indexes w s e _) fun _ => .refl _
  · exact .bind (.refl _) fun _ => .bind (h.indexes w s e _) fun _ => .refl _
  · exact .refl _

protected theorem callBehind? (s : Setting) (name : String) (p : Position) :
    Parse.Grows (callBehind? g r s name p) (callBehind? g' r' s name p) := by
  refine .bind (.refl _) fun found => ?_
  split
  · exact .bind (.refl _) fun _ => .bind (h.callOf w s name p false) fun _ => .refl _
  · exact .bind (.refl _) fun _ => .bind (h.callOf w s name p true) fun _ => .refl _
  · refine .bind (.refl _) fun _ => .bind (.refl _) fun found => ?_
    split
    · exact .bind (h.callOf w s name p false) fun _ => .refl _
    · exact .bind (h.callOf w s name p true) fun _ => .refl _
    · exact .refl _
  · exact .refl _

protected theorem globalMember (s : Setting) (full member : String) (p : Position) :
    Parse.Grows (globalMember g r s full member p) (globalMember g' r' s full member p) := by
  refine .bind (.refl _) fun found => ?_
  split
  · exact .bind (.refl _) fun _ => .bind (h.callOf w s member p false) fun _ => .refl _
  · exact .bind (.refl _) fun _ => .bind (h.callOf w s member p true) fun _ => .refl _
  · exact .refl _

protected theorem named (s : Setting) (name : String) (p : Position) :
    Parse.Grows (named g r s name p) (named g' r' s name p) := by
  refine .bind (h.callBehind? w s name p) fun call => .bind (.refl _) fun found => ?_
  split
  · exact .refl _
  · refine .bind (.refl _) fun _ => .bind (.refl _) fun (member, q) => ?_
    have behind := h.globalMember w s (name ++ "::" ++ member) member p
    dsimp only
    split
    · exact .bind (.refl _) fun _ => behind
    · exact behind
  · simp only [mention_eq w]
    exact .refl _

protected theorem reservedWord (s : Setting) (word : String) (p : Position) :
    Parse.Grows (reservedWord g r s word p) (reservedWord g' r' s word p) := by
  unfold reservedWord
  dsimp only
  split
  · exact .bind (h.callBehind? w s word p) fun _ => .refl _
  · exact .refl _

protected theorem primary (s : Setting) : Parse.Grows (primary g r s) (primary g' r' s) := by
  refine .bind (.refl _) fun (token, p) => ?_
  dsimp only
  split
  case h_10 => exact .deeper w _ fun s => h.bracketed s
  case h_11 => exact .deeper w _ fun s => h.array w s
  case h_12 => exact .deeper w _ fun s => h.object w s
  case h_13 | h_14 =>
    split
    · exact .refl _
    · exact h.closure w _
  case h_22 => exact .bind (.refl _) fun _ => h.named w _ _ p
  case h_23 => exact .bind (.refl _) fun _ => h.reservedWord w _ _ p
  case h_15 | h_16 | h_17 | h_18 | h_19 | h_20 | h_21 => exact .bind (h.construct _) fun _ => .refl _
  all_goals exact .refl _

protected theorem operandOf (s : Setting) :
    Parse.Grows (operandOf g r s) (operandOf g' r' s) := by
  refine .bind (.refl _) fun (token, p) => ?_
  dsimp only
  split
  · exact .bind (.refl _) fun _ => .deeper w _ fun s => .bind (h.operand s) fun _ => .refl _
  · exact .bind (.refl _) fun _ => .deeper w _ fun s => .bind (h.operand s) fun _ => .refl _
  · exact .bind (.refl _) fun _ => .deeper w _ fun s => .bind (h.operand s) fun _ => .refl _
  · exact .refl _
  · exact .refl _
  · exact .bind (h.primary w _) fun e => h.links w _ e

end Rules.Grows

end ScriptGate.Script
