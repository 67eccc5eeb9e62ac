import ScriptGate.Proofs.Script.Grow
import ScriptGate.Script.Tree.Statement

/-!
# Grammars that accept more scripts

The rules for statements, and with them the grammar as a whole: what it reads under some limits it
reads in the same way under wider ones (`Tree.parse_of_within`).
-/

namespace ScriptGate.Script

open Parse

variable {g g' : Grammar} {r r' : Rules}

namespace Rules.Grows

variable (h : Grows r r') (w : g.Within g')

include h w

/-! ## Blocks, branches and loops -/

protected theorem blockOf (s : Setting) : Parse.Grows (blockOf g r s) (blockOf g' r' s) := by
  refine .inScope (.bind (.refl _) fun opened => .bind (.iterate (fun seen => ?_) _) fun _ => .refl _)
  refine .bind (.refl _) fun found => ?_
  split
  · exact .refl _
  · exact .refl _
  · exact .deeper w _ fun s => .bind (h.statement s) fun _ => .refl _

protected theorem condition (s : Setting) : Parse.Grows (condition g r s) (condition g' r' s) :=
  .bind (.refl _) fun _ => .deeper w s fun s => .bind (h.expression s) fun _ => .refl _

protected theorem branchOf (s : Setting) : Parse.Grows (branchOf g r s) (branchOf g' r' s) := by
  refine .bind (.refl _) fun (token, p) => .bind (h.condition w _) fun test =>
    .deeper w _ fun s => .bind (h.block s) fun (yes, yesPos) => .bind (.refl _) fun (hasElse, q) => ?_
  dsimp only
  split
  · exact .refl _
  · refine .bind (.refl _) fun found => ?_
    split
    · exact .deeper w _ fun s => .bind (h.branch s) fun _ => .refl _
    · exact .deeper w _ fun s => .bind (h.block s) fun _ => .refl _

protected theorem loopOf (s : Setting) : Parse.Grows (loopOf g r s) (loopOf g' r' s) := by
  refine .bind (.refl _) fun (word, p) => ?_
  dsimp only
  split
  · exact .bind (h.condition w s) fun test => .deeper w _ fun s => .bind (h.block s) fun _ => .refl _
  · exact .deeper w _ fun s => .bind (h.block s) fun _ => .refl _

protected theorem doLoop (s : Setting) : Parse.Grows (doLoop g r s) (doLoop g' r' s) := by
  refine .bind (.refl _) fun (token, p) => .deeper w _ fun inner =>
    .bind (h.block inner) fun (body, _) =>
    .bind (.refl _) fun found => ?_
  have after (goal : Bool) := Parse.Grows.bind (h.condition w { s with pos := p }) fun test =>
    .refl (return Statement.repeatAfter body test goal p)
  split
  · exact .bind (.refl _) after
  · exact .bind (.refl _) after
  · exact .fail_bind _ _ _ _

protected theorem forLoop (s : Setting) : Parse.Grows (forLoop g r s) (forLoop g' r' s) := by
  refine .inScope (.bind (.refl _) fun (token, p) => .bind (.refl _) fun (name, counter) =>
    .bind (.refl _) fun found => ?_)
  dsimp only
  split
  · refine .bind (.refl _) fun _ => .deeper w _ fun s => .bind (h.expression s) fun e =>
      .bind (.refl _) fun source => ?_
    split
    · exact .bind (.refl _) fun _ => .bind (.refl _) fun _ => .deeper w _ fun s =>
        .bind (h.block s) fun _ => .refl _
    · exact .bind (.refl _) fun _ => .deeper w _ fun s => .bind (h.block s) fun _ => .refl _
  · exact .missing_bind _ _ _ _ _

/-! ## Switches -/

protected theorem caseKeys (s : Setting) : Parse.Grows (caseKeys g r s) (caseKeys g' r' s) := by
  refine .iterate (fun seen => .deeper w s fun inner => .bind (.refl _) fun state => ?_) _
  have grows := h.expression { inner with barEnds := true } state
  unfold StateT.run
  cases read : r.expression { inner with barEnds := true } state with
  | error e => exact .fail _ _ _
  | ok a =>
    rw [grows a read]
    exact .refl _

protected theorem caseHead (s : Setting) (soFar : SwitchSoFar) :
    Parse.Grows (caseHead g r s soFar) (caseHead g' r' s soFar) := by
  refine .bind (.refl _) fun found => ?_
  split
  · exact .refl _
  · exact .refl _
  · refine .bind (h.caseKeys w s) fun keys => .bind (.refl _) fun (hasCondition, _) => ?_
    dsimp only
    split
    · exact .bind (h.condition w s) fun _ => .refl _
    · exact .refl _

protected theorem switchOf (s : Setting) : Parse.Grows (switchOf g r s) (switchOf g' r' s) := by
  refine .bind (.refl _) fun (token, start) => .deeper w _ fun inner =>
    .bind (h.expression inner) fun subject =>
    .bind (.refl _) fun _ => .iterate (fun soFar => .bind (.refl _) fun found => ?_) _
  split
  · exact .refl _
  · exact .refl _
  · exact .bind (h.caseHead w _ soFar) fun (head, p) => .bind (.refl _) fun _ => .deeper w _ fun s =>
      .bind (h.statement s) fun action => .refl _

/-! ## Definitions, jumps and assignments -/

protected theorem definition (s : Setting) (constant : Bool) :
    Parse.Grows (definition g r s constant) (definition g' r' s constant) := by
  refine .bind (.refl _) fun (token, start) => .bind (.refl _) fun (name, _) =>
    .bind (.refl _) fun (hasValue, _) => ?_
  dsimp only
  split
  · exact .deeper w _ fun s => .bind (.map _ (h.expression s)) fun _ => .refl _
  · exact .refl _

protected theorem handlerOf (s : Setting) (body : List Statement) (brace : Position)
    (name : Option String) :
    Parse.Grows (handlerOf g r s body brace name) (handlerOf g' r' s body brace name) :=
  .deeper w _ fun s => .bind (h.block s) fun _ => .refl _

protected theorem attemptOf (s : Setting) : Parse.Grows (attemptOf g r s) (attemptOf g' r' s) := by
  refine .bind (.refl _) fun (token, start) => .deeper w _ fun inner =>
    .bind (h.block inner) fun (body, brace) =>
    .bind (.refl _) fun (hasCatch, p) => ?_
  have handler (name : Option String) :=
    h.handlerOf w { s with pos := start } body brace name
  dsimp only
  split
  · exact .fail_bind _ _ _ _
  · refine .inScope (.bind (.refl _) fun (hasName, _) => ?_)
    dsimp only
    split
    · refine .bind (.refl _) fun (name, _) => .bind (.refl _) fun (closed, p) => ?_
      dsimp only
      split
      · exact .fail_bind _ _ _ _
      · exact .bind (.refl _) fun _ => .bind (.refl _) handler
    · exact .bind (.refl _) handler

protected theorem leaveOf (s : Setting) : Parse.Grows (leaveOf g r s) (leaveOf g' r' s) := by
  refine .bind (.refl _) fun (token, start) => .bind (.refl _) fun found => ?_
  split
  · exact .refl _
  · exact .refl _
  · exact .refl _
  · exact .deeper w _ fun s => .bind (h.expression s) fun _ => .refl _

protected theorem jumpOf (s : Setting) : Parse.Grows (jumpOf g r s) (jumpOf g' r' s) := by
  refine .bind (.refl _) fun (word, start) => .bind (.refl _) fun found => ?_
  have value (build : Option Expr → Statement) (bare : Bool) : Parse.Grows
      (do return build (← if bare then pure none else some <$> r.expression (← deeper g s)))
      (do return build (← if bare then pure none else some <$> r'.expression (← deeper g' s))) := by
    dsimp only
    split
    · exact .refl _
    · exact .deeper w s fun s => .bind (.map _ (h.expression s)) fun _ => .refl _
  have jump (build : Option Expr → Statement) := fun bare : Parse Bool =>
    Parse.Grows.bind (.refl bare) (value build)
  split
  · split
    · exact jump _ _
    · exact jump _ _
    · exact jump _ _
    · exact jump _ _
  · split
    · exact jump _ _
    · exact jump _ _
    · exact jump _ _
    · exact jump _ _

omit w in
protected theorem expressionStatement (s : Setting) :
    Parse.Grows (expressionStatement r s) (expressionStatement r' s) := by
  refine .bind (.refl _) fun (token, start) => .bind (h.expression _) fun e => ?_
  refine .bind (.refl _) fun found => ?_
  split
  · split
    · exact .bind (.refl _) fun _ => .bind (h.expression _) fun _ => .refl _
    · exact .refl _
  · exact .refl _

/-! ## Functions -/

protected theorem functionNamed (s : Setting) (name : String) :
    Parse.Grows (functionNamed g r s name) (functionNamed g' r' s name) := by
  refine .bind (.framed (.bind (.refl _) fun params => ?_)) fun _ => .refl _
  refine .bind (.refl _) fun found => ?_
  dsimp only
  split
  · exact .deeper w _ fun s => .bind (h.block s) fun _ => .refl _
  · exact .fail_bind _ _ _ _

protected theorem function (s : Setting) : Parse.Grows (function g r s) (function g' r' s) := by
  refine .bind (.refl _) fun found => ?_
  split
  · exact .bind (.refl _) (h.functionNamed w s)
  · exact .fail_bind _ _ _ _
  · exact .fail_bind _ _ _ _

protected theorem functionStatement (s : Setting) :
    Parse.Grows (functionStatement g r s) (functionStatement g' r' s) := by
  refine .bind (.refl _) fun (word, p) => ?_
  dsimp only
  split
  · refine .bind (.refl _) fun (follows, q) => ?_
    dsimp only
    split
    · exact .bind (.refl _) fun start => .bind (h.function w _) fun _ => .refl _
    · exact .fail_bind _ _ _ _
  · exact .bind (.refl _) fun start => .bind (h.function w _) fun _ => .refl _

/-! ## All statements -/

protected theorem constructOf (s : Setting) :
    Parse.Grows (constructOf g r s) (constructOf g' r' s) := by
  refine .bind (.refl _) fun (token, p) => .deeper w _ fun s => ?_
  split
  · exact h.branch s
  · exact h.switchOf w s
  · exact h.doLoop w s
  · exact h.forLoop w s
  · exact .bind (h.block s) fun _ => .refl _
  · exact h.loopOf w s

protected theorem statementOf (s : Setting) :
    Parse.Grows (statementOf g r s) (statementOf g' r' s) := by
  refine .bind (.refl _) fun (token, p) => ?_
  have deep {read read' : Setting → Parse Statement} (reads : ∀ s, Parse.Grows (read s) (read' s)) :
      Parse.Grows (do return some (← read (← deeper g { s with pos := p })))
        (do return some (← read' (← deeper g' { s with pos := p }))) :=
    .deeper w _ fun s => .bind (reads s) fun _ => .refl _
  have construct : Parse.Grows (do return some (← r.construct { s with pos := p }))
      (do return some (← r'.construct { s with pos := p })) :=
    .bind (h.construct _) fun _ => .refl _
  have defined : Parse.Grows
      (if s.atTop then do
        functionStatement g r { s with pos := p }
        return none
      else Parse.fail .misplacedFunction p : Parse (Option Statement))
      (if s.atTop then do
        functionStatement g' r' { s with pos := p }
        return none
      else Parse.fail .misplacedFunction p) := by
    split
    · exact .bind (h.functionStatement w _) fun _ => .refl _
    · exact .refl _
  dsimp only
  split
  · exact .refl _
  · exact .refl _
  · exact defined
  · exact defined
  · exact construct
  · exact construct
  · exact construct
  · exact construct
  · exact construct
  · exact construct
  · exact construct
  · exact .refl _
  · split
    · exact .map _ (h.leaveOf w _)
    · exact .refl _
  · exact .map _ (h.jumpOf w _)
  · exact .map _ (h.jumpOf w _)
  · exact deep fun s => h.attemptOf w s
  · exact deep fun s => h.definition w s false
  · exact deep fun s => h.definition w s true
  · exact .refl _
  · exact .refl _
  · exact deep h.expressionStatement

end Rules.Grows

/-! ## Scripts -/

variable (w : g.Within g')

include w

/-- The rules of a grammar have the results of those of a narrower one. -/
theorem Rules.grows_ofGrammar (fuel : Nat) : Rules.Grows (.ofGrammar g fuel) (.ofGrammar g' fuel) := by
  induction fuel with
  | zero =>
    exact ⟨fun _ => .refl _, fun _ => .refl _, fun _ _ _ => .refl _, fun _ => .refl _,
      fun _ => .refl _, fun _ => .refl _, fun _ => .refl _⟩
  | succ fuel ih =>
    exact ⟨ih.expressionOf w, ih.operandOf w, ih.operatorsOf w, ih.constructOf w, ih.statementOf w,
      ih.blockOf w, ih.branchOf w⟩

/-- A script that is read under some limits is read in the same way under wider ones. -/
theorem Tree.parse_of_within {maxText : Nat} {source : String} {script : Tree}
    (read : Tree.parse g maxText source = .ok script) :
    Tree.parse g' maxText source = .ok script := by
  have grows (fuel : Nat) : Parse.Grows (statements (.ofGrammar g fuel))
      (statements (.ofGrammar g' fuel)) := by
    refine .iterate (fun seen => .bind (.refl _) fun (token, p) => ?_) _
    dsimp only
    split
    · exact .refl _
    · exact .bind ((Rules.grows_ofGrammar w fuel).statement _) fun _ => .refl _
  unfold Tree.parse StateT.run at read ⊢
  dsimp only at read ⊢
  split at read
  · next body state found =>
    rw [grows _ _ _ found]
    exact read
  · cases read

end ScriptGate.Script
