import ScriptGate.Proofs.Script.Follow.Statement
import ScriptGate.Proofs.Script.Mirror.Expression

/-!
# Evaluation that mirrors evaluation

Whatever is plain is evaluated as it is without its places (`Eval.mirrors_full`): each level does by the
rules for expressions and statements. What a handler is not told, it cannot tell by, so a fault that is
caught without a name leaves nothing behind of its place.
-/

namespace ScriptGate.Script

variable {constants : Bool} {lead : Nat} {ground : Ground} {ev ev' : Eval} {env env' : Env}

namespace Eval

/-! ## What is selected -/

theorem mirrors_matchesKey (ranges : Bool) {v v' : Value} (values : Script.Mirrors constants v v')
    (key : Key) : matchesKey ranges v' key.bare = matchesKey ranges v key := by
  obtain rfl := values.bare
  cases key with
  | value key => exact congrArg (!ranges && ·) (Value.isLiteral_recast _ v key)
  | range first last inclusive =>
    exact congrArg (ranges && ·) (Library.holds_recast _ first last inclusive v)

theorem mirrors_anyKey (ranges : Bool) {v v' : Value} (values : Script.Mirrors constants v v')
    (keys : List Key) :
    (bareKeys keys).any (matchesKey ranges v') = keys.any (matchesKey ranges v) := by
  induction keys with
  | nil => rfl
  | cons key rest ih => exact congrArg₂ (· || ·) (mirrors_matchesKey ranges values key) ih

namespace Mirrors

variable (h : Mirrors constants lead ev ev') (w : Script.Mirrors constants env env')

include h w

/-! ## Definitions and branches -/

protected theorem given {value : Option Expr} (plain : isPlainGiven constants value = true) :
    Run.Alike constants lead ground (given ev env value) (given ev' env' (bareGiven value)) := by
  cases value with
  | none => exact .pure (.refl_of fun _ => rfl)
  | some e => exact h.expression w plain

protected theorem define (name : String) (constant : Bool) {value : Option Expr}
    (plain : isPlainGiven constants value = true) :
    Run.Alike constants lead ground (define ev env name constant value)
      (define ev' env' name constant (bareGiven value)) := by
  have after {v v' : Value} (values : Script.Mirrors constants v v') : Run.Alike constants lead ground
      (do
        if constant && env.atTop && !env.functions.isEmpty then
          modify fun s => { s with constants := (name, v) :: s.constants }
        Run.define name v constant
        return Value.unit)
      (do
        if constant && env'.atTop && !env'.functions.isEmpty then
          modify fun s => { s with constants := (name, v') :: s.constants }
        Run.define name v' constant
        return Value.unit) := by
    have defined : Run.Alike constants lead ground
        (do
          Run.define name v constant
          return Value.unit)
        (do
          Run.define name v' constant
          return Value.unit) :=
      .bind (.define name constant values) fun _ => .pure (.refl_of fun _ => rfl)
    have top : env'.atTop = env.atTop := w.eq_of fun _ _ => rfl
    have empty : env'.functions.isEmpty = env.functions.isEmpty :=
      (Env.mirrors_functions w).eq_of fun _ table => by cases table <;> rfl
    rw [top, empty]
    split
    · have kept : Script.Mirrors constants (name, v) (name, v') := .pair (.string name) values
      refine .bind (.modify (fun states => ?_) fun _ h => h) fun _ => defined
      exact { states with constants := fun counts => Script.Mirrors.cons kept (states.constants counts) }
    · exact defined
  cases value with
  | none => exact .bind (.pure (.refl_of fun _ => rfl)) after
  | some e => exact .bind (h.expression w plain) after

protected theorem holds {test : Option Expr} (plain : isPlainGiven constants test = true) :
    Run.Alike constants lead ground (holds ev env test) (holds ev' env' (bareGiven test)) := by
  cases test with
  | none => exact .pure (.bool true)
  | some e =>
    have asked : Run.Alike constants lead ground (condition ev env e) (condition ev' env' e.bare) :=
      h.condition w plain
    unfold holds
    split
    · next none => cases none
    · next b p same =>
      cases same
      exact .pure (Script.Mirrors.bool b)
    · next notKnown same =>
      cases same
      rcases e with ⟨v, p⟩ | _ | _ | _ | _ | _ | _ | _ | _ | _ | _ | _ | _ | _
      · cases v <;> first | exact (notKnown _ _ rfl).elim | exact asked
      all_goals exact asked

protected theorem select? (ranges : Bool) {v v' : Value} (values : Script.Mirrors constants v v')
    {cases : List Case} (plain : arePlainCases constants cases = true) :
    Run.Mirrors constants lead ground
      (fun found found' => found' = bareGiven found ∧ isPlainGiven constants found = true)
      (select? ev env ranges v cases) (select? ev' env' ranges v' (bareCases cases)) := by
  induction cases with
  | nil => exact .pure ⟨rfl, rfl⟩
  | cons case rest ih =>
    obtain ⟨keys, guard, action⟩ := case
    obtain ⟨here, others⟩ := Bool.and_eq_true_iff.mp plain
    obtain ⟨-, guarded⟩ := Bool.and_eq_true_iff.mp here
    obtain ⟨guardPlain, actionPlain⟩ := Bool.and_eq_true_iff.mp guarded
    unfold select?
    dsimp only [bareCases, Case.bare]
    rw [mirrors_anyKey ranges values]
    split
    · refine .bind (h.holds w guardPlain) fun {taken taken'} same => ?_
      obtain rfl : taken = taken' := same.bare.symm
      split
      · exact .pure ⟨rfl, actionPlain⟩
      · exact ih others
    · exact ih others

protected theorem switch {subject : Expr} (subjectPlain : subject.isPlain constants = true)
    {cases : List Case} (casesPlain : arePlainCases constants cases = true) {otherwise : Option Expr}
    (otherwisePlain : isPlainGiven constants otherwise = true) :
    Run.Alike constants lead ground (switch ev env subject cases otherwise)
      (switch ev' env' subject.bare (bareCases cases) (bareGiven otherwise)) := by
  refine .bind (h.expression w subjectPlain) fun {v v'} values =>
    .bind (h.select? w false values casesPlain) fun {found found'} same => ?_
  obtain ⟨rfl, foundPlain⟩ := same
  have ended {action : Option Expr} (plain : isPlainGiven constants action = true) :
      Run.Alike constants lead ground (pure action >>= given ev env)
        (pure (bareGiven action) >>= given ev' env') := by
    rw [pure_bind, pure_bind]
    exact h.given w plain
  cases found with
  | some action => exact ended foundPlain
  | none =>
    refine .bind (h.select? w true values casesPlain) fun {found found'} same => ?_
    obtain ⟨rfl, foundPlain⟩ := same
    cases found with
    | some action => exact ended foundPlain
    | none => exact ended otherwisePlain

/-! ## Loops -/

omit h in
protected theorem turns {body body' : Run (Option Value)}
    (same : Run.Alike constants lead ground body body') :
    Run.Alike constants lead ground (turns env body) (turns env' body') := by
  unfold Eval.turns
  rw [Run.Mirrors.patience_eq w]
  exact .turns w same _

/-- A body that is empty takes an operation of its own in some loops. -/
protected theorem brief {body : List Statement} (plain : isPlainBody constants body = true)
    (brace : Position) :
    Run.Alike constants lead ground
      (if body.isEmpty then do
          Run.tick env (some brace)
          return none
        else Run.turn (block ev env body))
      (if (bareBody body).isEmpty then do
          Run.tick env' (some .start)
          return none
        else Run.turn (block ev' env' (bareBody body))) := by
  rw [bareBody_isEmpty]
  split
  · exact .bind (.tick w (.at_ brace)) fun _ => .pure .none
  · exact .turn (h.block w plain)

protected theorem foreverTurn {body : List Statement} (plain : isPlainBody constants body = true)
    (brace : Position) :
    Run.Alike constants lead ground (foreverTurn ev env body brace)
      (foreverTurn ev' env' (bareBody body) .start) :=
  h.brief w plain brace

protected theorem whileTurn {e : Expr} (conditionPlain : e.isPlain constants = true)
    {body : List Statement} (bodyPlain : isPlainBody constants body = true) :
    Run.Alike constants lead ground (whileTurn ev env e body)
      (whileTurn ev' env' e.bare (bareBody body)) := by
  refine .bind (h.condition w conditionPlain) fun {b b'} same => ?_
  obtain rfl : b = b' := same.bare.symm
  rw [bareBody_isEmpty]
  split
  · split
    · exact .pure .none
    · exact .turn (h.block w bodyPlain)
  · exact .pure (.some (.refl_of fun _ => rfl))

protected theorem untilTurn {body : List Statement} (bodyPlain : isPlainBody constants body = true)
    {e : Expr} (conditionPlain : e.isPlain constants = true) (goal : Bool) :
    Run.Alike constants lead ground (untilTurn ev env body e goal)
      (untilTurn ev' env' (bareBody body) e.bare goal) := by
  rw [untilTurn_eq, untilTurn_eq]
  refine .andThen (fun states => states) (fun _ h => h) (h.block w bodyPlain)
    (fun _ _ _ _ => .bind (h.condition w conditionPlain) fun {b b'} same => ?_) fun _ stop stop' causes => ?_
  · obtain rfl : b = b' := same.bare.symm
    split
    · exact .pure .none
    · exact .pure (.some (.refl_of fun _ => rfl))
  · obtain ⟨rfl, plain⟩ := causes
    cases stop with
    | next => exact .pure .none
    | leave v => exact .pure (.some ⟨rfl, Stop.leave.inj plain⟩)
    | fault | giveBack | exit => exact .throw ⟨rfl, plain⟩

omit h w in
theorem forValues {turn turn' : Value → Nat → Run (Option Value)}
    (turns : ∀ {v v'}, Script.Mirrors constants v v' → ∀ i,
      Run.Alike constants lead ground (turn v i) (turn' v' i))
    (index : Nat) {vs vs' : List Value} (values : Script.Mirrors constants vs vs') :
    Run.Alike constants lead ground (Eval.forValues turn index vs) (Eval.forValues turn' index vs') := by
  induction vs generalizing index vs' with
  | nil =>
    obtain rfl : vs' = [] := values.bare
    exact .pure (.refl_of fun _ => rfl)
  | cons v rest ih =>
    obtain ⟨⟨⟩, -⟩ | ⟨_, v', _, rest', ⟨⟩, rfl, first, others⟩ := values.list_cases
    refine .bind (turns first index) fun ended => ?_
    rcases ended.option_cases with ⟨rfl, rfl⟩ | ⟨v, v', rfl, rfl, answers⟩
    · exact ih (index + 1) others
    · exact .pure answers

omit h w in
theorem forIntegers {turn turn' : Value → Nat → Run (Option Value)}
    (turns : ∀ {v v'}, Script.Mirrors constants v v' → ∀ i,
      Run.Alike constants lead ground (turn v i) (turn' v' i))
    (first : Int64) (index count : Nat) :
    Run.Alike constants lead ground (Eval.forIntegers turn first index count)
      (Eval.forIntegers turn' first index count) := by
  induction count generalizing index with
  | zero => exact .pure (.refl_of fun _ => rfl)
  | succ count ih =>
    refine .bind (turns (.refl_of fun _ => rfl) index) fun ended => ?_
    rcases ended.option_cases with ⟨rfl, rfl⟩ | ⟨v, v', rfl, rfl, answers⟩
    · exact ih (index + 1)
    · exact .pure answers

omit h w in
theorem forEach {turn turn' : Value → Nat → Run (Option Value)}
    (turns : ∀ {v v'}, Script.Mirrors constants v v' → ∀ i,
      Run.Alike constants lead ground (turn v i) (turn' v' i))
    {source source' : Value} (values : Script.Mirrors constants source source') {q q' : Position}
    (places : Script.Mirrors constants q q') :
    Run.Alike constants lead ground (Eval.forEach source q turn) (Eval.forEach source' q' turn') := by
  cases source with
  | array items =>
    obtain ⟨items', rfl, lists⟩ := values.of_array
    exact forValues turns 0 lists
  | text s =>
    obtain rfl := values.bare
    refine forValues turns 0 (.refl_of fun c => ?_)
    exact List.map_map.trans rfl
  | blob bytes =>
    obtain rfl := values.bare
    refine forValues turns 0 (.refl_of fun c => ?_)
    exact List.map_map.trans rfl
  | range first last inclusive =>
    obtain rfl := values.bare
    exact forIntegers turns first 0 _
  | _ =>
    obtain rfl := values.bare
    exact .fail (fun _ => rfl) (.some places)

protected theorem eachTurn (name : String) (counter : Option String) {body : List Statement}
    (plain : isPlainBody constants body = true) (brace : Position) {v v' : Value}
    (values : Script.Mirrors constants v v') (index : Nat) :
    Run.Alike constants lead ground (eachTurn ev env name counter body brace v index)
      (eachTurn ev' env' name counter (bareBody body) .start v' index) := by
  have taken : Run.Alike constants lead ground _ _ := h.brief w plain brace
  unfold eachTurn
  cases counter with
  | none => exact .bind (.store name values) fun _ => taken
  | some counter =>
    exact .bind (.store counter (.refl_of fun _ => rfl)) fun _ =>
      .bind (.store name values) fun _ => taken

protected theorem loopOver (name : String) (counter : Option String) {source : Expr}
    (sourcePlain : source.isPlain constants = true) {body : List Statement}
    (bodyPlain : isPlainBody constants body = true) (brace : Position) :
    Run.Alike constants lead ground (loopOver ev env name counter source body brace)
      (loopOver ev' env' name counter source.bare (bareBody body) .start) := by
  refine .bind (h.expression w sourcePlain) fun {v v'} values => .inBlock fun names => ?_
  have turns : Run.Alike constants lead { ground with names := names } _ _ :=
    forEach (fun values i => h.eachTurn w name counter bodyPlain brace values i) values (.first source)
  have unit : Script.Mirrors constants Value.unit .unit := .refl_of fun _ => rfl
  cases counter with
  | none => exact .bind (.define name false unit) fun _ => turns
  | some counter =>
    exact .bind (.define counter false (.refl_of fun _ => rfl)) fun _ =>
      .bind (.define name false unit) fun _ => turns

/-! ## Faults -/

omit h w in
protected theorem handled {caught caught' : Error} (faults : Script.Mirrors constants caught caught')
    {m m' : Run Value} (same : Run.Alike constants lead ground m m') :
    Run.Alike constants lead ground (fun s => handled caught (m s)) fun s => handled caught' (m' s) := by
  have raised {e e' : Error} (faults : Script.Mirrors constants e e') : Run.Alike constants lead ground
      (throw (.fault e) : Run Value) (throw (.fault e')) := .throw faults.fault
  rw [handled_eq, handled_eq]
  refine .andThen (fun states => states) (fun _ h => h) same
    (fun _ _ _ _ => .pure (.refl_of fun _ => rfl)) fun _ stop stop' causes => ?_
  obtain ⟨rfl, plain⟩ := causes
  have again : Run.Alike constants lead ground (throw stop : Run Value) (throw (recast .bare stop)) :=
    .throw ⟨rfl, plain⟩
  cases stop with
  | fault e =>
    cases e with
    | inCall => exact again
    | plain cause p =>
      cases cause with
      | thrown v =>
        cases v with
        | unit => exact raised (.natural₂ (f := Error.atPlace)
            (fun c p e => Error.atPlace_recast c p e) ⟨rfl, by cases p <;> rfl⟩ faults)
        | _ => exact again
      | _ => exact again
  | _ => exact again

/-- A handler that is not told what was thrown cannot tell places by it. -/
protected theorem attempt {body : List Statement} (bodyPlain : isPlainBody constants body = true)
    {handler : List Statement} (handlerPlain : isPlainBody constants handler = true) :
    Run.Alike constants lead ground (attempt ev env body none handler)
      (attempt ev' env' (bareBody body) none (bareBody handler)) := by
  rw [attempt_eq, attempt_eq]
  refine .andThen (fun states => states) (fun _ h => h) (h.block w bodyPlain)
    (fun _ _ _ values => .pure values) fun _ stop stop' causes => ?_
  obtain ⟨rfl, plain⟩ := causes
  have again : Run.Alike constants lead ground (throw stop : Run Value) (throw (recast .bare stop)) :=
    .throw ⟨rfl, plain⟩
  cases stop with
  | fault e =>
    have faults : Script.Mirrors constants e (recast .bare e) := ⟨rfl, Stop.fault.inj plain⟩
    have same : (recast .bare e).endsRun = e.endsRun := e.endsRun_recast _
    change Run.Alike constants lead ground
      (fun s => if e.endsRun then .error (.fault e) s else handled e (handle ev env none handler e s))
      (fun s => if (recast .bare e).endsRun then .error (.fault (recast .bare e)) s
        else handled (recast .bare e) (handle ev' env' none (bareBody handler) (recast .bare e) s))
    rw [same]
    by_cases ends : e.endsRun = true
    · simp only [ends, if_true]
      exact again
    · simp only [if_neg ends]
      exact Mirrors.handled faults (.inBlock fun _ => h.block w handlerPlain)
  | leave | next | giveBack | exit => exact again

/-! ## Statements -/

protected theorem perform {s : Statement} (plain : s.isPlain constants = true) :
    Run.Alike constants lead ground (perform ev env s) (perform ev' env' s.bare) := by
  have place : Script.Mirrors constants (some s.pos) (some s.bare.pos) := s.pos_bare ▸ .at_ _
  refine .bind (.tick w place) fun _ => ?_
  cases s with
  | pass => exact .pure (.refl_of fun _ => rfl)
  | expression e => exact h.expression w plain
  | define name constant value p => exact h.define w name constant plain
  | assign op target value p =>
    obtain ⟨targetPlain, valuePlain⟩ := Bool.and_eq_true_iff.mp plain
    exact h.assign w op targetPlain valuePlain p
  | block body p => exact h.block w plain
  | branch e yes yesPos no noPos p =>
    obtain ⟨conditionPlain, bodies⟩ := Bool.and_eq_true_iff.mp plain
    obtain ⟨yesPlain, noPlain⟩ := Bool.and_eq_true_iff.mp bodies
    refine .bind (h.condition w conditionPlain) fun {b b'} same => ?_
    obtain rfl : b = b' := same.bare.symm
    split
    · exact h.block w yesPlain
    · exact h.block w noPlain
  | switch subject cases otherwise p =>
    obtain ⟨subjectPlain, rest⟩ := Bool.and_eq_true_iff.mp plain
    obtain ⟨casesPlain, otherwisePlain⟩ := Bool.and_eq_true_iff.mp rest
    exact h.switch w subjectPlain casesPlain otherwisePlain
  | forever body brace p => exact Mirrors.turns w (h.foreverTurn w plain brace)
  | repeatWhile e body brace p =>
    obtain ⟨conditionPlain, bodyPlain⟩ := Bool.and_eq_true_iff.mp plain
    exact Mirrors.turns w (h.whileTurn w conditionPlain bodyPlain)
  | repeatAfter body e goal p =>
    obtain ⟨bodyPlain, conditionPlain⟩ := Bool.and_eq_true_iff.mp plain
    exact Mirrors.turns w (h.untilTurn w bodyPlain conditionPlain goal)
  | forEach name counter source body brace p =>
    obtain ⟨sourcePlain, bodyPlain⟩ := Bool.and_eq_true_iff.mp plain
    exact h.loopOver w name counter sourcePlain bodyPlain brace
  | leave value p =>
    exact .bind (h.given w plain) fun values => .throw (values.natural (f := Stop.leave) fun _ _ => rfl)
  | next p => exact .throw ⟨rfl, rfl⟩
  | giveBack value p =>
    exact .bind (h.given w plain) fun values => .throw (values.natural (f := Stop.giveBack) fun _ _ => rfl)
  | raise value p =>
    exact .bind (h.given w plain) fun values =>
      .raise (.caused (values.natural (f := ErrorCause.thrown) fun _ _ => rfl) (.at_ p))
  | attempt body name handler brace p =>
    obtain ⟨unnamed, bodies⟩ := Bool.and_eq_true_iff.mp plain
    obtain ⟨bodyPlain, handlerPlain⟩ := Bool.and_eq_true_iff.mp bodies
    cases name with
    | none => exact h.attempt w bodyPlain handlerPlain
    | some name => cases unnamed

protected theorem execute {s : Statement} (plain : s.isPlain constants = true) :
    Run.Alike constants lead ground (execute ev env s) (execute ev' env' s.bare) := by
  have usual : Run.Alike constants lead ground _ _ := h.perform w plain
  cases s with
  | expression e =>
    have evaluated : Run.Alike constants lead ground (ev env (.expression e))
        (ev' env' (.expression e.bare)) := h.expression w plain
    rcases e with _ | _ | _ | _ | _ | _ | _ | _ | _ | _ | _ | _ | _ | _ <;>
      first | exact usual | exact evaluated
  | _ => exact usual

omit w in
/-- One level of evaluation mirrors, if what is inside does. -/
protected theorem step : Mirrors constants lead (step ev) (step ev') :=
  ⟨fun w _ plain => h.evaluate w plain, fun w _ plain => h.execute w plain⟩

end Mirrors

/-- Evaluation to a depth mirrors evaluation to that depth. -/
theorem mirrors_toDepth (depth : Nat) : Mirrors constants lead (toDepth depth) (toDepth depth) := by
  induction depth with
  | zero =>
    have given {ground : Ground} {env env' : Env} (w : Script.Mirrors constants env env') :
        Run.Alike constants lead ground
          (Run.fail (.timedOut env.settings.timeoutMs) none : Run Value)
          (Run.fail (.timedOut env'.settings.timeoutMs) none) := by
      rw [Run.Mirrors.settings_eq w]
      exact .fail (fun _ => rfl) .nowhere
    exact ⟨fun w _ _ => given w, fun w _ _ => given w⟩
  | succ depth ih => exact ih.step

/-- All of evaluation mirrors itself, up to places. -/
theorem mirrors_full : Mirrors constants lead full full := by
  have deep {env env' : Env} (w : Script.Mirrors constants env env') :
      full env' = toDepth (2 * env.patience + 3) env' :=
    funext fun task => by rw [full, Run.Mirrors.patience_eq w]
  refine ⟨fun w _ plain => ?_, fun w _ plain => ?_⟩
  · rw [deep w]
    exact (mirrors_toDepth _).expression w plain
  · rw [deep w]
    exact (mirrors_toDepth _).statement w plain

end Eval

end ScriptGate.Script
