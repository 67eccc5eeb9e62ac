import ScriptGate.Proofs.Script.Follow.Call
import ScriptGate.Proofs.Script.Mirror

/-!
# Calls that mirror other calls

A rule of evaluation evaluates parts by means of an evaluator that it is given. If that one mirrors
another one on whatever is plain (`Eval.Mirrors`), then so does the rule. Here are the rules for
sequences and for calls. The body of a function that is called is plain since the function is.
-/

namespace ScriptGate.Script

instance : Castable Called := ⟨fun c called => ⟨recast c called.outcome, recast c called.target⟩⟩

variable {constants : Bool} {lead : Nat} {ground : Ground} {ev ev' : Eval} {env env' : Env}

/-- A run does the same as another one up to places, with the same result up to places. -/
abbrev Run.Alike (constants : Bool) (lead : Nat) (ground : Ground) {α : Type} [Castable α] (m m' : Run α) :
    Prop :=
  Run.Mirrors constants lead ground (Script.Mirrors constants) m m'

/-- Whatever is plain is evaluated as it is without its places by another evaluator. -/
structure Eval.Mirrors (constants : Bool) (lead : Nat) (ev ev' : Eval) : Prop where
  expression : ∀ {ground : Ground} {env env' : Env}, Script.Mirrors constants env env' → ∀ {e : Expr},
    e.isPlain constants = true →
      Run.Alike constants lead ground (ev env (.expression e)) (ev' env' (.expression e.bare))
  statement : ∀ {ground : Ground} {env env' : Env}, Script.Mirrors constants env env' → ∀ {s : Statement},
    s.isPlain constants = true →
      Run.Alike constants lead ground (ev env (.statement s)) (ev' env' (.statement s.bare))

/-! ## Faults -/

namespace Error

variable (c : Recast)

@[simp] theorem endsRun_recast (e : Error) : (recast c e).endsRun = e.endsRun := by
  cases e with
  | plain cause p => cases cause <;> rfl
  | inCall => rfl

@[simp] theorem isLimit_recast (e : Error) : (recast c e).isLimit = e.isLimit := by
  cases e with
  | plain cause p => cases cause <;> rfl
  | inCall => rfl

@[simp] theorem atPlace_recast (p : Option Position) (e : Error) :
    (recast c e).atPlace (recast c p) = recast c (e.atPlace p) := by
  cases e <;> rfl

end Error

namespace Mirrors

theorem caused {cause cause' : ErrorCause} (causes : Mirrors constants cause cause')
    {p p' : Option Position} (places : Mirrors constants p p') :
    Mirrors constants (Error.plain cause p) (.plain cause' p') :=
  natural₂ (f := Error.plain) (fun _ _ _ => rfl) causes places

theorem plain_fault {cause : ErrorCause} (inert : ∀ c, recast c cause = cause) {p p' : Option Position}
    (places : Mirrors constants p p') :
    Mirrors constants (Error.plain cause p) (.plain cause p') :=
  Run.Mirrors.plain_fault inert places

theorem fault {e e' : Error} (h : Mirrors constants e e') :
    Mirrors constants (Stop.fault e) (.fault e') :=
  h.natural (f := Stop.fault) fun _ _ => rfl

theorem slots {vs vs' : List Value} (h : Mirrors constants vs vs') :
    Mirrors constants (vs.map Slot.own) (vs'.map Slot.own) :=
  h.natural fun c vs => by simp only [recast_list, List.map_map]; rfl

theorem receiver {v v' : Value} (values : Mirrors constants v v') {made made' : Option Value}
    (makes : Mirrors constants made made') :
    Mirrors constants (Receiver.mk v made) ⟨v', made'⟩ :=
  natural₂ (f := Receiver.mk) (fun _ _ _ => rfl) values makes

theorem receiverValue {r r' : Receiver} (h : Mirrors constants r r') :
    Mirrors constants r.value r'.value :=
  h.natural fun _ _ => rfl

theorem receiverMade {r r' : Receiver} (h : Mirrors constants r r') :
    Mirrors constants r.made r'.made :=
  h.natural fun _ _ => rfl

theorem called {outcome outcome' : Except Stop Value} (ends : Mirrors constants outcome outcome')
    {target target' : Option Value} (targets : Mirrors constants target target') :
    Mirrors constants (Called.mk outcome target) ⟨outcome', target'⟩ :=
  natural₂ (f := Called.mk) (fun _ _ _ => rfl) ends targets

theorem outcome {c c' : Called} (h : Mirrors constants c c') :
    Mirrors constants c.outcome c'.outcome :=
  h.natural fun _ _ => rfl

theorem target {c c' : Called} (h : Mirrors constants c c') :
    Mirrors constants c.target c'.target :=
  h.natural fun _ _ => rfl

theorem answer {v v' : Value} (h : Mirrors constants v v') :
    Mirrors constants (Called.answer v) (.answer v') :=
  called h.ok .none

theorem refusal {cause : ErrorCause} (inert : ∀ c, recast c cause = cause) {p p' : Option Position}
    (places : Mirrors constants p p') :
    Mirrors constants (Called.fault cause p) (.fault cause p') :=
  called (error (fault (plain_fault inert places))) .none

/-! ### Places in trees -/

theorem first (e : Expr) : Mirrors constants e.first e.bare.first := e.first_bare ▸ place _

theorem pos (e : Expr) : Mirrors constants e.pos e.bare.pos := e.pos_bare ▸ place _

/-! ### Values -/

/-- What mirrors an array is one, item by item. -/
theorem of_array {items : List Value} {v' : Value} (h : Mirrors constants (.array items) v') :
    ∃ items', v' = .array items' ∧ Mirrors constants items items' := by
  obtain ⟨rfl, plain⟩ := h
  rw [Plain, recast_array] at plain
  exact ⟨_, recast_array .., rfl, Value.array.inj plain⟩

/-- What mirrors an object is one, entry by entry. -/
theorem of_object {entries : Entries} {v' : Value} (h : Mirrors constants (.object entries) v') :
    ∃ entries', v' = .object entries' ∧ Mirrors constants entries entries' := by
  obtain ⟨rfl, plain⟩ := h
  rw [Plain, recast_object] at plain
  exact ⟨_, recast_object .., rfl, Value.object.inj plain⟩

/-- What mirrors a function value is one, by the same name and with the same cells. -/
theorem of_function {name : String} {body : Option Function} {cells : List Nat} {bound : List Value}
    {v' : Value} (h : Mirrors constants (.function name body cells bound) v') :
    ∃ body' bound', v' = .function name body' cells bound' ∧ Mirrors constants body body' ∧
      Mirrors constants bound bound' := by
  obtain ⟨rfl, plain⟩ := h
  rw [Plain, recast_function] at plain
  injection plain with _ sameBody _ sameBound
  exact ⟨_, _, recast_function .., ⟨rfl, sameBody⟩, rfl, sameBound⟩

protected theorem literal {v : Literal} (plain : v.isPlain constants = true) :
    Mirrors constants (Value.ofLiteral v) (.ofLiteral v.bare) :=
  ⟨Value.ofLiteral_bare v, Value.ofLiteral_plain plain⟩

protected theorem array {items items' : List Value} (h : Mirrors constants items items') :
    Mirrors constants (Value.array items) (.array items') :=
  h.natural fun c items => (recast_array c items).symm

protected theorem object {entries entries' : Entries} (h : Mirrors constants entries entries') :
    Mirrors constants (Value.object entries) (.object entries') :=
  h.natural fun c entries => (recast_object c entries).symm

protected theorem function {name : String} {body body' : Option Function} {cells : List Nat}
    {bound bound' : List Value} (bodies : Mirrors constants body body')
    (values : Mirrors constants bound bound') :
    Mirrors constants (Value.function name body cells bound) (.function name body' cells bound') :=
  natural₂ (f := fun body bound => Value.function name body cells bound)
    (fun c body bound => (recast_function c name body cells bound).symm) bodies values

/-! ### Functions -/

/-- The body of a plain function is plain. -/
theorem isPlainBody {f f' : Function} (h : Mirrors constants f f') :
    isPlainBody constants f.body = true := by
  have kept : (if Script.isPlainBody constants f.body then f.body else []) = f.body :=
    congrArg Function.body h.plain
  split at kept
  · assumption
  · rw [← kept]
    rfl

theorem body_eq {f f' : Function} (h : Mirrors constants f f') : f'.body = bareBody f.body :=
  congrArg Function.body h.bare

theorem bind {f f' : Function} (functions : Mirrors constants f f') {args args' : List Slot}
    (slots : Mirrors constants args args') :
    Mirrors constants (Eval.bind f args) (Eval.bind f' args') := by
  refine natural₂ (fun c f args => ?_) functions slots
  unfold Eval.bind
  rw [recast_list, recast_list, List.map_reverse, Function.params_recast, List.zip_map_right,
    List.map_map, List.map_map]
  rfl

end Mirrors

/-! ## Surroundings -/

namespace Env

variable (w : Script.Mirrors constants env env')

include w

theorem mirrors_inside :
    Script.Mirrors constants { env with atTop := false } { env' with atTop := false } :=
  w.natural (f := fun env : Env => { env with atTop := false }) fun _ _ => rfl

theorem mirrors_deeper (levels : Nat) :
    Script.Mirrors constants { env with level := env.level + levels }
      { env' with level := env'.level + levels } :=
  w.natural (f := fun env : Env => { env with level := env.level + levels }) fun _ _ => rfl

theorem mirrors_functions : Script.Mirrors constants env.functions env'.functions :=
  w.natural fun _ _ => rfl

theorem mirrors_find? (name : String) (arity : Nat) :
    Script.Mirrors constants (env.functions.find? name arity) (env'.functions.find? name arity) :=
  (mirrors_functions w).natural (f := fun table : Functions => table.find? name arity)
    fun _ _ => List.find?_map

theorem mirrors_functionNamed? (name : String) :
    Script.Mirrors constants (functionNamed? env name) (functionNamed? env' name) := by
  have any : env'.functions.any (·.name = name) = env.functions.any (·.name = name) :=
    (mirrors_functions w).eq_of (f := fun table : Functions => table.any (·.name = name))
      fun _ _ => List.any_map
  unfold functionNamed?
  rw [any]
  split
  · exact .some (.refl_of fun _ => recast_function ..)
  · exact .none

end Env

/-! ## Judged calls -/

namespace Run.Mirrors

protected theorem noted {c c' : Called} (h : Script.Mirrors constants c c') :
    Run.Alike constants lead ground c.noted c'.noted := by
  obtain ⟨outcome, target⟩ := c
  obtain ⟨rfl, plain⟩ := h
  have calls : Script.Mirrors constants (Called.mk outcome target) (recast .bare ⟨outcome, target⟩) :=
    ⟨rfl, plain⟩
  cases outcome with
  | ok v => exact exact_of (fun states => .ok calls states) fun _ h => h
  | error stop =>
    cases stop with
    | fault e =>
      refine exact_of (fun states => .ok calls { states with exceeded := ?_ }) fun _ before =>
        Bool.or_eq_true_iff.mpr (.inl before)
      exact congrArg₂ (· || ·) states.exceeded (Error.isLimit_recast _ e)
    | leave | next | giveBack | exit => exact exact_of (fun states => .ok calls states) fun _ h => h

protected theorem finish {c c' : Called} (h : Script.Mirrors constants c c') :
    Run.Alike constants lead ground c.finish c'.finish := by
  unfold Called.finish
  rcases h.outcome.except_cases with ⟨v, v', ended, ended', values⟩ | ⟨stop, stop', ended, ended', causes⟩
  · rw [ended, ended']
    exact .pure values
  · rw [ended, ended']
    exact .throw causes

protected theorem guard {m m' : Run Called} (h : Run.Alike constants lead ground m m') :
    Run.Alike constants lead ground (Called.guard m) (Called.guard m') := by
  rw [Called.guard_eq_andThen, Called.guard_eq_andThen]
  exact .andThen (fun states => states) (fun _ h => h) h (fun _ _ _ calls => .pure calls)
    fun _ _ _ causes => .pure (.called (.error causes) .none)

/-- A value of another kind than the one that is wanted. -/
theorem mismatch {α : Type} [Castable α] {kind kind' : String} (same : kind' = kind) (wanted : String)
    {p p' : Option Position} (places : Script.Mirrors constants p p') :
    Run.Alike constants lead ground (fail (.typeMismatch kind wanted) p : Run α)
      (fail (.typeMismatch kind' wanted) p') :=
  same ▸ .fail (fun _ => rfl) places

end Run.Mirrors

namespace Called

variable (w : Script.Mirrors constants env env') {p p' : Option Position}
  (places : Script.Mirrors constants p p')

include w places

theorem mirrors_judge {first first' : Option Value} (firsts : Script.Mirrors constants first first')
    {r r' : Except ErrorCause Value} (results : Script.Mirrors constants r r') :
    Script.Mirrors constants (judge env p first r) (judge env' p' first' r') := by
  unfold judge
  rcases results.except_cases with ⟨v, v', rfl, rfl, values⟩ | ⟨cause, cause', rfl, rfl, causes⟩
  · have own := Run.Mirrors.sizeFault? w places v.size
    have tooLarge : Script.Mirrors constants
        (((first.map Value.size).bind fun size => Run.sizeFault? env size p) <|>
          Run.sizeFault? env v.size p)
        (((first'.map Value.size).bind fun size => Run.sizeFault? env' size p') <|>
          Run.sizeFault? env' v'.size p') := by
      rw [values.eq_of Value.size_recast]
      rcases firsts.option_cases with ⟨rfl, rfl⟩ | ⟨a, a', rfl, rfl, items⟩
      · exact own
      · simp only [Option.map_some, Option.bind_some, items.eq_of Value.size_recast]
        rcases (Run.Mirrors.sizeFault? w places a.size).option_cases with
          ⟨none, none'⟩ | ⟨e, e', some, some', faults⟩
        · rw [none, none']
          exact own
        · rw [some, some']
          exact .some faults
    dsimp only
    rcases tooLarge.option_cases with ⟨none, none'⟩ | ⟨e, e', some, some', faults⟩
    · rw [none, none']
      exact values.ok
    · rw [some, some']
      exact .error faults.fault
  · exact .error (.fault (.caused causes places))

theorem mirrors_ofEffect {args args' : List Value} (values : Script.Mirrors constants args args')
    {effect effect' : Effect} (effects : Script.Mirrors constants effect effect') :
    Script.Mirrors constants (ofEffect env p args effect) (ofEffect env' p' args' effect') := by
  obtain ⟨rfl, plain⟩ := effects
  cases effect with
  | answer r => exact .called (mirrors_judge w places .none ⟨rfl, Effect.answer.inj plain⟩) .none
  | look r =>
    have first : Script.Mirrors constants args.head? args'.head? :=
      values.natural fun _ args => by cases args <;> rfl
    exact .called (mirrors_judge w places first ⟨rfl, Effect.look.inj plain⟩) .none
  | change target r =>
    obtain ⟨target, result⟩ := Effect.change.inj plain
    exact .called (mirrors_judge w places (.some ⟨rfl, target⟩) ⟨rfl, result⟩) (.some ⟨rfl, target⟩)

end Called

namespace Eval

/-! ## Sequences -/

namespace Mirrors

variable (h : Mirrors constants lead ev ev') (w : Script.Mirrors constants env env')

include h w

protected theorem statements {body : List Statement} (plain : isPlainBody constants body = true) :
    Run.Alike constants lead ground (statements ev env body) (statements ev' env' (bareBody body)) := by
  induction body with
  | nil => exact .pure (.refl_of fun _ => rfl)
  | cons first rest ih =>
    obtain ⟨here, others⟩ := Bool.and_eq_true_iff.mp plain
    cases rest with
    | nil => exact h.statement w here
    | cons => exact .bind (h.statement w here) fun _ => ih others

protected theorem block {body : List Statement} (plain : isPlainBody constants body = true) :
    Run.Alike constants lead ground (block ev env body) (block ev' env' (bareBody body)) :=
  .inBlock fun _ => h.statements (Env.mirrors_inside w) plain

protected theorem arguments {es : List Expr} (plain : arePlainExprs constants es = true) :
    Run.Alike constants lead ground (arguments ev env es) (arguments ev' env' (bareExprs es)) := by
  induction es with
  | nil => exact .pure .nil
  | cons e rest ih =>
    obtain ⟨here, others⟩ := Bool.and_eq_true_iff.mp plain
    exact .bind (h.expression w here) fun v => .bind (ih others) fun vs => .pure (.cons v vs)

protected theorem condition {e : Expr} (plain : e.isPlain constants = true) :
    Run.Alike constants lead ground (condition ev env e) (condition ev' env' e.bare) := by
  refine .bind (h.expression w plain) fun {v v'} values => ?_
  obtain rfl := values.bare
  cases v with
  | boolean b => exact .pure (.bool b)
  | _ => exact .mismatch rfl "bool" (.some (.pos e))

/-! ## Functions of the script -/

variable {p p' : Option Position} (places : Script.Mirrors constants p p')
  {this this' : Option Receiver} (on : Script.Mirrors constants this this')

include places on

protected theorem callFunction {f f' : Function} (functions : Script.Mirrors constants f f')
    {args args' : List Slot} (slots : Script.Mirrors constants args args') :
    Run.Alike constants lead ground (callFunction ev env f args this p)
      (callFunction ev' env' f' args' this' p') := by
  refine .bind (.tick w places) fun _ => ?_
  have inside := Env.mirrors_inside (Env.mirrors_deeper w 1)
  have left {r r' : Except Stop Value} (ends : Script.Mirrors constants r r') :
      Script.Mirrors constants (leave f p r) (leave f' p' r') := by
    rcases ends.except_cases with ⟨v, v', rfl, rfl, values⟩ | ⟨stop, stop', rfl, rfl, causes⟩
    · exact values.ok
    · obtain ⟨rfl, plain⟩ := causes
      cases stop with
      | fault e =>
        have faults : Script.Mirrors constants e (recast .bare e) := ⟨rfl, Stop.fault.inj plain⟩
        have told : f'.shownName? = f.shownName? := functions.eq_of fun _ _ => rfl
        change Script.Mirrors constants (leave f p (.error (.fault e)))
          (leave f' p' (.error (.fault (recast .bare e))))
        unfold leave
        rw [told]
        simp only [Error.endsRun_recast]
        split
        · exact .error (.fault (.natural₂ (f := Error.atPlace)
            (fun c p e => Error.atPlace_recast c p e) places faults))
        · exact .error (.fault (.natural₂ (f := Error.inCall f.shownName?)
            (fun _ _ _ => rfl) faults places))
      | giveBack v => exact .ok ⟨rfl, Stop.giveBack.inj plain⟩
      | leave | next | exit => exact .error ⟨rfl, plain⟩
  have body : Run.Alike constants lead ⟨this.isSome, []⟩ _ _ :=
    h.statements inside functions.isPlainBody
  rw [← functions.body_eq] at body
  have settings := Run.Mirrors.settings_eq w
  have level : env'.level = env.level := w.eq_of fun _ _ => rfl
  dsimp only
  by_cases deep : env.settings.maxCallDepth < env.level + 1
  · rw [if_pos deep, if_pos (by rwa [settings, level])]
    exact .noted (.refusal (fun _ => rfl) places)
  · rw [if_neg deep, if_neg (by rwa [settings, level])]
    exact .bind (.inFrame (.bind functions slots) on body) fun ends =>
      .pure (.called (left ends.fst) ends.snd)

protected theorem callByName {f f' : Function} (functions : Script.Mirrors constants f f')
    {args args' : List Value} (values : Script.Mirrors constants args args') :
    Run.Alike constants lead ground (callByName ev env f args this p)
      (callByName ev' env' f' args' this' p') := by
  unfold callByName
  rw [functions.body_eq, bareBody_isEmpty]
  split
  · exact .pure (.answer (.refl_of fun _ => rfl))
  · exact h.callFunction w places on functions values.slots

/-! ## Function values -/

end Mirrors

/-- A way to call library functions mirrors another one. -/
abbrev NativeMirrors (constants : Bool) (lead : Nat) (native native' : Native) : Prop :=
  ∀ {ground : Ground} {env env' : Env}, Script.Mirrors constants env env' →
    ∀ (name : String) {args args' : List Value}, Script.Mirrors constants args args' →
    ∀ {p p' : Option Position}, Script.Mirrors constants p p' →
      Run.Alike constants lead ground (native env name args p) (native' env' name args' p')

theorem mirrors_pointerTo (name : String) :
    Script.Mirrors constants (pointerTo name) (pointerTo name) := by
  refine .refl_of fun c => ?_
  unfold pointerTo
  split
  · rfl
  · split
    · exact congrArg Except.ok (recast_function ..)
    · rfl

namespace Mirrors

protected theorem callPointerWith (h : Mirrors constants lead ev ev')
    (w : Script.Mirrors constants env env') {native native' : Native}
    (library : NativeMirrors constants lead native native') {callee callee' : Value}
    (callees : Script.Mirrors constants callee callee') {args args' : List Value}
    (values : Script.Mirrors constants args args') {this this' : Option Receiver}
    (on : Script.Mirrors constants this this') {p p' : Option Position}
    (places : Script.Mirrors constants p p') :
    Run.Alike constants lead ground (callPointerWith ev native env callee args this p)
      (callPointerWith ev' native' env' callee' args' this' p') := by
  have unfit (kind : String) : Run.Alike constants lead ground
      (pure (.fault (.typeMismatch kind "Fn") p) : Run Called)
      (pure (.fault (.typeMismatch kind "Fn") p')) :=
    .pure (.refusal (fun _ => rfl) places)
  cases callee with
  | function name body cells bound =>
    obtain ⟨body', bound', rfl, bodies, bounds⟩ := callees.of_function
    have all := bounds.append values
    rcases bodies.option_cases with ⟨rfl, rfl⟩ | ⟨f, f', rfl, rfl, functions⟩
    · unfold callPointerWith
      dsimp only
      rw [all.length_eq]
      rcases (Env.mirrors_find? w name (bound ++ args).length).option_cases with
        ⟨none, none'⟩ | ⟨f, f', some, some', functions⟩
      · rw [none, none']
        have first : Script.Mirrors constants (this.map Receiver.value).toList
            (this'.map Receiver.value).toList :=
          on.natural (f := fun this : Option Receiver => (this.map Receiver.value).toList)
            fun _ this => by cases this <;> rfl
        exact library w name (first.append all) places
      · rw [some, some']
        exact h.callByName w places on functions all
    · unfold callPointerWith
      dsimp only
      rw [bounds.length_eq, values.length_eq, functions.eq_of (f := Function.params) fun _ _ => rfl]
      split
      · refine h.callFunction w places on functions (.append (.refl_of fun _ => ?_) all.slots)
        exact List.map_map.trans rfl
      · refine .pure (.called (.error (.fault (.caused ?_ places))) .none)
        exact all.natural fun c vs => ErrorCause.unknownCall_recast c name vs
  | array items =>
    obtain ⟨items', rfl, -⟩ := callees.of_array
    exact unfit _
  | object entries =>
    obtain ⟨entries', rfl, -⟩ := callees.of_object
    exact unfit _
  | _ =>
    rw [callees.bare]
    exact unfit _

end Mirrors

/-! ## Library functions -/

section Library

variable (w : Script.Mirrors constants env env') {args args' : List Value}
  (values : Script.Mirrors constants args args') {p p' : Option Position}
  (places : Script.Mirrors constants p p')

include w values places

theorem mirrors_oversized? (name : String) :
    Script.Mirrors constants (oversized? env p name args) (oversized? env' p' name args') := by
  obtain rfl := values.bare
  unfold oversized?
  split
  · exact Run.Mirrors.sizeFault? w places _
  · exact Run.Mirrors.sizeFault? w places _
  · split
    · simp_all [List.map_eq_cons_iff]
    · simp_all [List.map_eq_cons_iff]
    · exact .none

/-- What most library functions do, those that neither say anything nor end the run. -/
def answered (env : Env) (name : String) (args : List Value) (p : Option Position) : Called :=
  match oversized? env p name args with
  | some e => ⟨.error (.fault e), none⟩
  | none =>
    match Library.effect? name args with
    | some effect => .ofEffect env p args effect
    | none => .fault (notFound name args) p

omit w values places in
theorem answer_eq {name : String}
    (usual : ¬(["print", "debug", "exit"].contains name ∧ args.length ≤ 1)) :
    answer env name args p = pure (answered env name args p) := by
  unfold answer
  split
  case h_7 =>
    unfold answered
    cases oversized? env p name args with
    | some e => rfl
    | none => cases Library.effect? name args <;> rfl
  all_goals exact absurd ⟨rfl, by simp⟩ usual

theorem mirrors_answered (name : String) :
    Script.Mirrors constants (answered env name args p) (answered env' name args' p') := by
  unfold answered
  rcases (mirrors_oversized? w values places name).option_cases with
    ⟨none, none'⟩ | ⟨e, e', some, some', faults⟩
  · rw [none, none']
    have effects : Script.Mirrors constants (Library.effect? name args)
        (Library.effect? name args') :=
      values.natural fun c args => Library.recast_effect? c name args
    dsimp only
    rcases effects.option_cases with ⟨none, none'⟩ | ⟨effect, effect', some, some', effects⟩
    · rw [none, none']
      refine .called (.error (.fault (.caused ?_ places))) .none
      refine values.natural (f := notFound name) fun c args => ?_
      unfold notFound
      split
      · rfl
      · exact ErrorCause.unknownCall_recast c name args
    · rw [some, some']
      exact Called.mirrors_ofEffect w places values effects
  · rw [some, some']
    exact .called (.error faults.fault) .none

theorem mirrors_answer (name : String) :
    Run.Alike constants lead ground (answer env name args p) (answer env' name args' p') := by
  have said (r r' : Remark) : Run.Alike constants lead ground
      (do
        Run.say r
        return Called.answer .unit)
      (do
        Run.say r'
        return Called.answer .unit) :=
    .bind (.say r r') fun _ => .pure (.answer (.refl_of fun _ => rfl))
  by_cases special : ["print", "debug", "exit"].contains name ∧ args.length ≤ 1
  · obtain ⟨name, few⟩ := special
    rcases values.list_cases with ⟨rfl, rfl⟩ | ⟨v, v', rest, rest', rfl, rfl, first, others⟩
    · simp only [List.contains_cons, List.contains_nil, Bool.or_false, Bool.or_eq_true, beq_iff_eq] at name
      rcases name with rfl | rfl | rfl
      · exact said _ _
      · exact said _ _
      · exact .throw ⟨rfl, rfl⟩
    · obtain rfl : rest = [] := List.length_eq_zero_iff.mp (by simpa using few)
      obtain rfl : rest' = [] := others.bare
      simp only [List.contains_cons, List.contains_nil, Bool.or_false, Bool.or_eq_true, beq_iff_eq] at name
      rcases name with rfl | rfl | rfl
      · exact said _ _
      · exact said _ _
      · exact .throw (first.natural (f := Stop.exit) fun _ _ => rfl)
  · rw [answer_eq special, answer_eq (by rwa [values.length_eq])]
    exact .pure (mirrors_answered w values places name)

theorem mirrors_callPlain (name : String) :
    Run.Alike constants lead ground (callPlain env name args p) (callPlain env' name args' p') := by
  have noted : Run.Alike constants lead ground (answer env name args p >>= Called.noted)
      (answer env' name args' p' >>= Called.noted) :=
    .bind (mirrors_answer w values places name) fun calls => .noted calls
  unfold callPlain
  have takes : takesOperation name args' = takesOperation name args := by
    unfold takesOperation
    rw [values.length_eq]
  rw [takes]
  split
  · exact .bind (.tick w places) fun _ => noted
  · exact noted

end Library

end Eval

end ScriptGate.Script
