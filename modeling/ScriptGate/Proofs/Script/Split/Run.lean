import ScriptGate.Proofs.Script.Limits
import ScriptGate.Proofs.Script.Mirror.Statement

/-!
# Scripts that run in two parts

Two runs that a third one mirrors both, one of them with a lead, end alike up to places
(`Run.ends_alike`). So the second part of a script may as well run for itself, in an engine with the
variables that the first part left: what it took operations for before does not count, as long as no
limit is exceeded. Variables stay until the end of a run, so whatever the first part defined is there
(`Eval.defined_of_run`).
-/

namespace ScriptGate.Script

/-! ## Statements in a row -/

namespace Eval

variable {ev : Eval} {env : Env}

theorem statements_append (a : List Statement) {b : List Statement} (more : b ≠ []) :
    statements ev env (a ++ b) = statements ev env a >>= fun _ => statements ev env b := by
  induction a with
  | nil => rfl
  | cons first rest ih =>
    cases rest with
    | nil =>
      cases b with
      | nil => exact (more rfl).elim
      | cons next b => rfl
    | cons second rest =>
      change (ev env (.statement first) >>= fun _ => statements ev env (second :: rest ++ b)) =
        (ev env (.statement first) >>= fun _ => statements ev env (second :: rest)) >>= fun _ =>
          statements ev env b
      rw [ih, bind_assoc]

end Eval

/-! ## Runs with one mirror -/

section Alike

variable {constants : Bool} {lead : Nat} {ground : Ground}

/-- Two runs of the same statements up to places, from states that one state mirrors. -/
theorem Run.ends_alike {env : Env} (plainEnv : Plain constants env) {body body' : List Statement}
    (same : bareBody body' = bareBody body) (plain : isPlainBody constants body = true)
    {s s' t : State} (states : s.Mirrors constants lead ground t)
    (states' : s'.Mirrors constants 0 ground t)
    (calm : 0 < lead → (finalState (Eval.statements Eval.full env body) s).exceeded = false) :
    ∃ ended, Ends constants lead ground (Script.Mirrors constants)
        (Eval.statements Eval.full env body s) ended ∧
      Ends constants 0 ground (Script.Mirrors constants)
        (Eval.statements Eval.full env body' s') ended := by
  have surroundings : Script.Mirrors constants env (recast .bare env) := ⟨rfl, plainEnv⟩
  have plain' : isPlainBody constants body' = true := by
    rw [← isPlainBody_bare, same, isPlainBody_bare]
    exact plain
  obtain ⟨ended, ends, said⟩ :=
    (Eval.mirrors_full.statements surroundings plain : Run.Alike constants lead ground _ _).same states
  obtain ⟨ended', ends', said'⟩ :=
    (Eval.mirrors_full.statements surroundings plain' : Run.Alike constants 0 ground _ _).same states'
  have here := said.resolve_right fun ⟨ahead, exceeded⟩ =>
    Bool.false_ne_true ((calm ahead).symm.trans exceeded)
  have there := said'.resolve_right fun ⟨ahead, _⟩ => Nat.lt_irrefl 0 ahead
  rw [same, here] at there
  exact ⟨ended, ends, there ▸ ends'⟩

/-- A limit that is exceeded stays exceeded. -/
theorem Run.calm_of_calm_end {env : Env} (plainEnv : Plain constants env) {body : List Statement}
    (plain : isPlainBody constants body = true) {s t : State} (states : s.Mirrors constants lead ground t)
    (calm : (finalState (Eval.statements Eval.full env body) s).exceeded = false) :
    s.exceeded = false := by
  have kept := (Eval.mirrors_full.statements ⟨rfl, plainEnv⟩ plain :
    Run.Alike constants lead ground _ _).kept states
  exact Bool.eq_false_iff.mpr fun before => Bool.false_ne_true (calm.symm.trans (kept before))

/-- One state mirrors both that in which a run goes on and that in which a run of its own begins with the
same variables: the one is ahead by all operations so far. No constants are there, if they count. -/
theorem State.Mirrors.exists_anew {s s' t : State} (states : s.Mirrors constants 0 ground t)
    (states' : s'.Mirrors constants 0 ground t) (outside : ground.hasThis = false)
    (calm : s.exceeded = false) (none : constants = true → s'.constants = []) :
    ∃ between, s.Mirrors constants s.operations ground between ∧
      State.Mirrors constants 0 ground ⟨s'.scope, .none, s'.cells, 0, [], [], false⟩ between := by
  have noThis : s.this = .none :=
    Option.isNone_iff_eq_none.mp (Option.isSome_eq_false_iff.mp (states.hasThis.trans outside))
  have noConstants (allowed : constants = true) : s.constants = [] := by
    have same := (states.constants allowed).bare.symm.trans (states'.constants allowed).bare
    rw [none allowed] at same
    exact List.map_eq_nil_iff.mp same
  refine ⟨⟨recast .bare s.scope, .none, recast .bare s.cells, 0, [], [], false⟩, ?_, ?_⟩
  · exact { states with
      scope := ⟨rfl, states.scope.plain⟩
      this := by
        rw [noThis]
        exact .none
      cells := ⟨rfl, states.cells.plain⟩
      operations := (Nat.zero_add _).symm
      constants := fun allowed => by
        rw [noConstants allowed]
        exact .nil
      exceeded := calm.symm }
  · exact { states' with
      scope := ⟨states.scope.bare.symm.trans states'.scope.bare, states'.scope.plain⟩
      this := .none
      hasThis := outside.symm
      cells := ⟨states.cells.bare.symm.trans states'.cells.bare, states'.cells.plain⟩
      operations := rfl
      constants := fun _ => .nil
      exceeded := rfl }

end Alike

theorem isPlainBody_append (constants : Bool) (a b : List Statement) :
    isPlainBody constants (a ++ b) = (isPlainBody constants a && isPlainBody constants b) := by
  induction a with
  | nil => rfl
  | cons s rest ih => exact (congrArg (s.isPlain constants && ·) ih).trans (Bool.and_assoc ..).symm

/-! ## Variables that stay -/

/-- The names that statements define, but for those that are defined inside of them. -/
def definedNames : List Statement → List String
  | [] => []
  | .define name _ _ _ :: rest => name :: definedNames rest
  | _ :: rest => definedNames rest

theorem definedNames_bare (body : List Statement) :
    definedNames (bareBody body) = definedNames body := by
  induction body with
  | nil => rfl
  | cons s rest ih =>
    cases s with
    | define name => exact congrArg (name :: ·) ih
    | _ => exact ih

namespace Eval

/-- A variable is there once it was defined. -/
theorem name_of_define {env : Env} {name : String} {constant : Bool} {value : Option Expr}
    {p : Position} {s t : State} {v : Value}
    (ended : full env (.statement (.define name constant value p)) s = .ok v t) :
    name ∈ t.scope.map Variable.name :=
  have itself : Eval.Follows True env.functions full full := follows_full
  itself.introduces ended name List.mem_cons_self

/-- What statements define is there when they come to their end. -/
theorem defined_of_run {constants : Bool} {lead : Nat} {ground : Ground} {env : Env}
    (plainEnv : Plain constants env) {body : List Statement}
    (plain : isPlainBody constants body = true) {s s' t : State}
    (states : s.Mirrors constants lead ground s') {v : Value}
    (ended : statements full env body s = .ok v t) {name : String} (defined : name ∈ definedNames body) :
    name ∈ t.scope.map Variable.name := by
  have surroundings : Script.Mirrors constants env (recast .bare env) := ⟨rfl, plainEnv⟩
  induction body generalizing s s' ground with
  | nil => cases defined
  | cons first rest ih =>
    obtain ⟨here, others⟩ := Bool.and_eq_true_iff.mp plain
    -- Either the first statement defines the name, which then stays, or one of the others does.
    cases rest with
    | nil =>
      cases first with
      | define own =>
        obtain rfl := List.mem_singleton.mp defined
        exact name_of_define ended
      | _ => cases defined
    | cons second rest =>
      obtain ⟨_, u, before, after⟩ := Run.exists_of_bind ended
      obtain ⟨_, ends, -⟩ :=
        (mirrors_full.statement surroundings here : Run.Alike constants lead ground _ _).same states
      rw [before] at ends
      cases ends with
      | ok result between =>
        have all := { between with names := List.suffix_refl _ : State.Mirrors constants lead
          { ground with names := u.scope.map Variable.name } u _ }
        obtain ⟨_, ends, -⟩ := (mirrors_full.statements surroundings others :
          Run.Alike constants lead _ _ _).same all
        rw [after] at ends
        cases ends with
        | ok result last =>
          cases first with
          | define own =>
            rcases List.mem_cons.mp defined with rfl | later
            · exact last.names.subset (name_of_define before)
            · exact ih others all after later
          | _ => exact ih others all after defined

end Eval

/-! ## Engines -/

instance : Castable Engine where
  recast c e := { e with
    scope := recast c e.scope
    cells := recast c e.cells
    functions := recast c e.functions }

namespace Engine

/-- What a variable name stands for. -/
def value? (name : String) (e : Engine) : Option Value :=
  (e.scope.find? (·.name = name)).map fun x => Run.read (e.start e.scope) x.slot

theorem value?_recast (c : Recast) (name : String) (e : Engine) :
    (recast c e).value? name = (e.value? name).map (recast c) := by
  have found : (recast c e).scope.find? (·.name = name) =
      (e.scope.find? (·.name = name)).map (recast c) := List.find?_map
  unfold value?
  rw [found]
  cases e.scope.find? (·.name = name) with
  | none => rfl
  | some x =>
    obtain ⟨own, slot, made⟩ := x
    cases slot with
    | own v => rfl
    | shared cell =>
      have at_ : (recast c e).cells[cell]? = (e.cells[cell]?).map (recast c) := Array.getElem?_map
      refine congrArg some ?_
      change ((recast c e).cells[cell]?.map Cell.value).getD .unit =
        recast c ((e.cells[cell]?.map Cell.value).getD .unit)
      rw [at_]
      cases e.cells[cell]? <;> rfl

theorem plain_new (constants : Bool) (settings : Settings) : Plain constants (Engine.new settings) :=
  congrArg (fun cells => ({ Engine.new settings with cells := cells } : Engine)) Array.map_empty

/-- How a script without functions of its own ends. -/
def ending (body : List Statement) (e : Engine) : EStateM.Result Stop State Value :=
  Eval.statements Eval.full (e.env e.functions true) body (e.start e.scope)

/-- Whether nothing but a fault ends statements before they come to their end. -/
def RunsThrough (body : List Statement) (e : Engine) : Prop :=
  (match e.ending body with
    | .ok .. | .error (.fault _) _ => true
    | .error .. => false) = true

instance (body : List Statement) (e : Engine) : Decidable (e.RunsThrough body) :=
  inferInstanceAs (Decidable (_ = true))

theorem run_body (body : List Statement) (e : Engine) :
    e.run ⟨body, []⟩ = e.turn id (e.ending body) := rfl

/-- The constants that statements leave to the rest of their run. -/
def constantsAfter (body : List Statement) (e : Engine) : List (String × Value) :=
  (Run.finalState (Eval.statements Eval.full (e.env e.functions true) body)
    (e.start e.scope)).constants

variable {constants : Bool} {e : Engine}

theorem plain_env (plain : Plain constants e) : Plain constants (e.env e.functions true) :=
  congrArg (fun e' : Engine => e.env e'.functions true) plain

theorem start_mirrors (plain : Plain constants e) :
    (e.start e.scope).Mirrors constants 0 ⟨false, e.scope.map Variable.name⟩
      ((recast .bare e).start (recast .bare e).scope) where
  scope := ⟨rfl, congrArg Engine.scope plain⟩
  this := .none
  hasThis := rfl
  names := List.suffix_refl _
  cells := ⟨rfl, congrArg Engine.cells plain⟩
  operations := rfl
  constants := fun _ => .nil
  exceeded := rfl

/-- What a turn answers and leaves is what its end is up to places. -/
theorem turn_mirrors {lead : Nat} {ground : Ground} (plain : Plain constants e)
    {ended ended' : EStateM.Result Stop State Value}
    (ends : Run.Ends constants lead ground (Mirrors constants) ended ended') :
    Mirrors constants (e.turn id ended).answer ((recast .bare e).turn id ended').answer ∧
      Mirrors constants (e.turn id ended).state ((recast .bare e).turn id ended').state := by
  have left {s s' : State} (states : s.Mirrors constants lead ground s') :
      Mirrors constants { e with scope := s.scope, cells := s.cells }
        { recast .bare e with scope := s'.scope, cells := s'.cells } := by
    obtain ⟨⟨scope, plainScope⟩, -, -, -, ⟨cells, plainCells⟩, -, -, -⟩ := states
    constructor
    · rw [scope, cells]
      rfl
    · have functions : recast (.cleaned constants) e.functions = e.functions :=
        congrArg Engine.functions plain
      exact congr (congrArg₂ (fun scope cells functions =>
        ({ e with scope := scope, cells := cells, functions := functions } : Engine)) plainScope
          plainCells) functions
  cases ends with
  | ok result states => exact ⟨result.ok, left states⟩
  | error cause states =>
    refine ⟨cause.natural (f := Engine.result) fun c stop => ?_, left states⟩
    cases stop <;> rfl

section Parts

variable {a a' b b' : List Statement}

theorem turn_with (scope : List Variable) (cells : Array Cell)
    (ended : EStateM.Result Stop State Value) (e : Engine) :
    ({ e with scope := scope, cells := cells } : Engine).turn id ended = e.turn id ended := by
  cases ended <;> rfl

theorem ending_append (a : List Statement) (more : b ≠ []) (e : Engine) :
    e.ending (a ++ b) = match e.ending a with
      | .ok _ s => Eval.statements Eval.full (e.env e.functions true) b s
      | .error stop s => .error stop s := by
  unfold ending
  rw [Eval.statements_append a more, Run.bind_apply]
  cases Eval.statements Eval.full (e.env e.functions true) a (e.start e.scope) <;> rfl

/-- The first part of a script, run for itself, comes to its end as it does within the whole if that
succeeds. -/
theorem ending_of_append (plain : Plain constants e) (same : bareBody a' = bareBody a)
    (plainBody : isPlainBody constants a = true) (more : b ≠ []) (through : e.RunsThrough a')
    {v : Value} (succeeds : (e.run ⟨a ++ b, []⟩).answer = .ok v) :
    ∃ u s u' s' t, e.ending a = .ok u s ∧ e.ending a' = .ok u' s' ∧
      s.Mirrors constants 0 ⟨false, e.scope.map Variable.name⟩ t ∧
      s'.Mirrors constants 0 ⟨false, e.scope.map Variable.name⟩ t := by
  obtain ⟨ended, ends, ends'⟩ := Run.ends_alike (plain_env plain) same plainBody
    (start_mirrors plain) (start_mirrors plain) fun ahead => (Nat.lt_irrefl 0 ahead).elim
  change Run.Ends _ _ _ _ (e.ending a) ended at ends
  change Run.Ends _ _ _ _ (e.ending a') ended at ends'
  rw [run_body, ending_append a more] at succeeds
  unfold RunsThrough at through
  cases endedA : e.ending a with
  | ok u s =>
    cases endedA' : e.ending a' with
    | ok u' s' =>
      rw [endedA] at ends
      rw [endedA'] at ends'
      cases ends with
      | ok _ states =>
        cases ends' with
        | ok _ states' => exact ⟨u, s, u', s', _, rfl, rfl, states, states'⟩
    | error stop' s' =>
      rw [endedA] at ends
      rw [endedA'] at ends'
      cases ends
      cases ends'
  | error stop s =>
    -- A fault would be that of the whole, and nothing else ends the first part.
    rw [endedA] at ends succeeds
    cases endedA' : e.ending a' with
    | ok u' s' =>
      rw [endedA'] at ends'
      cases ends
      cases ends'
    | error stop' s' =>
      rw [endedA'] at ends' through
      cases ends with
      | error causes _ =>
        cases ends' with
        | error causes' _ =>
          cases stop' with
          | fault cause' =>
            have faults := causes.bare.symm.trans causes'.bare
            cases stop with
            | fault cause => cases succeeds
            | _ => cases faults
          | _ => cases through

theorem constantsAfter_of_ok {u : Value} {s : State} (ended : e.ending a = .ok u s) :
    e.constantsAfter a = s.constants := by
  unfold constantsAfter Run.finalState
  rw [show Eval.statements Eval.full (e.env e.functions true) a (e.start e.scope) = _ from ended]

/-- What the first part defines is there after it, and so are the variables from before. -/
theorem there_of_ok (plain : Plain constants e) (same : bareBody a' = bareBody a)
    (plainBody : isPlainBody constants a = true) {u : Value} {s t : State}
    (ended : e.ending a' = .ok u s)
    (states : s.Mirrors constants 0 ⟨false, e.scope.map Variable.name⟩ t) {name : String}
    (inside : name ∈ definedNames a ++ e.scope.map Variable.name) :
    name ∈ s.scope.map Variable.name := by
  rcases List.mem_append.mp inside with defined | before
  · rw [← definedNames_bare, ← same, definedNames_bare] at defined
    rw [← isPlainBody_bare, ← same, isPlainBody_bare] at plainBody
    exact Eval.defined_of_run (plain_env plain) plainBody (start_mirrors plain) ended defined
  · exact states.names.subset before

/-- A script whose first part was run for itself before. If the whole succeeds and exceeds no limit, then
so does either part, and in the end there are the same result and the same engine up to places. What the
first part defined is there between the two, beside the variables that were there before. -/
theorem run_append (plain : Plain constants e) (sameFirst : bareBody a' = bareBody a)
    (sameSecond : bareBody b' = bareBody b) (plainBody : isPlainBody constants (a ++ b) = true)
    (more : b ≠ []) (through : e.RunsThrough a')
    (unshared : constants = true → e.constantsAfter a' = []) (calm : ¬ e.RunExceeds ⟨a ++ b, []⟩)
    {v : Value} (succeeds : (e.run ⟨a ++ b, []⟩).answer = .ok v) :
    let first := e.run ⟨a', []⟩
    let second := first.state.run ⟨b', []⟩
    (∃ u, first.answer = .ok u) ∧
      (∀ name ∈ definedNames a ++ e.scope.map Variable.name,
        name ∈ first.state.scope.map Variable.name) ∧
      (∃ w, second.answer = .ok w ∧ recast .bare w = recast .bare v) ∧
      recast .bare second.state = recast .bare (e.run ⟨a ++ b, []⟩).state := by
  rw [isPlainBody_append, Bool.and_eq_true_iff] at plainBody
  obtain ⟨u, s, u', s', t, endedA, endedA', states, states'⟩ :=
    ending_of_append plain sameFirst plainBody.1 more through succeeds
  have endedWhole : e.ending (a ++ b) =
      Eval.statements Eval.full (e.env e.functions true) b s := by rw [ending_append a more, endedA]
  have calmAfter :
      (Run.finalState (Eval.statements Eval.full (e.env e.functions true) b) s).exceeded = false := by
    unfold Run.finalState
    rw [← endedWhole]
    exact Bool.eq_false_iff.mpr calm
  have calmBetween := Run.calm_of_calm_end (plain_env plain) plainBody.2 states calmAfter
  have none (allowed : constants = true) : s'.constants = [] :=
    (constantsAfter_of_ok endedA').symm.trans (unshared allowed)
  obtain ⟨between, within, anew⟩ := states.exists_anew states' rfl calmBetween none
  obtain ⟨ended, ends, ends'⟩ := Run.ends_alike (plain_env plain) sameSecond plainBody.2 within anew
    fun _ => calmAfter
  rw [← endedWhole] at ends
  obtain ⟨answers, left⟩ := turn_mirrors plain ends
  obtain ⟨answers', left'⟩ := turn_mirrors plain ends'
  intro first second
  have ranFirst : first = e.turn id (.ok u' s') := by rw [← endedA', ← run_body]
  have ranSecond : second = e.turn id (Eval.statements Eval.full (e.env e.functions true) b'
      ⟨s'.scope, .none, s'.cells, 0, [], [], false⟩) := by
    change first.state.run ⟨b', []⟩ = _
    rw [ranFirst, run_body]
    exact turn_with _ _ _ e
  rw [← ranSecond] at answers' left'
  rw [← run_body] at answers left
  refine ⟨⟨u', by rw [ranFirst]; rfl⟩, fun name inside => ?_, ?_, left'.bare.symm.trans left.bare⟩
  · rw [ranFirst]
    exact there_of_ok plain sameFirst plainBody.1 endedA' states' inside
  · have same : recast .bare second.answer = recast .bare (.ok v : Except Error Value) :=
      answers'.bare.symm.trans (succeeds ▸ answers.bare)
    cases answered : second.answer with
    | ok w =>
      rw [answered] at same
      exact ⟨w, rfl, Except.ok.inj same⟩
    | error cause =>
      rw [answered] at same
      cases same

end Parts

end Engine

end ScriptGate.Script
