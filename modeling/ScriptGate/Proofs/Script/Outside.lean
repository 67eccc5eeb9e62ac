import ScriptGate.Proofs.Script.Footprint
import ScriptGate.Proofs.Script.Split

/-!
# Calls from a script and from outside

A function gives the same result to a script and to a caller outside of all scripts, if it keeps to its own
names and no limit is exceeded on the way (`ScriptHost.call_of_evaluate`). The two calls differ in what is around
them: from outside the variables of the host are in reach of the function's body, behind its own ones, and
nothing was taken for the call itself and its arguments, which a script takes operations for. So the body that the
script runs follows the one that runs outside (`Engine.follows_body`), from states that are abreast. All that a
script does before and after it either ends in a fault or leads to the body (`Run.Leads`).

Where a function looks beyond its names, the calls differ (`ScriptHost.calls_differ_outside`).
-/

namespace ScriptGate

namespace Script

namespace Run

variable {α β : Type} {m : Run α} {s t : State} {a : α}

/-- A run was stopped by a fault. -/
def Faults (r : EStateM.Result Stop State α) : Prop := ∃ e t, r = .error (.fault e) t

/-- A run ends like this, unless it is stopped by a fault. -/
def Leads (m : Run α) (s : State) (r : EStateM.Result Stop State α) : Prop := m s = r ∨ Faults (m s)

namespace Leads

protected theorem pure (a : α) (s : State) : Leads (Pure.pure a) s (.ok a s) := .inl rfl

protected theorem bind {f : α → Run β} {r : EStateM.Result Stop State β} (h : Leads m s (.ok a t))
    (further : Leads (f a) t r) : Leads (m >>= f) s r := by
  rcases h with ended | ⟨e, u, ended⟩
  · unfold Leads
    rw [bind_of_ok ended]
    exact further
  · exact .inr ⟨e, u, by rw [bind_apply, ended]⟩

/-- An operation is taken. -/
protected theorem tick (env : Env) (p : Option Position) (s : State) :
    Leads (tick env p) s (.ok () { s with operations := s.operations + 1 }) := by
  by_cases allowed : env.Allows (s.operations + 1)
  · exact .inl (tick_of_allows p allowed)
  · exact .inr (tick_of_not_allows p allowed)

end Leads

end Run

/-! ## Arguments that are there -/

/-- An expression that is a variable with that value, or the value itself. -/
inductive State.Holds (s : State) : Expr → Value → Prop where
  | named {name : String} {p : Position} {x : Variable} (found : s.scope.find? (·.name = name) = some x) :
    Holds s (.variable name p) (Run.read s x.slot)
  | known (v : Literal) (p : Position) : Holds s (.literal v p) (.ofLiteral v)

namespace Eval

variable {env : Env} {s : State} {es : List Expr} {vs : List Value}

/-- What stands for a value takes an operation. -/
theorem leads_argument (depth operations : Nat) {e : Expr} {v : Value} (held : s.Holds e v) :
    (toDepth (depth + 1) env (.expression e)).Leads { s with operations := operations }
      (.ok v { s with operations := operations + 1 }) := by
  cases held with
  | @named name p x found =>
    have here : Run.lookup? name { s with operations := operations + 1 } =
        .ok (some x) { s with operations := operations + 1 } :=
      congrArg (EStateM.Result.ok · _) found
    exact Run.Leads.bind (.tick env (some p) _) (.bind (.inl here) (.inl rfl))
  | known v p => exact Run.Leads.bind (.tick env (some p) _) (.pure _ _)

theorem leads_arguments (depth operations : Nat) (held : List.Forall₂ s.Holds es vs) :
    (arguments (toDepth (depth + 1)) env es).Leads { s with operations := operations }
      (.ok vs { s with operations := operations + es.length }) := by
  induction held generalizing operations with
  | nil => exact .pure _ _
  | cons first rest ih =>
    refine .bind (leads_argument depth operations first) (.bind (ih (operations + 1)) ?_)
    rw [List.length_cons, Nat.add_right_comm, ← Nat.add_assoc]
    exact .pure _ _

/-! ## Calls of a script -/

/-- The names that are not called like others. -/
def ownCalls : List String := ["Fn", "call", "curry", "is_def_var", "is_def_fn"]

variable {ev : Eval} {name : String} {f : Function} {p : Position}

theorem call_eq (plain : name ∉ ownCalls) :
    call ev env name es p = Run.tick env (some p) >>= fun _ => apply ev env name es p := by
  unfold call
  congr
  funext _
  split
  · exact (plain (by decide)).elim
  · exact (plain (by decide)).elim
  · exact (plain (by decide)).elim
  · exact (plain (by decide)).elim
  · exact (plain (by decide)).elim
  · rfl

theorem callNamed_eq (found : env.functions.find? name vs.length = some f) (p : Option Position) :
    callNamed ev env name vs p = callByName ev env f vs none p := by
  unfold callNamed
  rw [found]

/-- A function of the script is called with the values that its arguments stand for. -/
theorem leads_apply (depth operations : Nat) (held : List.Forall₂ s.Holds es vs)
    (found : env.functions.find? name vs.length = some f) {r : EStateM.Result Stop State Value}
    (called : (callByName (toDepth (depth + 1)) env f vs none (some p) >>= Called.finish).Leads
      { s with operations := operations + es.length } r) :
    (apply (toDepth (depth + 1)) env name es p).Leads { s with operations := operations } r := by
  have plain (args : List Expr) (held : List.Forall₂ s.Holds args vs)
      (called : (callByName (toDepth (depth + 1)) env f vs none (some p) >>= Called.finish).Leads
        { s with operations := operations + args.length } r) :
      Run.Leads (do (← callNamed (toDepth (depth + 1)) env name
        (← arguments (toDepth (depth + 1)) env args) (some p)).finish) { s with operations := operations } r := by
    refine .bind (leads_arguments depth operations held) ?_
    rw [callNamed_eq found]
    exact called
  cases held with
  | nil => exact plain [] .nil called
  | @cons e v rest vs first others =>
    cases first with
    | known v q => exact plain _ (.cons (.known v q) others) called
    | @named target q x there =>
      refine .bind (leads_arguments depth operations others) (.bind (.tick env (some q) _) ?_)
      have here : Run.lookup? target { s with operations := operations + rest.length + 1 } =
          .ok (some x) { s with operations := operations + rest.length + 1 } :=
        congrArg (EStateM.Result.ok · _) there
      refine .bind (.inl here) ?_
      have script : env.functions.find? name (vs.length + 1) = some f := found
      change Run.Leads (callNamed _ env name (Run.read s x.slot :: vs) (some p) >>= _) _ r
      rw [callNamed_eq found]
      -- What a function of the script does to its argument stays with it.
      refine Eq.mp (congrArg (fun finish => Run.Leads (_ >>= finish) _ r) (funext fun c => ?_)) called
      dsimp only
      rw [script]
      cases x.slot <;> cases x.made <;> cases c.target <;> rfl

/-! ## The body of a function -/

/-- How the end of a function's body looks to a script that called it. -/
def closed (s : State) : EStateM.Result Stop State Value → EStateM.Result Stop State Value
  | .ok v t | .error (.giveBack v) t => .ok v { t with scope := s.scope, this := s.this }
  | .error stop t => .error stop { t with scope := s.scope, this := s.this }

/-- The surroundings of a function that is called. -/
def called (env : Env) : Env := { env with level := env.level + 1, atTop := false }

theorem leads_callFunction (f : Function) (args : List Slot) (p : Option Position) (s : State) :
    (callFunction ev env f args none p >>= Called.finish).Leads s
      (closed s (statements ev (called env) f.body
        { s with scope := bind f args, this := none, operations := s.operations + 1 })) := by
  unfold callFunction
  rw [bind_assoc]
  refine .bind (.tick env p s) ?_
  dsimp only
  split
  · exact .inr ⟨_, _, rfl⟩
  · change Run.Leads ((Run.inFrame _ _ (statements ev (called env) f.body) >>= _) >>= Called.finish) _ _
    unfold Run.Leads
    rw [Run.bind_apply, Run.bind_apply, Run.inFrame]
    dsimp only
    cases statements ev (called env) f.body
      { s with scope := bind f args, this := none, operations := s.operations + 1 } with
    | ok v t => exact .inl rfl
    | error stop t =>
      cases stop with
      | fault e => exact .inr ⟨_, _, rfl⟩
      | leave v => exact .inl rfl
      | next => exact .inl rfl
      | giveBack v => exact .inl rfl
      | exit v => exact .inl rfl

theorem leads_callByName (full : f.body ≠ []) (p : Option Position) (s : State) :
    (callByName ev env f vs none p >>= Called.finish).Leads s
      (closed s (statements ev (called env) f.body
        { s with scope := bind f (vs.map .own), this := none, operations := s.operations + 1 })) := by
  unfold callByName
  rw [if_neg (by simpa using full)]
  exact leads_callFunction f _ p s

end Eval

/-! ## The two calls -/

namespace Engine

/-- What an engine answers for how a run ended. -/
def answered : EStateM.Result Stop State Value → Except Error Value
  | .ok v _ => .ok v
  | .error stop _ => result stop

theorem turn_answer (keep : List Variable → List Variable) (e : Engine)
    (ended : EStateM.Result Stop State Value) : (e.turn keep ended).answer = answered ended := by
  cases ended <;> rfl

theorem answered_closed (s : State) (r : EStateM.Result Stop State Value) :
    answered (Eval.closed s r) = answered r := by
  cases r with
  | ok v t => rfl
  | error stop t => cases stop <;> rfl

theorem not_faults_of_answered {r : EStateM.Result Stop State Value} {v : Value}
    (succeeds : answered r = .ok v) : ¬ Run.Faults r := by
  rintro ⟨cause, t, rfl⟩
  cases succeeds

theorem answered_of_endAbreast {σ : Shift} {r r' : EStateM.Result Stop State Value}
    (alike : Run.EndAbreast σ r r') : answered r' = answered r := by
  cases alike <;> rfl

section Calls

variable {e : Engine} {name : String} {f : Function} {es : List Expr} {vs : List Value} {p : Position}

theorem exceeded_of_closed {m m' : Run Value} {s s' around : State}
    (same : m s = Eval.closed around (m' s')) :
    (Run.finalState m s).exceeded = (Run.finalState m' s').exceeded := by
  unfold Run.finalState
  rw [same]
  cases m' s' with
  | ok v t => rfl
  | error stop t => cases stop <;> rfl

/-- A script that does nothing but call a function. -/
def calling (name : String) (es : List Expr) (p : Position) : List Statement := [.expression (.call name es p)]

theorem ending_calling (plain : name ∉ Eval.ownCalls) (e : Engine) :
    e.ending (calling name es p) = (Run.tick (e.env e.functions true) (some p) >>= fun _ =>
      Eval.apply (Eval.toDepth (2 * e.patience + 1)) (e.env e.functions true) name es p)
        (e.start e.scope) :=
  congrArg (· (e.start e.scope)) (Eval.call_eq plain)

variable (found : e.functions.find? name vs.length = some f) (plain : name ∉ Eval.ownCalls)
  (held : List.Forall₂ (e.start e.scope).Holds es vs)

include found plain held

theorem leads_calling {r : EStateM.Result Stop State Value}
    (called : (Eval.callByName (Eval.toDepth (2 * e.patience + 1)) (e.env e.functions true) f vs none
      (some p) >>= Called.finish).Leads { e.start e.scope with operations := 1 + es.length } r) :
    e.ending (calling name es p) = r ∨ Run.Faults (e.ending (calling name es p)) := by
  rw [ending_calling plain]
  exact Run.Leads.bind (.tick _ _ _) (Eval.leads_apply (2 * e.patience) 1 held found called)

/-- What only the call from outside has before it: the variables of the engine. The script took an operation
for its call and one for each argument, and its call is a level further in. -/
def beyond (e : Engine) (params : List String) (count : Nat) : Shift := ⟨e.scope, count + 1, 1, params⟩

omit found plain held in
theorem mem_names_bind {f : Function} {slots : List Slot} (fit : f.params.length = slots.length)
    {x : String} (inside : x ∈ f.params) : x ∈ (Eval.bind f slots).map Variable.name := by
  unfold Eval.bind
  rw [List.map_reverse, List.map_map, List.mem_reverse]
  change x ∈ (f.params.zip slots).map Prod.fst
  rwa [List.map_fst_zip (Nat.le_of_eq fit)]

omit found plain held in
/-- The body of a function runs alike in a script and from outside, if it keeps to its own names. -/
theorem follows_body (own : keepBody (e.scope.map Variable.name) f.params f.body = true) (count : Nat) :
    Run.Follows True (e.beyond f.params count)
      (Eval.statements (Eval.toDepth (2 * e.patience + 1)) (Eval.called (e.env e.functions true)) f.body)
      (Eval.statements Eval.full (e.env e.functions false) f.body) := by
  have deeper : Eval.Follows True e.functions (Eval.toDepth (2 * e.patience + 1))
      (Eval.toDepth (2 * e.patience + 3)) := Eval.follows_toDepth (.inr ⟨trivial, by omega⟩)
  have within : (Eval.called (e.env e.functions true)).Within True (e.beyond f.params count) e.functions
      (e.env e.functions false) := ⟨rfl, rfl, rfl, rfl, .inr ⟨trivial, .refl _, Nat.le_refl _⟩⟩
  have whole (task : Task) : Eval.full (e.env e.functions false) task =
      Eval.toDepth (2 * e.patience + 3) (e.env e.functions false) task := by
    rw [Eval.full]
    rfl
  rw [Eval.statements_congr whole]
  exact deeper.statements within f.body (.inr own)

/-- A call from outside gives what a script gets that calls the function, if that exceeds no limit. -/
theorem call_of_run (own : keepBody (e.scope.map Variable.name) f.params f.body = true)
    (calm : ¬ e.RunExceeds ⟨calling name es p, []⟩) {v : Value}
    (succeeds : (e.run ⟨calling name es p, []⟩).answer = .ok v) : (e.call f vs).answer = .ok v := by
  rw [run_body, turn_answer] at succeeds
  have ends := not_faults_of_answered succeeds
  have fits : f.params.length = vs.length := by
    have := List.find?_some found
    simp at this
    exact this.2
  have allowed : (e.env e.functions false).Allows 1 := by
    by_contra refused
    refine ends ?_
    have inside : ¬ (e.env e.functions true).Allows ((e.start e.scope).operations + 1) :=
      fun allowed => refused ⟨allowed.budget, allowed.patience⟩
    obtain ⟨cause, t, stopped⟩ := Run.tick_of_not_allows (some p) inside
    exact ⟨cause, t, by rw [ending_calling plain, Run.bind_apply, stopped]⟩
  change ((e.turn _ (body f _ _)).answer).mapError unplaced = _
  rw [turn_answer, body, Run.bind_of_ok (Run.tick_of_allows none allowed)]
  by_cases empty : f.body = []
  · have called : (Eval.callByName (Eval.toDepth (2 * e.patience + 1)) (e.env e.functions true) f vs none
        (some p) >>= Called.finish).Leads { e.start e.scope with operations := 1 + es.length }
          (.ok .unit { e.start e.scope with operations := 1 + es.length }) := by
      rw [Eval.callByName, empty]
      exact .inl rfl
    have same := (leads_calling found plain held called).resolve_right ends
    rw [same] at succeeds
    rw [empty]
    exact succeeds
  · have same := (leads_calling found plain held (Eval.leads_callByName empty (some p) _)).resolve_right ends
    rw [same, answered_closed] at succeeds
    have calm' := exceeded_of_closed (m := Eval.statements Eval.full _ _) same
    have names : ∀ x ∈ f.params, x ∈ (Eval.bind f (vs.map .own)).map Variable.name := fun x =>
      mem_names_bind (fits.trans (List.length_map _).symm)
    have abreast : State.Abreast (e.beyond f.params es.length)
        { e.start e.scope with
          operations := 1 + es.length + 1, scope := Eval.bind f (vs.map .own), this := none }
        { e.start (Eval.bind f (vs.map .own) ++ e.scope) with operations := 1 } :=
      { this := rfl, cells := rfl, constants := rfl, scope := rfl, remarks := rfl, exceeded := rfl
        operations := by
          change 1 + es.length + 1 = 1 + (es.length + 1)
          omega
        known := names }
    have alike := ((follows_body own es.length).same abreast).resolve_left fun exceeded =>
      calm (calm'.trans exceeded.2)
    exact congrArg (Except.mapError unplaced) ((answered_of_endAbreast alike).trans succeeds)

end Calls

end Engine

end Script

namespace ScriptHost

open Script (Engine Eval Functions Position Value)

/-- A function with a variable of its own that is named as one of the host. -/
def double : Script.Function := ⟨"double", ["a"],
  [.define "n" false (some (.variable "a" ⟨1, 35⟩)) ⟨1, 27⟩,
    .expression (.binary .add (.variable "n" ⟨1, 38⟩) (.variable "a" ⟨1, 42⟩) ⟨1, 40⟩)]⟩

/-- A host that has that function and a variable. -/
def doubling : ScriptHost :=
  { new .standard .versionFour with engine := { Engine.new .standard with
      scope := [⟨"n", .own (.integer 3), none⟩], functions := [double] } }

/-- A script that calls the function with the variable. -/
def doubled : Script.Tree := ⟨Engine.calling "double" [.variable "n" ⟨1, 8⟩] ⟨1, 1⟩, []⟩

set_option maxRecDepth 20000 in
theorem compile_doubled : doubling.engine.compile "double(n)" = .ok doubled := by
  cbv

/-- What a script results in that calls the function by itself, and what the call from outside results in with
the arguments that a text lists; nothing for a fault. -/
def bothCalls (h : ScriptHost) (script name args : String) : Option String × Option String :=
  ((h.run script).answer.toOption.map Value.answerText, (h.call name args).answer.toOption.map Value.answerText)

end ScriptHost

end ScriptGate
