import ScriptGate.Host.Script
import ScriptGate.Proofs.Script.Follow.Statement

/-!
# Definitions that persist

A host keeps the functions of every source that it understood, and nothing else of it but variables.
After any sequence of evaluations and calls its table is that of all these functions, where of two
with one name and number of parameters the later one counts (`ScriptHost.definitions_persist`). A
source runs with the table that its own functions are added to, and all that it runs finds its
functions there, the bodies of older functions included: evaluation is the same where every
construct is made to see that table (`Eval.seeing`).
-/

namespace ScriptGate

namespace Script

/-! ## Tables of functions -/

namespace Functions

variable {name : String} {arity : Nat}

theorem find?_cons (f : Function) (table : Functions) : Functions.find? (f :: table) name arity =
    if f.name = name ∧ f.params.length = arity then some f else table.find? name arity := by
  unfold Functions.find?
  split
  · next same => exact List.find?_cons_of_pos (decide_eq_true same)
  · next other => exact List.find?_cons_of_neg (mt of_decide_eq_true other)

/-- What is found does not depend on functions that are not asked for. -/
theorem find?_filter {f : Function} (other : ¬ (f.name = name ∧ f.params.length = arity))
    (table : Functions) : Functions.find?
      (table.filter fun g => !(g.name = f.name ∧ g.params.length = f.params.length)) name arity =
      table.find? name arity := by
  induction table with
  | nil => rfl
  | cons g rest ih =>
    by_cases same : g.name = f.name ∧ g.params.length = f.params.length
    · have notAsked : ¬ (g.name = name ∧ g.params.length = arity) := by
        rw [same.1, same.2]
        exact other
      rw [List.filter_cons_of_neg (by simp [same]), find?_cons, if_neg notAsked, ih]
    · rw [List.filter_cons_of_pos (by simp [same]), find?_cons, find?_cons, ih]

theorem find?_insert (f : Function) (table : Functions) : (insert f table).find? name arity =
    if f.name = name ∧ f.params.length = arity then some f else table.find? name arity := by
  rw [insert, find?_cons]
  split
  · rfl
  · next other => exact find?_filter other table

/-- Of two functions with one name and number of parameters the later one counts. -/
theorem find?_extend (table later : Functions) :
    (table.extend later).find? name arity = Functions.find? (later ++ table) name arity := by
  induction later with
  | nil => rfl
  | cons f rest ih =>
    change (insert f (table.extend rest)).find? name arity = _
    rw [find?_insert, ih, List.cons_append, find?_cons]

/-- Later functions go before earlier ones, whichever table these come from. -/
theorem find?_append_congr {table table' : Functions}
    (same : table.find? name arity = table'.find? name arity) (later : Functions) :
    Functions.find? (later ++ table) name arity = Functions.find? (later ++ table') name arity := by
  induction later with
  | nil => exact same
  | cons f rest ih => rw [List.cons_append, List.cons_append, find?_cons, find?_cons, ih]

/-- A table in which no function stands in the way of another one. -/
def Distinct (table : Functions) : Prop :=
  table.Pairwise fun f g => ¬ (f.name = g.name ∧ f.params.length = g.params.length)

theorem Distinct.insert {table : Functions} (distinct : table.Distinct) (f : Function) :
    (insert f table).Distinct := by
  refine List.pairwise_cons.mpr ⟨fun g kept same => ?_, List.Pairwise.filter _ distinct⟩
  have other := (List.mem_filter.mp kept).2
  simp [same.1, same.2] at other

theorem Distinct.extend {table : Functions} (distinct : table.Distinct) (later : Functions) :
    (table.extend later).Distinct := by
  induction later with
  | nil => exact distinct
  | cons f rest ih => exact ih.insert f

end Functions

/-! ## Evaluation that sees one table -/

namespace Eval

/-- Evaluation to a depth where every construct sees one table of functions, whatever it is given.
-/
def seeing (table : Functions) : (depth : Nat) → Eval
  | 0 => toDepth 0
  | depth + 1 => fun env task => step (seeing table depth) { env with functions := table } task

theorem follows_seeing (table : Functions) (depth : Nat) :
    Eval.Follows False table (toDepth depth) (seeing table depth) := by
  induction depth with
  | zero => exact follows_toDepth (.inl rfl)
  | succ depth ih =>
    have inside : Eval.Follows False table (step (toDepth depth)) (step (seeing table depth)) := .step ih
    refine ⟨fun {σ env env'} w task own => ?_, inside.introduces, inside.literals⟩
    have same : { env' with functions := table } = env' := by
      rw [← w.functions']
    change Run.Follows False σ (step (toDepth depth) env task)
      (step (seeing table depth) { env' with functions := table } task)
    rw [same]
    exact inside.task w task own

theorem seeing_functions (table given : Functions) (depth : Nat) (env : Env) (task : Task) :
    seeing table depth { env with functions := given } task = seeing table depth env task := by
  cases depth <;> rfl

theorem statements_congr {ev ev' : Eval} {env env' : Env}
    (same : ∀ task, ev env task = ev' env' task) (body : List Statement) :
    statements ev env body = statements ev' env' body := by
  induction body with
  | nil => rfl
  | cons first rest ih =>
    cases rest with
    | nil => exact same _
    | cons next rest =>
      change (ev env (.statement first) >>= fun _ => statements ev env (next :: rest)) =
        ev' env' (.statement first) >>= fun _ => statements ev' env' (next :: rest)
      rw [same, ih]

/-- Whatever table a run is given, it finds its functions where every construct looks for them. -/
theorem statements_full_eq (env : Env) (given : Functions) (body : List Statement) :
    statements full env body =
      statements (seeing env.functions (2 * env.patience + 3)) { env with functions := given }
        body := by
  refine statements_congr (fun task => ?_) body
  have follows := (follows_seeing env.functions (2 * env.patience + 3)).task (.refl env) task
    (.of_none rfl task)
  funext s
  rw [seeing_functions]
  exact ((follows.ends_eq s).resolve_left fun watched => watched.1).symm

end Eval

/-! ## What an engine keeps -/

namespace Engine

/-- A run changes nothing of an engine but its variables. -/
theorem turn_state (keep : List Variable → List Variable) (e : Engine)
    (ended : EStateM.Result Stop State Value) :
    ∃ scope cells, (e.turn keep ended).state = { e with scope := scope, cells := cells } := by
  cases ended with
  | ok v s => exact ⟨_, _, rfl⟩
  | error stop s => exact ⟨_, _, rfl⟩

theorem run_state (script : Tree) (e : Engine) :
    ∃ scope cells, (e.run script).state =
      { e with scope := scope, cells := cells, functions := e.functions.extend script.functions } :=
  turn_state id { e with functions := e.functions.extend script.functions } _

theorem evaluate_state (source : String) (e : Engine) :
    ∃ scope cells functions, (e.evaluate source).state =
      { e with scope := scope, cells := cells, functions := functions } := by
  unfold evaluate
  cases e.compile source with
  | error cause => exact ⟨_, _, _, rfl⟩
  | ok script =>
    obtain ⟨scope, cells, same⟩ := e.run_state script
    exact ⟨_, _, _, same⟩

theorem invoke_state (name : String) (args : List Value) (e : Engine) :
    ∃ scope cells, (e.invoke name args).state = { e with scope := scope, cells := cells } := by
  unfold invoke
  cases e.functions.find? name args.length with
  | none => exact ⟨_, _, rfl⟩
  | some f => exact turn_state _ e _

/-- A source adds its functions once it is understood, however its run ends. -/
theorem evaluate_functions (source : String) (e : Engine) :
    (e.evaluate source).state.functions = match e.compile source with
      | .ok script => e.functions.extend script.functions
      | .error _ => e.functions := by
  unfold evaluate
  cases e.compile source with
  | error cause => rfl
  | ok script =>
    obtain ⟨scope, cells, same⟩ := e.run_state script
    exact congrArg Engine.functions same

theorem invoke_functions (name : String) (args : List Value) (e : Engine) :
    (e.invoke name args).state.functions = e.functions := by
  obtain ⟨scope, cells, same⟩ := e.invoke_state name args
  rw [same]

/-- A script runs its own statements, and sees the table that its functions are added to. -/
theorem run_eq (script : Tree) (e : Engine) (given : Functions) :
    let table := e.functions.extend script.functions
    e.run script = { e with functions := table }.turn id
      (Eval.statements (Eval.seeing table (2 * e.patience + 3)) (e.env given true) script.body
        (e.start e.scope)) := by
  intro table
  change { e with functions := table }.turn id
    (Eval.statements Eval.full (e.env table true) script.body (e.start e.scope)) = _
  rw [Eval.statements_full_eq _ given]
  rfl

/-- A call runs the body of its function, and sees the table of the engine. -/
theorem body_eq (e : Engine) (f : Function) (given : Functions) :
    body f (e.env e.functions false) = Run.tick (e.env given false) none >>= fun _ =>
      Eval.statements (Eval.seeing e.functions (2 * e.patience + 3)) (e.env given false) f.body := by
  rw [body, Eval.statements_full_eq _ given]
  rfl

end Engine

end Script

/-! ## Hosts over time -/

namespace ScriptHost

open Script (Functions Tree)

/-- What a host is asked to run. -/
inductive Action where
  | evaluate (source : String)
  | invoke (name args : String)

/-- Runs what is asked. -/
def perform : Action → ScriptHost → Turn ScriptHost String
  | .evaluate source, h => h.evaluate source
  | .invoke name args, h => h.invoke name args

/-- The host after it has been asked one thing after the other. -/
def after : List Action → ScriptHost → ScriptHost
  | [], h => h
  | action :: rest, h => after rest (h.perform action).state

/-- The functions of what is asked: those of a source that is understood. -/
def defined : Action → ScriptHost → Functions
  | .evaluate source, h =>
    match h.engine.compile source with
    | .ok script => script.functions
    | .error _ => []
  | .invoke .., _ => []

/-- The functions of all sources that are understood, those of the latest one first. -/
def definitions : List Action → ScriptHost → Functions
  | [], _ => []
  | action :: rest, h => definitions rest (h.perform action).state ++ h.defined action

theorem perform_functions (action : Action) (h : ScriptHost) :
    (h.perform action).state.engine.functions = h.engine.functions.extend (h.defined action) := by
  cases action with
  | evaluate source =>
    change (h.engine.evaluate source).state.functions = _
    rw [Script.Engine.evaluate_functions, defined]
    cases h.engine.compile source <;> rfl
  | invoke name args =>
    change (h.call name args).state.functions = _
    unfold call
    split
    · exact Script.Engine.invoke_functions name _ h.engine
    · rfl

theorem after_find? (actions : List Action) (h : ScriptHost) (name : String) (arity : Nat) :
    (h.after actions).engine.functions.find? name arity =
      Functions.find? (h.definitions actions ++ h.engine.functions) name arity := by
  induction actions generalizing h with
  | nil => rfl
  | cons action rest ih =>
    rw [after, ih, definitions, List.append_assoc]
    refine Functions.find?_append_congr ?_ _
    rw [perform_functions, Functions.find?_extend]

theorem after_distinct (actions : List Action) (h : ScriptHost)
    (distinct : h.engine.functions.Distinct) : (h.after actions).engine.functions.Distinct := by
  induction actions generalizing h with
  | nil => exact distinct
  | cons action rest ih =>
    refine ih _ ?_
    rw [perform_functions]
    exact distinct.extend _

/-- Sources that define a function anew: the second one ends in a fault, and the third one is not
understood. -/
def redefining : List Action :=
  [.evaluate "fn f() \x7b g() \x7d fn g() \x7b 1 \x7d", .evaluate "throw 0; fn g() \x7b 2 \x7d",
    .evaluate "fn g() \x7b 3 \x7d )", .invoke "g" "[]"]

end ScriptHost

end ScriptGate
