import Mathlib
import ScriptGate.Proofs.Script.Limits

/-!
# Functions that give back their argument

A function whose body is its parameter gives back what it is called with, if three operations are
allowed (`Engine.invoke_echo`): one for the call and two for a variable that stands as a statement.
Such a function is what `fn echo(x) \x7b x \x7d` defines (`Engine.compile_echoSource`), unless a
constant named `x` is in reach: then its value is put in the place of the parameter.
-/

namespace ScriptGate.Script

/-- A function that gives back its argument. -/
def Function.IsEcho (f : Function) : Prop :=
  ∃ x p, f.params = [x] ∧ f.body = [.expression (.variable x p)]

/-! ## What the function gives back -/

/-- A variable that stands as a statement takes two operations and answers its value. -/
theorem Eval.toDepth_variable {env : Env} {s : State} (depth : Nat) {name : String} {x : Variable}
    (p : Position) (allowed : env.Allows (s.operations + 2))
    (found : s.scope.find? (·.name = name) = some x) :
    toDepth (depth + 2) env (.statement (.expression (.variable name p))) s =
      .ok (Run.read s x.slot) { s with operations := s.operations + 2 } := by
  change (Run.tick env (some p) >>= fun _ => Run.tick env (some p) >>= fun _ =>
    named env name p) s = _
  rw [Run.bind_of_ok (Run.tick_of_allows _ (allowed.mono (by omega))),
    Run.bind_of_ok (Run.tick_of_allows _ allowed)]
  have here : Run.lookup? name { s with operations := s.operations + 2 } =
      .ok (some x) { s with operations := s.operations + 2 } :=
    congrArg (EStateM.Result.ok · _) found
  rw [named, Run.bind_of_ok here]
  rfl

namespace Engine

theorem body_echo {f : Function} (echo : f.IsEcho) {env : Env} (allowed : env.Allows 3)
    {v : Value} {s : State} {around : List Variable} (fresh : s.operations = 0)
    (bound : s.scope = Eval.bind f [.own v] ++ around) : ∃ t, body f env s = .ok v t := by
  obtain ⟨x, p, params, gives⟩ := echo
  have found : s.scope.find? (·.name = x) = some ⟨x, .own v, none⟩ := by
    rw [bound, Eval.bind, params]
    exact List.find?_cons_of_pos (decide_eq_true rfl)
  have first : env.Allows (s.operations + 1) := fresh ▸ allowed.mono (by decide)
  have others : env.Allows (s.operations + 1 + 2) := fresh ▸ allowed
  rw [body, gives, Run.bind_of_ok (Run.tick_of_allows none first)]
  exact ⟨_, Eval.toDepth_variable (s := { s with operations := s.operations + 1 })
    (2 * env.patience + 1) p others found⟩

theorem invoke_echo {f : Function} {name : String} {e : Engine}
    (known : e.functions.find? name 1 = some f) (echo : f.IsEcho)
    (allowed : (e.env e.functions false).Allows 3) (v : Value) :
    (e.invoke name [v]).answer = .ok v := by
  rw [invoke, List.length_singleton, known]
  obtain ⟨t, ended⟩ := body_echo echo allowed (v := v)
    (s := e.start (Eval.bind f [.own v] ++ e.scope)) rfl rfl
  change ((e.turn _ (body f _ (e.start (Eval.bind f [.own v] ++ e.scope)))).answer.mapError
    unplaced).mapError Error.message = _
  rw [ended]
  rfl

end Engine

/-! ## How it is defined -/

namespace Simplifier

theorem bind_of_eq {α β : Type} {m : Simplify α} {f : α → Simplify β} {s t : Progress} {a : α}
    (ended : m s = (a, t)) : (m >>= f) s = f a t := by
  change StateT.bind m f s = _
  rw [StateT.bind, ended]
  rfl

variable {x : String} {p : Position} {names : List (String × Option Literal)} {changed : Bool}
  (unknown : (names.lookup x).join = none)

include unknown

theorem value?_of_unknown :
    Simplify.value? x ⟨names, changed⟩ = (none, ⟨names, changed⟩) :=
  congrArg (·, _) unknown

theorem expressionOf_variable (limit : Nat) (r : Simplifier) :
    expressionOf limit r (.variable x p) ⟨names, changed⟩ = (.variable x p, ⟨names, changed⟩) :=
  bind_of_eq (value?_of_unknown unknown)

/-- A body that is a variable stays as it is, if no value of that name is known. -/
theorem body_variable (limit fuel : Nat) :
    body limit (fuel + 4) names [.expression (.variable x p)] = [.expression (.variable x p)] := by
  let r := toDepth limit (fuel + 3)
  have stays : r.statement true (.expression (.variable x p)) ⟨names, false⟩ =
      (.expression (.variable x p), ⟨names, false⟩) :=
    bind_of_eq (expressionOf_variable unknown limit (toDepth limit (fuel + 1)))
  have allStay : r.each true [.expression (.variable x p)] ⟨names, false⟩ =
      ([.expression (.variable x p)], ⟨names, false⟩) :=
    bind_of_eq stays
  -- A round that changes nothing is the last one.
  have once : r.round true false true [.expression (.variable x p)] ⟨names, false⟩ =
      ([.expression (.variable x p)], ⟨names, false⟩) :=
    (bind_of_eq rfl).trans ((bind_of_eq rfl).trans (bind_of_eq allStay))
  have often : r.rounds true false true (fuel + 3) [.expression (.variable x p)] ⟨names, false⟩ =
      ([.expression (.variable x p)], ⟨names, false⟩) :=
    (bind_of_eq rfl).trans (bind_of_eq once)
  exact congrArg Prod.fst ((bind_of_eq rfl).trans (bind_of_eq often))

end Simplifier

/-- A source that defines such a function. -/
def echoSource : String := "fn echo(x) \x7b x \x7d"

/-- The function that the source is read as. -/
def echo : Function := ⟨"echo", ["x"], [.expression (.variable "x" ⟨1, 14⟩)]⟩

theorem echo_isEcho : echo.IsEcho := ⟨"x", ⟨1, 14⟩, rfl, rfl⟩

theorem Grammar.within_unlimited (g : Grammar) : g.Within ⟨0, 0, g.known, g.settle⟩ :=
  ⟨.inl rfl, .inl rfl, rfl, rfl⟩

/-- Where nothing is limited, the source is read in one way, whatever is in reach. -/
theorem Tree.parse_echoSource (known : List String) (settle : List Statement → List Statement)
    (maxText : Nat) : Tree.parse ⟨0, 0, known, settle⟩ maxText echoSource = .ok ⟨[], [echo]⟩ := by
  cbv

/-- Whatever the limits are, the source defines the function, if it is understood and no value of
its parameter's name is known. -/
theorem Engine.compile_echoSource {e : Engine} {script : Tree}
    (read : e.compile echoSource = .ok script) (unknown : (e.names.lookup "x").join = none) :
    script.functions = [echo] := by
  obtain ⟨tree, parsed, rfl⟩ := compile_eq_ok.mp read
  have unlimited := Tree.parse_of_within (Grammar.within_unlimited _) parsed
  rw [Tree.parse_echoSource] at unlimited
  cases unlimited
  exact congrArg (fun body => [(⟨"echo", ["x"], body⟩ : Function)])
    (Simplifier.body_variable unknown e.settings.maxStringLen _)

end ScriptGate.Script
