import ScriptGate.Bridge

/-!
# Runs of a bridge

Whatever is asked of a bridge makes a request, which is carried out, or is refused and changes
nothing (`Bridge.perform_eq`). So what every request preserves holds after every run
(`Bridge.after_induction`).
-/

namespace ScriptGate

open Json (Value)

namespace Bridge

/-- The request that is made by what is asked of a bridge, unless it is refused. -/
def Action.request : Action → Except Fault Request
  | .evaluate source => .ok (.evaluate source)
  | .invoke name args => .ok (.invoke name args)
  | .enableDebugger port => .ok (.enableDebugger port)
  | .disableDebugger => .ok .disableDebugger
  | .dispatch request => .ok request
  | .handle op params => Request.ofParams op params

variable {H : Type} [Host H]

/-- What is asked is carried out as the request that it makes. -/
theorem perform_eq (action : Action) (b : Bridge H) :
    b.perform action =
      match action.request with
      | .ok request => b.dispatch request
      | .error fault => .quiet (.error fault) b := by
  cases action <;> rfl

/-- What is asked is carried out as some request, or refused without a trace. -/
theorem perform_cases (action : Action) (b : Bridge H) :
    (∃ request, b.perform action = b.dispatch request) ∨
      ∃ fault, b.perform action = .quiet (.error fault) b := by
  rw [perform_eq]
  cases action.request with
  | ok request => exact .inl ⟨request, rfl⟩
  | error fault => exact .inr ⟨fault, rfl⟩

/-- The bridge after it has been asked one thing after the other. -/
def after : List Action → Bridge H → Bridge H
  | [], b => b
  | action :: rest, b => after rest (b.perform action).state

/-- What every request preserves holds after every run, if it holds at first. -/
theorem after_induction {P : Bridge H → Prop}
    (step : ∀ request b, P b → P (b.dispatch request).state) {b : Bridge H} (first : P b)
    (actions : List Action) : P (b.after actions) := by
  induction actions generalizing b with
  | nil => exact first
  | cons action rest ih =>
    rw [after]
    refine ih ?_
    rcases perform_cases action b with ⟨request, carriedOut⟩ | ⟨fault, refused⟩
    · rw [carriedOut]
      exact step request b first
    · rw [refused]
      exact first

end Bridge

end ScriptGate
