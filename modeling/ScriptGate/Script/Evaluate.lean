import ScriptGate.Script.Evaluate.Statement

/-!
Evaluation.

The rules are tied together over the depth to which constructs and calls are nested. Of two levels, one
inside the other, at least one takes an operation of its own, so a depth beyond twice the
patience of the run is never reached.
-/

namespace ScriptGate.Script

namespace Eval

/-- One level of evaluation, by means of an evaluator for the levels inside. -/
def step (ev : Eval) : Eval := fun env task =>
  match task with
  | .expression e => evaluate ev env e
  | .statement s => execute ev env s

/-- Evaluation to a depth. -/
def toDepth : Nat → Eval
  | 0 => fun env _ => Run.fail (.timedOut env.settings.timeoutMs) none
  | depth + 1 => step (toDepth depth)

/-- Evaluation to the depth that the patience allows. -/
def full : Eval := fun env task => toDepth (2 * env.patience + 3) env task

end Eval

end ScriptGate.Script
