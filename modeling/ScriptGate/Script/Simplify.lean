import ScriptGate.Script.Simplify.Statement

/-!
Simplification of scripts.

The rules are tied together over the depth to which constructs are nested. The body of a script and that of each
function are simplified for themselves; a function knows the constants from outside of the script, but not
those of the script.
-/

namespace ScriptGate.Script

namespace Simplifier

/-- Leaves everything as it is. -/
def idle : Simplifier := ⟨pure, fun _ => pure, fun _ _ _ => pure⟩

/-- Simplifies constructs that nest less deep than the fuel; a text may not become longer than
`limit` bytes, unless that is zero. -/
def toDepth (limit : Nat) : (fuel : Nat) → Simplifier
  | 0 => idle
  | fuel + 1 =>
    { expression := fun e => (toDepth limit fuel).expressionOf limit e
      statement := fun keep s => (toDepth limit fuel).statementOf keep s
      block := fun keep inside whole body =>
        (toDepth limit fuel).blockOf fuel keep inside whole body }

/-- The statements of a script or of a function, simplified where the given names are in reach. -/
def body (limit fuel : Nat) (names : List (String × Option Literal)) (statements : List Statement) :
    List Statement :=
  (((toDepth limit fuel).block true false true statements).run ⟨names, false⟩).1

end Simplifier

end ScriptGate.Script
