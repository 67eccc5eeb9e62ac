import ScriptGate.Script.Library.Basic
import ScriptGate.Script.Simplify.Purity

/-!
What the rules of simplification have in common.

A script is made simpler before it runs, until no rule has anything left to change. The rules know the values
of constants in reach. As for evaluation, each rule simplifies the parts of a construct by means of a
simplifier that is given to it, so that a rule is an ordinary function.
-/

namespace ScriptGate.Script

/-- What a simplification knows, and whether it changed anything. -/
structure Progress where
  /-- The names in reach, the latest first, and the values of the constants whose values are known. -/
  names : List (String × Option Literal)
  changed : Bool

abbrev Simplify := StateM Progress

/-- A way to simplify the parts of a construct. -/
structure Simplifier where
  expression : Expr → Simplify Expr
  /-- A statement; `keep` tells that its value counts. -/
  statement : (keep : Bool) → Statement → Simplify Statement
  /-- The statements of a block; `inside` tells that names defined in it end with it, and `whole`
  that they are all that a function does. -/
  block : (keep inside whole : Bool) → List Statement → Simplify (List Statement)

namespace Simplify

/-- Notes that something was changed. -/
def touch : Simplify Unit := modify fun s => { s with changed := true }

/-- Makes a name known. -/
def define (name : String) (value : Option Literal) : Simplify Unit :=
  modify fun s => { s with names := (name, value) :: s.names }

/-- The value of a constant, where it is known. -/
def value? (name : String) : Simplify (Option Literal) := return ((← get).names.lookup name).join

/-- A changed result. -/
def changed {α : Type} (a : α) : Simplify α := do
  touch
  return a

end Simplify

end ScriptGate.Script
