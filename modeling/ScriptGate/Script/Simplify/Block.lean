import ScriptGate.Script.Simplify.Basic

/-!
Simpler blocks.

Blocks without definitions of their own are taken apart, what is behind the end of a block is dropped, and so is
what does nothing. All of that is repeated for as long as it changes anything.
-/

namespace ScriptGate.Script

namespace Simplifier

open Simplify

/-! ## Taking blocks apart -/

/-- Whether a statement is a block that can be taken apart. -/
def isOpenBlock : Statement → Bool
  | .block body _ => !body.any Statement.needsBlock
  | _ => false

mutual

/-- What a statement is in place of itself. -/
def flat : Statement → List Statement
  | .block body p => if body.any Statement.needsBlock then [.block body p] else flatAll body
  | s => [s]

/-- Statements with the blocks among them taken apart. -/
def flatAll : List Statement → List Statement
  | [] => []
  | s :: rest => flat s ++ flatAll rest

end

/-! ## Leaving out -/

/-- The statements up to the one that ends the block. -/
def untilEnd : List Statement → List Statement
  | [] => []
  | s :: rest => if s.endsBlock then [s] else s :: untilEnd rest

/-- Whether a statement counts as done for those before it: it does something, or it has a value that
is not known, or it defines a name with a value that is. -/
def counts (idle : Statement → Bool) : Statement → Bool
  | .define name constant value p =>
    !idle (.define name constant value p) || (value.map Expr.known?).all Option.isSome
  | .expression e => !idle (.expression e) || e.known?.isNone
  | s => !idle s

/-- Where the last statement that counts stands. -/
def lastThatCounts (idle : Statement → Bool) (body : List Statement) : Nat :=
  match body.reverse.findIdx? (counts idle) with
  | some n => body.length - n - 1
  | none => 0

/-- The statements without those that do nothing. `index` is where the first one stands, and `bound`
where the last one that counts stands; what is only idle inside the block goes from there on. -/
def prune (idle : Statement → Bool) (keep : Bool) :
    (index bound : Nat) → List Statement → List Statement
  | _, _, [] => []
  | index, bound, s :: rest =>
    if keep && rest.isEmpty then [s]
    else if idle s && bound ≤ index then prune idle keep index bound rest
    else if s.isPure then prune idle keep index (if index < bound then bound - 1 else bound) rest
    else s :: prune idle keep (index + 1) bound rest

/-- The other end that a block gets whose value counts, from its last statement back: one that gives back a
value becomes that value, and one that does nothing goes, unless a value stands before it that is not to
be that of the block. -/
def endKept? (idle : Statement → Bool) (whole : Bool) : List Statement → Option (List Statement)
  | [] => none
  | [.giveBack value _] =>
    if whole then some (value.toList.map .expression) else none
  | [s] => if !s.hasValue && idle s then some [] else none
  | .giveBack value p :: before :: rest =>
    if !whole then none
    else match value with
      | some e => some (.expression e :: before :: rest)
      | none =>
        if before.hasValue then some (.pass p :: before :: rest)
        else some ((endKept? idle whole (before :: rest)).getD (before :: rest))
  | .pass _ :: before :: rest =>
    if before.hasValue then none
    else some ((endKept? idle whole (before :: rest)).getD (before :: rest))
  | last :: before :: rest =>
    if last.hasValue || !idle last then none
    else if before.hasValue then some (.pass last.pos :: before :: rest)
    else some ((endKept? idle whole (before :: rest)).getD (before :: rest))

/-- Whether a statement at the end of a block does nothing for one who does not ask for its value. -/
def isIdleEnd (idle : Statement → Bool) (whole : Bool) : Statement → Bool
  | .giveBack none _ => whole
  | .giveBack (some e) _ => whole && e.isPure
  | s => idle s

/-! ## The block -/

variable (r : Simplifier)

/-- Simplifies the statements of a block one after the other, and makes known what they define. -/
def each (keep : Bool) : List Statement → Simplify (List Statement)
  | [] => return []
  | .define name constant value p :: rest => do
    let value ← value.mapM r.expression
    let known := match value with
      | some e => e.known?
      | none => some .unit
    define name (if constant then known else none)
    return .define name constant value p :: (← each keep rest)
  | s :: rest => do
    let s ← r.statement keep s
    return s :: (← each keep rest)

/-- Goes on with what is left of a block. -/
def shorter (before after : List Statement) : Simplify (List Statement) := do
  if after.length < before.length then touch
  return after

/-- Goes through a block once. -/
def round (keep inside whole : Bool) (body : List Statement) : Simplify (List Statement) := do
  let names := (← get).names
  let idle := if inside then Statement.isPureInside else Statement.isPure
  let body ← shorter body (untilEnd body)
  let body ← each r keep body
  let body ← shorter body (prune idle keep 0 (lastThatCounts idle body) body)
  let back := body.reverse
  let back ←
    if keep then
      match endKept? idle whole back with
      | some back => changed back
      | none => pure back
    else shorter back (back.dropWhile (isIdleEnd idle whole))
  modify fun s => { s with names := names }
  return back.reverse

/-- Goes through a block until that changes nothing. -/
def rounds (keep inside whole : Bool) : (fuel : Nat) → List Statement → Simplify (List Statement)
  | 0, body => return body
  | fuel + 1, body => do
    modify fun s => { s with changed := false }
    let body ← round r keep inside whole body
    if (← get).changed then
      let body ← rounds keep inside whole fuel body
      changed body
    else return body

/-- Simplifies a block. -/
def blockOf (fuel : Nat) (keep inside whole : Bool) (body : List Statement) :
    Simplify (List Statement) := do
  if body.isEmpty then return []
  let before := (← get).changed
  let flattened := body.any isOpenBlock
  let body ← rounds r keep inside whole fuel (flatAll body)
  if before || flattened then touch
  return body

end Simplifier

end ScriptGate.Script
