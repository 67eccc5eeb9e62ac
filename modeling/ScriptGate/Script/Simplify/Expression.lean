import ScriptGate.Script.Simplify.Basic
import ScriptGate.Script.Token

/-!
Simpler expressions.

An operator that is at hand everywhere is applied to operands that are known, unless that is a fault: faults
are left to the run. A part is taken out of a collection that stands in the source, if
nothing else in it does anything. Constants give way to their values.
-/

namespace ScriptGate.Script

namespace Simplifier

open Simplify

/-- The same expression at another place. -/
def relocate (p : Position) : Expr → Expr
  | .literal v _ => .literal v p
  | .variable name _ => .variable name p
  | .global name _ => .global name p
  | .this _ => .this p
  | .array items _ => .array items p
  | .object entries _ => .object entries p
  | .unary op operand _ => .unary op operand p
  | .binary op left right _ => .binary op left right p
  | .lazy op left right _ => .lazy op left right p
  | .member item container negated _ => .member item container negated p
  | .call name args _ => .call name args p
  | .closure captured params body _ => .closure captured params body p
  | .block body _ => .block body p
  | .chain root links => .chain root links

/-! ## Operators -/

/-- What an operator makes of two values that are known, if that is no fault; a text may not have more
than `limit` bytes, unless that is zero. -/
def fold? (limit : Nat) (op : Binary) (a b : Literal) : Option Literal :=
  match Operator.builtin? op (Value.ofLiteral a) (Value.ofLiteral b) with
  | some (.ok (.text s)) => if 0 < limit ∧ limit < s.utf8ByteSize then none else some (.text s)
  | some (.ok v) => v.toLiteral?
  | _ => none

variable (limit : Nat) (r : Simplifier)

/-- Simplifies an operator between two operands. -/
def binary (op : Binary) (left right : Expr) (p : Position) : Simplify Expr := do
  match left.known?, right.known? with
  | some a, some b =>
    if let some v := fold? limit op a b then return ← changed (.literal v p)
  | _, _ => pure ()
  return .binary op (← r.expression left) (← r.expression right) p

/-- Simplifies an operator whose second operand may be left alone. -/
def lazy (op : Lazy) (left right : Expr) (p : Position) : Simplify Expr := do
  match op, left, right with
  | .and, .literal (.boolean true) _, right | .or, .literal (.boolean false) _, right =>
    touch
    r.expression right
  | .and, .literal (.boolean false) q, _ => changed (.literal (.boolean false) q)
  | .or, .literal (.boolean true) q, _ => changed (.literal (.boolean true) q)
  | .and, left, .literal (.boolean true) _ | .or, left, .literal (.boolean false) _ =>
    touch
    r.expression left
  | .coalesce, .literal .unit _, right => changed right
  | .coalesce, left, right =>
    if left.known?.isSome then changed left
    else return .lazy .coalesce (← r.expression left) (← r.expression right) p
  | op, left, right => return .lazy op (← r.expression left) (← r.expression right) p

/-! ## Chains -/

/-- Simplifies the arguments of a link. -/
def link : Link → Simplify Link
  | .property name p joint => return .property name p joint
  | .index key joint => return .index (← r.expression key) joint
  | .method name args p joint => return .method name (← args.mapM r.expression) p joint

/-- The part that the only link of a chain takes out of what stands in the source. -/
def part? : Expr → Link → Option Expr
  | .object entries p, .property name _ _ | .object entries p, .index (.literal (.text name) _) _ =>
    if areEntriesPure entries then
      some (((entries.lookup name).map (relocate p)).getD (.literal .unit p))
    else none
  | .array items p, .index (.literal (.integer i) _) _ =>
    if arePure items then (Library.index? items.length i).bind fun n => items[n]?.map (relocate p)
    else none
  | .literal (.integer n) p, .index (.literal (.integer i) _) _ =>
    (Library.index? 64 i).map fun place =>
      .literal (.boolean ((n &&& Int64.ofInt (Int.pow 2 place)) ≠ 0)) p
  | .literal (.text s) p, .index (.literal (.integer i) _) _ =>
    (Library.index? s.length i).bind fun n => s.toList[n]?.map fun c => .literal (.character c) p
  | root, .method "type_of" [] p _ =>
    root.known?.map fun v => .literal (.text (Value.ofLiteral v).kind) p
  | _, _ => none

/-- Simplifies a chain. -/
def chain (root : Expr) (links : List Link) : Simplify Expr := do
  match root, links with
  | .literal .unit p, first :: _ =>
    if first.joint.optional then return ← changed (.literal .unit p)
  | root, [only] =>
    if let some e := part? root only then return ← changed e
  | _, _ => pure ()
  match root with
  | .variable .. | .this _ => return .chain root (← links.mapM (link r))
  | root => return .chain (← r.expression root) (← links.mapM (link r))

/-! ## Functions -/

/-- Whether a function can have the name. -/
def isFunctionName (name : String) : Bool :=
  isNameShaped name && !isReservedText name

/-- Simplifies a call. -/
def call (name : String) (args : List Expr) (p : Position) : Simplify Expr := do
  match name, args with
  | "Fn", [.literal (.text name) q] =>
    if isFunctionName name then changed (.literal (.function name) p)
    else return .call "Fn" [.literal (.text name) q] p
  | "type_of", [e] =>
    match e.known? with
    | some v => changed (.literal (.text (Value.ofLiteral v).kind) p)
    | none => return .call name [← r.expression e] p
  | name, args => return .call name (← args.mapM r.expression) p

/-- Binds what an anonymous function captures to the values that are known. -/
def capture : String × Option Literal → Simplify (String × Option Literal)
  | (name, some v) => return (name, some v)
  | (name, none) => do
    match ← value? name with
    | some v => changed (name, some v)
    | none => return (name, none)

/-! ## The expression -/

/-- Simplifies statements in the place of an expression. -/
def blockExpression (body : List Statement) (p : Position) : Simplify Expr := do
  match body with
  | [] => changed (.literal .unit p)
  | [.expression e] =>
    touch
    r.expression e
  | body =>
    match ← r.block true true false body with
    | [.expression e] => changed e
    | body => return .block body p

/-- Simplifies an expression. -/
def expressionOf (e : Expr) : Simplify Expr := do
  match e with
  | .block body p => blockExpression r body p
  | .chain root links => chain r root links
  | .array items p =>
    match e.known? with
    | some v => changed (.literal v p)
    | none => return .array (← items.mapM r.expression) p
  | .object entries p =>
    match e.known? with
    | some v => changed (.literal v p)
    | none => return .object (← entries.mapM fun (name, e) => return (name, ← r.expression e)) p
  | .lazy op left right p => lazy r op left right p
  | .unary .not (.literal (.boolean b) q) _ => changed (.literal (.boolean !b) q)
  | .unary op operand p => return .unary op (← r.expression operand) p
  | .binary op left right p => binary limit r op left right p
  | .member item container negated p =>
    return .member (← r.expression item) (← r.expression container) negated p
  | .call name args p => call r name args p
  | .closure captured params body p => return .closure (← captured.mapM capture) params body p
  | .variable name p =>
    match ← value? name with
    | some v => changed (.literal v p)
    | none => return e
  | .literal .. | .global .. | .this _ => return e

end Simplifier

end ScriptGate.Script
