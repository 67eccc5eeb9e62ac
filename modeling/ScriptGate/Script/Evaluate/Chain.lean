import ScriptGate.Script.Evaluate.Invocation
import ScriptGate.Script.Part

/-!
Chains: property access, indexing and method calls on one value.

The arguments of all links have values before the first link is followed. What a link does to its part
is done to the whole, link by link back to the root, also where a later link fails.
-/

namespace ScriptGate.Script

/-- A link whose arguments have values. -/
inductive Step where
  | property (name : String) (pos : Position) (optional : Bool)
  | index (key : Value) (pos joint : Position) (optional : Bool)
  /-- `first` is the place of the first argument. -/
  | method (name : String) (args : List Value) (pos first : Position) (optional : Bool)

/-- Whether a step ends the chain at a unit value. -/
def Step.optional : Step → Bool
  | .property _ _ optional => optional
  | .index _ _ _ optional => optional
  | .method _ _ _ _ optional => optional

/-- The place of a link itself. -/
def Link.pos : Link → Position
  | .property _ p _ => p
  | .index key _ => key.pos
  | .method _ _ p _ => p

/-- A value at the root of a chain or further on. -/
structure Held where
  value : Value
  /-- What the value was made with, if it is part of a constant. -/
  made : Option Value

namespace Called

/-- What is done to a part, as done to the whole. -/
def within (part : Part) (p : Position) (c : Called) : Called :=
  match c.target, part.put? with
  | some v, some put =>
    match put v with
    | .ok whole => ⟨c.outcome, some whole⟩
    | .error cause =>
      match c.outcome with
      | .ok _ => .fault cause p
      | .error _ => ⟨c.outcome, none⟩
  | _, _ => ⟨c.outcome, none⟩

end Called

namespace Eval

variable (ev : Eval) (env : Env)

/-! ## Arguments -/

/-- Gives the arguments of a link their values. -/
def stepOf : Link → Run Step
  | .property name p joint => return .property name p joint.optional
  | .index e joint => return .index (← expression ev env e) e.first joint.pos joint.optional
  | .method name args p joint =>
    return .method name (← arguments ev env args) p ((args.head?.map Expr.first).getD p)
      joint.optional

/-- Gives the arguments of links their values, from left to right. Each link takes an operation for that, which
is counted where the next one is attached. -/
def stepsOf : List Link → Run (List Step)
  | [] => return []
  | link :: rest => do
    Run.tick env (some ((rest.head?.map fun next => next.joint.pos).getD link.pos))
    let step ← stepOf ev env link
    return step :: (← stepsOf rest)

/-- Gives the arguments of a chain their values. A single link without arguments that are still to be
evaluated takes no operation. -/
def steps : List Link → Run (List Step)
  | [.property name p joint] => return [.property name p joint.optional]
  | [.method name [] p joint] => return [.method name [] p p joint.optional]
  | [.index e joint] =>
    match e.known? with
    | some v => return [.index (.ofLiteral v) e.first joint.pos joint.optional]
    | none => stepsOf ev env [.index e joint]
  | links => stepsOf ev env links

/-! ## Methods -/

/-- Calls a function in an entry of an object, or by its name. A library function cannot change a
constant. -/
def callMethod (held : Held) (name : String) (args : List Value) (p : Position) : Run Called := do
  let this : Receiver := ⟨held.value, held.made⟩
  let entry := match held.value with
    | .object entries => Entries.get? entries name
    | _ => none
  match entry, env.functions.find? name args.length with
  | some f@(Value.function ..), _ => callPointer ev env f args (some this) (some p)
  | _, some f => callByName ev env f args (some this) (some p)
  | _, none =>
    let called ← callNative ev env name (held.value :: args) (some p)
    if held.made.isSome && called.target.isSome then return .fault (.constantCalled name) p
    return called

/-- Evaluates a method call; `first` is the place of the first argument. -/
def method (held : Held) (name : String) (args : List Value) (p first : Position) : Run Called :=
  match name, held.value, args with
  | "call", f@(.function ..), args => callPointer ev env f args none (some p)
  | "call", v, [] => return .fault (.typeMismatch v.kind "Fn") p
  | "call", v, f@(.function ..) :: args =>
    callPointer ev env f args (some ⟨v, held.made⟩) (some p)
  | "call", _, other :: _ => return .fault (.typeMismatch other.kind "Fn") first
  | "curry", .function name body cells bound, args =>
    return .answer (.function name body cells (bound ++ args))
  | "curry", v, _ => return .fault (.typeMismatch v.kind "Fn") p
  | name, _, args => callMethod ev env held name args p

/-! ## Following a chain -/

/-- Takes the operation of a part, which has no place unless the part is computed. -/
def tickPart (whole : Value) (step : Step) : Run Unit :=
  match step, whole with
  | .property .., .object _ | .index .., _ => Run.tick env none
  | .property _ p _, _ => Run.tick env (some p)
  | .method .., _ => return ()

/-- Goes on from a part, and does to the whole what is done to the part. -/
def throughPart (held : Held) (onward : Held → Run Called) (p : Position)
    (look : Value → Except Error Part) : Run Called :=
  match look held.value with
  | .error e => return ⟨.error (.fault e), none⟩
  | .ok part => return (← onward ⟨part.value, Part.made? look held.made⟩).within part p

/-- Takes one step and goes on from there. What a method answers is no part of what it is called on. -/
def enter (held : Held) (step : Step) (onward : Held → Run Called) : Run Called := do
  if step.optional && held.value.isUnit then return .answer .unit
  tickPart env held.value step
  match step with
  | .property name p _ => throughPart held onward p (Part.named · name p)
  | .index key q p _ => throughPart held onward q (Part.atIndex · key q p)
  | .method name args p first _ =>
    let called ← method ev env held name args p first
    match called.outcome with
    | .error _ => return called
    | .ok answer => return ⟨(← onward ⟨answer, none⟩).outcome, called.target⟩

/-- Follows a chain to its end. -/
def follow (held : Held) : List Step → Run Called
  | [] => return .answer held.value
  | step :: rest => Called.guard (enter ev env held step fun held => follow held rest)

/-! ## Chains and their roots -/

/-- Follows a chain from a variable, and stores what became of it. -/
def chainFromVariable (name : String) (q : Position) (onward : Held → Run Called) : Run Value := do
  Run.tick env (some q)
  match ← Run.lookup? name with
  | some x =>
    let s ← get
    let called ← onward ⟨Run.read s x.slot, Run.made? s x⟩
    match called.target with
    | some v => Run.store name v
    | none => pure ()
    called.finish
  | none =>
    match functionNamed? env name with
    | some f => (← onward ⟨f, none⟩).finish
    | none => Run.fail (.variableNotFound name) (some q)

/-- Follows a chain from what a function is called on, and keeps what became of it. -/
def chainFromThis (q : Position) (onward : Held → Run Called) : Run Value := do
  Run.tick env (some q)
  match (← get).this with
  | none => Run.fail .unboundThis (some q)
  | some this =>
    let called ← onward ⟨this.value, this.made⟩
    match called.target with
    | some v => modify fun s => { s with this := some { this with value := v } }
    | none => pure ()
    called.finish

/-- Evaluates a chain. -/
def chain (root : Expr) (links : List Link) : Run Value := do
  Run.tick env (some (Expr.chain root links).pos)
  let steps ← steps ev env links
  let onward (held : Held) : Run Called := follow ev env held steps
  match root with
  | .variable name q => chainFromVariable env name q onward
  | .this q => chainFromThis env q onward
  | root => (← onward ⟨← expression ev env root, none⟩).finish

end Eval

end ScriptGate.Script
