import ScriptGate.Script.Evaluate.Chain

/-!
Assignment.

The new value comes first, before anything of the target is evaluated. Constants cannot be assigned to, nor
can the items and entries that they were made with. The limits on sizes apply when the assignment is done; what
was assigned stays.
-/

namespace ScriptGate.Script

/-- What is assigned: a value, taken as it is or joined to the old one by an operator. -/
structure Assignment where
  op : Option Binary
  value : Value
  pos : Position
  /-- The variable that is assigned to, or whose part is; it is empty for any other value. -/
  root : String
  /-- Where the target begins. -/
  first : Position

namespace Assignment

/-- The fault of a cause at the operator. -/
def fault (a : Assignment) (cause : ErrorCause) : Error := .plain cause (some a.pos)

/-- The fault of assigning to a constant. -/
def refused (a : Assignment) : Called := .fault (.constantModified a.root) a.first

/-- The text that an addition of texts makes, unless it is longer than allowed. -/
def joined (a : Assignment) (env : Env) (old new : String) : Except Error Value :=
  let s := old ++ new
  match Run.sizeFault? env ⟨0, 0, s.utf8ByteSize⟩ (some a.pos) with
  | some e => if old.isEmpty || new.isEmpty then .ok (.text s) else .error e
  | none => .ok (.text s)

/-- What a value becomes. -/
def apply (a : Assignment) (env : Env) (old : Value) : Except Error Value :=
  match a.op with
  | none => .ok a.value
  | some op =>
    match op, old, a.value with
    | .add, .array items, .array more => .ok (.array (items ++ more))
    | .add, .array items, v => .ok (.array (items ++ [v]))
    | .add, .blob bytes, .blob more => .ok (.blob (bytes ++ more))
    | .add, .blob bytes, .integer n => .ok (.blob (bytes ++ [Library.byte n]))
    | .add, .blob bytes, .text s => .ok (.blob (bytes ++ s.toUTF8.toList))
    | .add, .blob bytes, .character c => .ok (.blob (bytes ++ c.toString.toUTF8.toList))
    | .add, .text old, .text new => a.joined env old new
    | .add, .text old, .character c => a.joined env old c.toString
    | op, old, new =>
      match Operator.binary? op old new with
      | some result => result.mapError a.fault
      | none => .error (a.fault (.unknownCall op.text [old, new]))

/-- How many functions of the library it takes to join the value to an old one: none if the kind of the old one
stays by itself, one if there is a function for the assignment, and else that one in vain and the operator. -/
def calls (a : Assignment) (old : Value) : Nat :=
  match a.op, old, a.value with
  | none, _, _ => 0
  | _, .integer _, .integer _ | _, .double _, .double _ | _, .double _, .integer _
  | _, .boolean _, .boolean _ | _, .text _, .text _ | _, .text _, .character _ => 0
  | some .add, .array _, _ | some .add, .blob _, _ => 0
  | some .add, .text _, _ | some .add, .object _, .object _ => 1
  | _, _, _ => 2

/-- How an assignment ends that made a whole what it is now. -/
def done (a : Assignment) (env : Env) (whole : Value) : Called :=
  match Run.sizeFault? env whole.size (some a.pos) with
  | some e => ⟨.error (.fault e), some whole⟩
  | none => ⟨.ok .unit, some whole⟩

/-- Assigns to a part. -/
def toPart (a : Assignment) (env : Env) (part : Part) : Called :=
  match a.apply env part.value with
  | .error e => ⟨.error (.fault e), none⟩
  | .ok v =>
    match part.put? with
    | some put =>
      match put v with
      | .ok whole => a.done env whole
      | .error cause => ⟨.error (.fault (a.fault cause)), none⟩
    | none => .answer .unit

/-- Assigns to an entry of an object, which gets it before the assignment if it has none; `fixed` tells that a
constant was made with the entry. -/
def toEntry (a : Assignment) (env : Env) (fixed : Bool) (entries : Entries) (name : String) :
    Called :=
  let old := entries.get? name
  if fixed then a.refused else
  match a.apply env (old.getD .unit) with
  | .error e => ⟨.error (.fault e), some (.object (entries.insert name (old.getD .unit)))⟩
  | .ok v => a.done env (.object (entries.insert name v))

/-- Assigns to a property, which only objects have. -/
def toProperty (a : Assignment) (env : Env) (whole : Value) (name : String) (p : Position) : Called :=
  match a.op, Part.named whole name p with
  | some _, .error e => ⟨.error (.fault e), none⟩
  | _, part =>
    let old := (part.map Part.value).toOption.getD .unit
    match a.apply env old with
    | .error e => ⟨.error (.fault e), none⟩
    | .ok v =>
      .fault (.noSetter name whole.kind v.kind) p

/-- What stands at the last step of a chain before the assignment. -/
def before (held : Held) (step : Step) : Value :=
  let part := match step with
    | .property name p _ => Part.named held.value name p
    | .index key q p _ => Part.atIndex held.value key q p
    | .method .. => .ok ⟨.unit, false, none⟩
  (part.map Part.value).toOption.getD .unit

/-- Assigns to the last step of a chain. -/
def toStep (a : Assignment) (env : Env) (held : Held) (step : Step) : Called :=
  if step.optional && held.value.isUnit then .answer .unit else
  let isFixed (look : Value → Except Error Part) : Bool := (Part.made? look held.made).isSome
  match step, held.value with
  | .property name p _, .object entries =>
    a.toEntry env (isFixed (Part.named · name p)) entries name
  | .index key@(.text name) q p _, .object entries =>
    a.toEntry env (isFixed (Part.atIndex · key q p)) entries name
  | .property name p _, whole => a.toProperty env whole name p
  | .index key q p _, whole =>
    match Part.atIndex whole key q p with
    | .error (.plain (.noIndexer signature) p) =>
      ⟨.error (.fault (.plain (.noIndexer (signature ++ " = " ++ a.value.kind)) p)), none⟩
    | .error e => ⟨.error (.fault e), none⟩
    | .ok part => if isFixed (Part.atIndex · key q p) then a.refused else a.toPart env part
  | .method .., whole => .answer whole

end Assignment

namespace Eval

variable (ev : Eval) (env : Env)

/-- Takes so many operations at the operator. -/
def tickCalls (a : Assignment) : Nat → Run Unit
  | 0 => return ()
  | n + 1 => do
    Run.tick env (some a.pos)
    tickCalls a n

/-- Assigns at the end of a chain. -/
def assignAlong (a : Assignment) (held : Held) : List Step → Run Called
  | [] => return .answer .unit
  | [last] => Called.guard do
    tickPart env held.value last
    tickCalls env a (a.calls (Assignment.before held last))
    (a.toStep env held last).noted
  | step :: rest =>
    Called.guard (enter ev env held step fun held => assignAlong a held rest)

/-- Assigns to a variable. -/
def assignVariable (a : Assignment) : Run Value := do
  Run.tick env (some a.first)
  match ← Run.lookup? a.root with
  | none => Run.fail (.variableNotFound a.root) (some a.first)
  | some x =>
    let s ← get
    if (Run.made? s x).isSome then a.refused.finish else
    let old := Run.read s x.slot
    tickCalls env a (a.calls old)
    match a.apply env old with
    | .error e => Run.raise e
    | .ok v =>
      Run.store a.root v
      (← (a.done env v).noted).finish

/-- Assigns to what a function is called on. -/
def assignThis (a : Assignment) : Run Value := do
  Run.tick env (some a.first)
  match (← get).this with
  | none => Run.fail .unboundThis (some a.first)
  | some this =>
    if this.made.isSome then a.refused.finish else
    tickCalls env a (a.calls this.value)
    match a.apply env this.value with
    | .error e => Run.raise e
    | .ok v =>
      modify fun s => { s with this := some { this with value := v } }
      (← (a.done env v).noted).finish

/-- Assigns at the end of a chain. -/
def assignChain (a : Assignment) (root : Expr) (links : List Link) : Run Value := do
  let steps ← steps ev env links
  let onward (held : Held) : Run Called := assignAlong ev env a held steps
  match root with
  | .variable name q => chainFromVariable env name q onward
  | .this q => chainFromThis env q onward
  | root => (← onward ⟨← expression ev env root, none⟩).finish

/-- Evaluates an assignment. -/
def assign (op : Option Binary) (target value : Expr) (p : Position) : Run Value := do
  let v ← expression ev env value
  match target with
  | .variable name q => assignVariable env ⟨op, v, p, name, q⟩
  | .this q => assignThis env ⟨op, v, p, "", q⟩
  | .chain (.variable name q) links =>
    assignChain ev env ⟨op, v, p, name, q⟩ (.variable name q) links
  | .chain root links => assignChain ev env ⟨op, v, p, "", root.first⟩ root links
  | _ => return .unit

end Eval

end ScriptGate.Script
