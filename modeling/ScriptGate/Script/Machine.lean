import ScriptGate.Event
import ScriptGate.Script.Library
import ScriptGate.Settings

/-!
The machine that runs scripts: variables, the cells that anonymous functions share, and the count
of operations.

A variable owns its value until an anonymous function captures it; from then on the value lives in a
cell that both refer to. A constant remembers what it was made with, since nothing of that can change, while
entries that it gets later can. A run ends with a value or is stopped, and its state is kept in
either case, so what a script did before a fault stays done. Every run takes operations from two
budgets: the one of the settings, and the patience that stands for the time limit. What a library function
calls takes none in the end. A run remembers that it exceeded a limit, since it may go on after that: a
fault that a library function has passed on can be caught, and one of a comparison is no difference.
-/

namespace ScriptGate.Script

/-- Where the value of a variable is. -/
inductive Slot where
  | own (value : Value)
  | shared (cell : Nat)

structure Variable where
  name : String
  slot : Slot
  /-- What a constant was made with. -/
  made : Option Value

/-- A value that variables share. -/
structure Cell where
  value : Value
  /-- What a constant was made with. -/
  made : Option Value

/-- What a function is called on. -/
structure Receiver where
  value : Value
  /-- What the value was made with, if it is part of a constant. -/
  made : Option Value

/-- What a script says while it runs. -/
inductive Remark where
  /-- A text that it prints. -/
  | printed (text : String)
  /-- A value that it shows for debugging; the place is that of the call. -/
  | shown (text place : String)

/-- A remark as an event of the log. -/
def Remark.event : Remark → Event
  | .printed text => .printed text
  | .shown text place => .shown text place

structure State where
  /-- The variables in reach, innermost first. -/
  scope : List Variable
  /-- What `this` stands for. -/
  this : Option Receiver
  cells : Array Cell
  /-- How many operations the run took so far. -/
  operations : Nat
  /-- What the script said, latest first. -/
  remarks : List Remark
  /-- The constants that the run defined at its top, latest first. -/
  constants : List (String × Value)
  /-- Whether the run exceeded a limit, be it that it went on. -/
  exceeded : Bool

/-- Why evaluation does not go on where it is. -/
inductive Stop where
  | fault (e : Error)
  /-- The loop around is left with a value. -/
  | leave (value : Value)
  /-- The loop around goes on with its next turn. -/
  | next
  /-- The function around gives back a value. -/
  | giveBack (value : Value)
  /-- The whole run ends with a value. -/
  | exit (value : Value)

abbrev Run := EStateM Stop State

/-- What stays the same while a function runs. -/
structure Env where
  settings : Settings
  /-- How many operations may be taken before the time is up. -/
  patience : Nat
  functions : Functions
  /-- How many calls of script functions are going on. -/
  level : Nat
  /-- Whether the statements are those of the script itself. -/
  atTop : Bool

namespace Run

/-- Stops with a fault. -/
def raise {α : Type} (e : Error) : Run α := fun s =>
  .error (.fault e) { s with exceeded := s.exceeded || e.isLimit }

/-- Stops with a fault that has a cause. -/
def fail {α : Type} (cause : ErrorCause) (p : Option Position) : Run α := raise (.plain cause p)

/-- A value, or a fault at a place. -/
def ofResult (p : Option Position) : Except ErrorCause Value → Run Value
  | .ok v => return v
  | .error cause => fail cause p

/-- Notes a remark. -/
def say (r : Remark) : Run Unit := modify fun s => { s with remarks := r :: s.remarks }

/-! ## Limits -/

/-- Takes an operation. -/
def tick (env : Env) (p : Option Position) : Run Unit := do
  let taken := (← get).operations + 1
  modify fun s => { s with operations := taken }
  if 0 < env.settings.maxOperations ∧ env.settings.maxOperations < taken then
    fail .tooManyOperations p
  else if env.patience < taken then fail (.timedOut env.settings.timeoutMs) none

/-- Which limit a size exceeds. -/
def excess? (settings : Settings) (size : Value.Size) : Option Bulk :=
  if 0 < settings.maxStringLen ∧ settings.maxStringLen < size.bytes then some .text
  else if 0 < settings.maxCollectionLen ∧ settings.maxCollectionLen < size.items then some .items
  else if 0 < settings.maxCollectionLen ∧ settings.maxCollectionLen < size.entries then some .entries
  else none

/-- The fault of a size, if it exceeds a limit. -/
def sizeFault? (env : Env) (size : Value.Size) (p : Option Position) : Option Error :=
  (excess? env.settings size).map fun what => .plain (.tooLarge what) p

/-- Lets a size pass that exceeds no limit. -/
def checkSize (env : Env) (size : Value.Size) (p : Option Position) : Run Unit :=
  match sizeFault? env size p with
  | some e => raise e
  | none => return ()

/-- Lets a value pass whose size exceeds no limit. -/
def checked (env : Env) (p : Option Position) (v : Value) : Run Value := do
  checkSize env v.size p
  return v

/-! ## Variables -/

/-- The value in a slot. -/
def read (s : State) : Slot → Value
  | .own v => v
  | .shared cell => (s.cells[cell]?.map Cell.value).getD .unit

/-- What a variable was made with, if it is constant. A cell is constant for all that share it. -/
def made? (s : State) (x : Variable) : Option Value :=
  match x.slot with
  | .own _ => x.made
  | .shared cell => s.cells[cell]?.bind Cell.made

/-- The innermost variable of that name. -/
def lookup? (name : String) : Run (Option Variable) :=
  return (← get).scope.find? (·.name = name)

/-- Adds a variable. -/
def define (name : String) (value : Value) (constant : Bool) : Run Unit :=
  let made := if constant then some value else none
  modify fun s => { s with scope := ⟨name, .own value, made⟩ :: s.scope }

/-- A scope in which the innermost variable of that name has another slot. -/
def withSlot (name : String) (slot : Slot) : List Variable → List Variable
  | [] => []
  | v :: rest =>
    if v.name = name then { v with slot := slot } :: rest else v :: withSlot name slot rest

/-- Gives the innermost variable of that name a value. -/
def store (name : String) (value : Value) : Run Unit :=
  modify fun s =>
    match (s.scope.find? (·.name = name)).map Variable.slot with
    | some (.own _) => { s with scope := withSlot name (.own value) s.scope }
    | some (.shared cell) => { s with cells := s.cells.modify cell fun c => { c with value := value } }
    | none => s

/-- The cell of the innermost variable of that name, which it gets if it has none. -/
def share? (name : String) : Run (Option Nat) := do
  match ← lookup? name with
  | none => return none
  | some v =>
    match v.slot with
    | .shared cell => return some cell
    | .own value =>
      let s ← get
      let cell := s.cells.size
      set { s with
        cells := s.cells.push ⟨value, v.made⟩
        scope := withSlot name (.shared cell) s.scope }
      return some cell

/-! ## Regions -/

/-- Runs a block: the variables that it defines end with it. -/
def inBlock {α : Type} (body : Run α) : Run α := fun s =>
  let depth := s.scope.length
  let rewind (s : State) : State := { s with scope := s.scope.drop (s.scope.length - depth) }
  match body s with
  | .ok a s => .ok a (rewind s)
  | .error e s => .error e (rewind s)

/-- Runs something whose operations are given back at its end. -/
def aside {α : Type} (body : Run α) : Run α := fun s =>
  let giveBack (t : State) : State := { t with operations := s.operations }
  match body s with
  | .ok a t => .ok a (giveBack t)
  | .error e t => .error e (giveBack t)

/-- Runs a function body with its own variables and its own `this`, and answers how it ended and
what `this` stands for at the end. -/
def inFrame {α : Type} (locals : List Variable) (this : Option Receiver) (body : Run α) :
    Run (Except Stop α × Option Value) := fun s =>
  let leave (result : Except Stop α) (t : State) : EStateM.Result Stop State _ :=
    .ok (result, t.this.map Receiver.value) { t with scope := s.scope, this := s.this }
  match body { s with scope := locals, this := this } with
  | .ok a t => leave (.ok a) t
  | .error e t => leave (.error e) t

/-! ## Loops -/

/-- Takes turns until one of them ends the loop, at most as many as there is fuel for. -/
def turns (env : Env) (turn : Run (Option Value)) : (fuel : Nat) → Run Value
  | 0 => fail (.timedOut env.settings.timeoutMs) none
  | fuel + 1 => fun s =>
    match turn s with
    | .ok none s => turns env turn fuel s
    | .ok (some v) s => .ok v s
    | .error e s => .error e s

/-- A turn of a loop: whether it ends the loop, and with what value. -/
def turn (body : Run Value) : Run (Option Value) := fun s =>
  match body s with
  | .ok _ s => .ok none s
  | .error .next s => .ok none s
  | .error (.leave v) s => .ok (some v) s
  | .error e s => .error e s

end Run

end ScriptGate.Script
