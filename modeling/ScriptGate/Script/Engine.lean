import ScriptGate.Script.Evaluate
import ScriptGate.Script.Simplify
import ScriptGate.Script.Tree.Statement
import ScriptGate.Turn

/-!
A script engine with a memory.

The variables that a source defines at its top and the functions that it defines are there for the sources
and the calls after it, also if the source ended in a fault. A source that is not understood
leaves no trace.
-/

namespace ScriptGate.Script

structure Engine where
  settings : Settings
  /-- How many operations fit into the time limit. -/
  patience : Nat
  /-- The variables, the latest first. -/
  scope : List Variable
  cells : Array Cell
  functions : Functions

namespace Engine

/-- The operations that are taken to fit into a millisecond. -/
def operationsPerMs : Nat := 10000

/-- An engine without variables and functions. -/
def new (settings : Settings) : Engine :=
  ⟨settings, settings.timeoutMs * operationsPerMs, [], #[], []⟩

/-- The state in which a run begins. -/
def start (scope : List Variable) (e : Engine) : State :=
  ⟨scope, none, e.cells, 0, [], [], false⟩

/-- The names of the engine's variables, and the values of those that are constant. -/
def names (e : Engine) : List (String × Option Literal) :=
  let s := e.start e.scope
  e.scope.map fun v =>
    (v.name, if (Run.made? s v).isSome then (Run.read s v.slot).toLiteral? else none)

/-- The statements of a script or of a function, simplified; `length` is that of the source. -/
def simplify (e : Engine) (length : Nat) (body : List Statement) : List Statement :=
  Simplifier.body e.settings.maxStringLen (16 * length + 64) e.names body

/-- Reads a source with the variables of the engine in reach. -/
def compile (source : String) (e : Engine) : Except CompileError Tree :=
  let simplify := e.simplify source.length
  let grammar : Grammar :=
    ⟨e.settings.maxExprDepth, e.settings.maxCollectionLen, e.scope.map Variable.name, simplify⟩
  (Tree.parse grammar e.settings.maxStringLen source).map fun script =>
    ⟨simplify script.body, script.functions.map fun f => { f with body := simplify f.body }⟩

/-- The surroundings of a run with these functions. -/
def env (functions : Functions) (atTop : Bool) (e : Engine) : Env :=
  ⟨e.settings, e.patience, functions, 0, atTop⟩

/-- The result of a run. -/
def result : Stop → Except Error Value
  | .fault e => .error e
  | .giveBack v | .exit v | .leave v => .ok v
  | .next => .ok .unit

/-- The turn of an engine that a run makes; `keep` says which variables stay. -/
def turn (keep : List Variable → List Variable) (e : Engine) :
    EStateM.Result Stop State Value → Turn Engine (Except Error Value)
  | .ok v s =>
    ⟨.ok v, { e with scope := keep s.scope, cells := s.cells }, s.remarks.reverse.map Remark.event⟩
  | .error stop s =>
    ⟨result stop, { e with scope := keep s.scope, cells := s.cells },
      s.remarks.reverse.map Remark.event⟩

/-- Runs a script. -/
def run (script : Tree) (e : Engine) : Turn Engine (Except Error Value) :=
  let e := { e with functions := e.functions.extend script.functions }
  e.turn id (Eval.statements Eval.full (e.env e.functions true) script.body (e.start e.scope))

/-- Runs a source; a fault is answered as its text. -/
def evaluate (source : String) (e : Engine) : Turn Engine (Except String Value) :=
  match e.compile source with
  | .ok script => (e.run script).map fun result => result.mapError Error.message
  | .error cause => .quiet (.error cause.message) e

/-! ## Calls from outside -/

/-- The body of a function, as it runs for a caller outside of all scripts: with the variables of the
engine in reach. -/
def body (f : Function) (env : Env) : Run Value := do
  Run.tick env none
  Eval.statements Eval.full env f.body

/-- A fault of the outermost call: a limit has no place there. -/
def unplaced (e : Error) : Error := if e.endsRun then e.atPlace none else e

/-- Calls a function of the engine. What it defines ends with it. -/
def call (f : Function) (args : List Value) (e : Engine) : Turn Engine (Except Error Value) :=
  let scope := Eval.bind f (args.map .own) ++ e.scope
  let keep (scope : List Variable) := scope.drop (scope.length - e.scope.length)
  (e.turn keep (body f (e.env e.functions false) (e.start scope))).map
    fun result => result.mapError unplaced

/-- Calls the function with that name and that number of parameters; a fault is answered as its text. -/
def invoke (name : String) (args : List Value) (e : Engine) : Turn Engine (Except String Value) :=
  match e.functions.find? name args.length with
  | some f => (e.call f args).map fun result => result.mapError Error.message
  | none => .quiet (.error (Error.plain (.functionNotFound name) none).message) e

end Engine

end ScriptGate.Script
