import ScriptGate.Script.Position

/-!
Script trees.

Everything that a script can be asked about later, such as the place of an operator or of an index, is
kept in the tree. Property access, indexing and method calls on one value form a
chain, because what the last link changes is written back through all the others.
-/

namespace ScriptGate.Script

/-- The operators between two operands, both of which are always evaluated. -/
inductive Binary where
  | add | subtract | multiply | divide | modulo | power | shiftLeft | shiftRight
  | equal | notEqual | less | lessEqual | greater | greaterEqual
  | bitAnd | bitOr | bitXor
  | rangeTo | rangeThrough
deriving DecidableEq, Repr

/-- The operators before one operand. -/
inductive Unary where
  | minus | plus | not
deriving DecidableEq, Repr

/-- The operators whose second operand is only evaluated if the first one leaves the result open. -/
inductive Lazy where
  | and | or | coalesce
deriving DecidableEq, Repr

/-- How a link of a chain is attached: an optional one ends the chain at a unit value. -/
structure Joint where
  optional : Bool
  pos : Position
deriving DecidableEq, Repr

mutual

/-- A value that is known before the script runs. -/
inductive Literal where
  | unit
  | boolean (b : Bool)
  | integer (n : Int64)
  | double (x : Float)
  | character (c : Char)
  | text (s : String)
  | array (items : List Literal)
  | object (entries : List (String × Literal))
  | range (first last : Int64) (inclusive : Bool)
  | byte (b : UInt8)
  | blob (bytes : List UInt8)
  | timestamp
  /-- A function by its name. -/
  | function (name : String)
  /-- An anonymous function that uses no names from around it. -/
  | closure (params : List String) (body : List Statement)

inductive Expr where
  | literal (value : Literal) (pos : Position)
  | variable (name : String) (pos : Position)
  /-- A constant of the run. -/
  | global (name : String) (pos : Position)
  | this (pos : Position)
  | array (items : List Expr) (pos : Position)
  | object (entries : List (String × Expr)) (pos : Position)
  | unary (op : Unary) (operand : Expr) (pos : Position)
  | binary (op : Binary) (left right : Expr) (pos : Position)
  | lazy (op : Lazy) (left right : Expr) (pos : Position)
  /-- Whether the container has the item. -/
  | member (item container : Expr) (negated : Bool) (pos : Position)
  | call (name : String) (args : List Expr) (pos : Position)
  | chain (root : Expr) (links : List Link)
  /-- An anonymous function that uses names from around it, which come before its parameters; a name
  may be bound to a value that is known. -/
  | closure (captured : List (String × Option Literal)) (params : List String)
      (body : List Statement) (pos : Position)
  /-- Statements in the place of an expression. -/
  | block (body : List Statement) (pos : Position)

inductive Link where
  | property (name : String) (pos : Position) (joint : Joint)
  | index (key : Expr) (joint : Joint)
  | method (name : String) (args : List Expr) (pos : Position) (joint : Joint)

inductive Statement where
  /-- Does nothing. -/
  | pass (pos : Position)
  | expression (value : Expr)
  | define (name : String) (constant : Bool) (value : Option Expr) (pos : Position)
  /-- Assigns to a variable, to `this`, or to the last link of a chain; `pos` is the operator's. -/
  | assign (op : Option Binary) (target value : Expr) (pos : Position)
  | block (body : List Statement) (pos : Position)
  /-- The place behind each of the two bodies is where it begins. -/
  | branch (condition : Expr) (yes : List Statement) (yesPos : Position) (no : List Statement)
      (noPos pos : Position)
  | switch (subject : Expr) (cases : List Case) (otherwise : Option Expr) (pos : Position)
  /-- Runs until it is left from inside; `brace` is where the body begins. -/
  | forever (body : List Statement) (brace pos : Position)
  | repeatWhile (condition : Expr) (body : List Statement) (brace pos : Position)
  /-- Runs the body before it asks; `goal` is the answer that lets it go on. -/
  | repeatAfter (body : List Statement) (condition : Expr) (goal : Bool) (pos : Position)
  | forEach (name : String) (counter : Option String) (source : Expr) (body : List Statement)
      (brace pos : Position)
  | leave (value : Option Expr) (pos : Position)
  | next (pos : Position)
  | giveBack (value : Option Expr) (pos : Position)
  | raise (value : Option Expr) (pos : Position)
  /-- Runs the handler if a fault leaves the body, which begins at `brace`. -/
  | attempt (body : List Statement) (name : Option String) (handler : List Statement)
      (brace pos : Position)

/-- A case of a switch: what it matches, a condition, and what it does. -/
inductive Case where
  | mk (keys : List Key) (condition : Option Expr) (action : Expr)

/-- What a case of a switch matches. -/
inductive Key where
  | value (v : Literal)
  | range (first last : Int64) (inclusive : Bool)

end

instance : Inhabited Expr := ⟨.literal .unit .start⟩
instance : Inhabited Statement := ⟨.expression default⟩

/-- A function of a script. -/
structure Function where
  name : String
  params : List String
  body : List Statement

/-- The functions of a script: a function is known by its name and its number of parameters. -/
abbrev Functions := List Function

namespace Functions

/-- The function of that name and number of parameters. -/
def find? (table : Functions) (name : String) (arity : Nat) : Option Function :=
  List.find? (fun f => f.name = name ∧ f.params.length = arity) table

/-- Adds a function, in place of the one with its name and number of parameters. -/
def insert (f : Function) (table : Functions) : Functions :=
  f :: table.filter fun g => !(g.name = f.name ∧ g.params.length = f.params.length)

/-- A table with the functions of a later one added. -/
def extend (table later : Functions) : Functions := later.foldr insert table

end Functions

/-! ## Spelling and places -/

/-- How an operator is spelled. -/
def Binary.text : Binary → String
  | .add => "+" | .subtract => "-" | .multiply => "*" | .divide => "/" | .modulo => "%"
  | .power => "**" | .shiftLeft => "<<" | .shiftRight => ">>" | .equal => "==" | .notEqual => "!="
  | .less => "<" | .lessEqual => "<=" | .greater => ">" | .greaterEqual => ">="
  | .bitAnd => "&" | .bitOr => "|" | .bitXor => "^" | .rangeTo => ".." | .rangeThrough => "..="

/-- How an operator is spelled. -/
def Unary.text : Unary → String
  | .minus => "-" | .plus => "+" | .not => "!"

namespace Link

/-- How a link is attached. -/
def joint : Link → Joint
  | .property _ _ joint => joint
  | .index _ joint => joint
  | .method _ _ _ joint => joint

end Link

/-- The place that stands for the whole expression. -/
def Expr.pos : Expr → Position
  | .literal _ p | .variable _ p | .global _ p | .this p | .array _ p
  | .object _ p | .unary _ _ p | .binary _ _ _ p | .lazy _ _ _ p | .member _ _ _ p | .call _ _ p
  | .closure _ _ _ p | .block _ p => p
  | .chain root [] => root.pos
  | .chain _ (link :: _) => link.joint.pos

/-- The place that an expression is reported at as a part of another one: where it begins, or that of
its operator. -/
def Expr.first : Expr → Position
  | .literal _ p | .variable _ p | .global _ p | .this p | .array _ p
  | .object _ p | .unary _ _ p | .binary _ _ _ p | .member _ _ _ p | .call _ _ p
  | .closure _ _ _ p | .block _ p => p
  | .lazy _ left _ _ => left.first
  | .chain root _ => root.first

/-- The place where a statement begins. -/
def Statement.pos : Statement → Position
  | .expression e => e.first
  | .pass p | .define _ _ _ p | .assign _ _ _ p | .block _ p | .branch _ _ _ _ _ p
  | .switch _ _ _ p | .forever _ _ p | .repeatWhile _ _ _ p | .repeatAfter _ _ _ p
  | .forEach _ _ _ _ _ p | .leave _ p | .next p | .giveBack _ p | .raise _ p
  | .attempt _ _ _ _ p => p

/-! ## Values that are known -/

mutual

/-- The value of an expression that is known before the script runs. -/
def Expr.known? : Expr → Option Literal
  | .literal v _ => some v
  | .array items _ => (knownItems? items).map .array
  | .object entries _ => (knownEntries? entries).map .object
  | _ => none

/-- The values of items, if all are known. -/
def knownItems? : List Expr → Option (List Literal)
  | [] => some []
  | e :: rest =>
    match e.known?, knownItems? rest with
    | some v, some vs => some (v :: vs)
    | _, _ => none

/-- The values of entries, if all are known. -/
def knownEntries? : List (String × Expr) → Option (List (String × Literal))
  | [] => some []
  | (name, e) :: rest =>
    match e.known?, knownEntries? rest with
    | some v, some vs => some ((name, v) :: vs)
    | _, _ => none

end

end ScriptGate.Script
