import ScriptGate.Script.Tree
import ScriptGate.Script.Tree.Fault

/-!
What a parser of scripts works on: the tokens that are left, the names in reach, and the functions
defined so far.

The names of a function are its parameters and what it defines; it does not see the
names around it. An anonymous function may use those, and every name it uses
without defining it is noted together with its first place.
-/

namespace ScriptGate.Script

/-- The names that the function being read knows, innermost first. -/
structure Frame where
  /-- Each name, and whether it is constant. -/
  names : List (String × Bool)
  /-- The names that are used but not known here, in the order of their first use. -/
  outer : List (String × Position)

/-- The state of a parser. -/
structure Reading where
  rest : List Lexeme
  /-- Where the source ends. -/
  stop : Position
  frame : Frame
  functions : Functions

/-- What a script may be like. -/
structure Grammar where
  /-- How deep expressions may nest; zero for any depth. -/
  maxDepth : Nat
  /-- How many items a literal may have; zero for any number. -/
  maxItems : Nat
  /-- The names that are known from outside. -/
  known : List String
  /-- What becomes of the body of an anonymous function once it is read. -/
  settle : List Statement → List Statement

/-- What the text around a construct means for it. -/
structure Setting where
  /-- How deep the construct is. -/
  level : Nat
  /-- The place that a fault of nesting is reported at. -/
  pos : Position
  atTop : Bool
  inLoop : Bool
  inFunction : Bool
  /-- Whether an unknown name is a fault at once. -/
  strict : Bool
  /-- Whether a vertical bar ends an expression. -/
  barEnds : Bool

abbrev Parse := StateT Reading (Except CompileError)

namespace Parse

/-- Stops with a fault. -/
def fail {α : Type} (cause : CompileCause) (pos : Position) : Parse α := throw ⟨cause, pos⟩

/-! ## Tokens -/

/-- The next token, which stays. -/
def peek : Parse Lexeme := fun s =>
  match s.rest with
  | lexeme :: _ => .ok (lexeme, s)
  | [] => .ok ((.finish, s.stop), s)

/-- Drops the next token. -/
def skip : Parse Unit := modify fun s => { s with rest := s.rest.tail }

/-- Takes the next token. -/
def next : Parse Lexeme := do
  let lexeme ← peek
  skip
  return lexeme

/-- Takes the next token if it is the given sign; and its place. -/
def accept (sign : Sign) : Parse (Bool × Position) := do
  let (token, p) ← peek
  match token with
  | .sign s =>
    if s = sign then
      skip
      return (true, p)
    else return (false, p)
  | _ => return (false, p)

/-- Takes the next token if it is the given keyword; and its place. -/
def acceptWord (keyword : Keyword) : Parse (Bool × Position) := do
  let (token, p) ← peek
  match token with
  | .keyword k =>
    if k = keyword then
      skip
      return (true, p)
    else return (false, p)
  | _ => return (false, p)

/-- Whether the next token is the given sign. -/
def isNext (sign : Sign) : Parse Bool := do
  match (← peek).1 with
  | .sign s => return s = sign
  | _ => return false

/-- Stops because a token is missing, or because the one in its place cannot be read. -/
def missing {α : Type} (token purpose : String) (found : Lexeme) : Parse α :=
  match found with
  | (.fault f, p) => fail (.lexical f) p
  | (_, p) => fail (.missing token purpose) p

/-- Takes the given sign, whose absence is a fault. -/
def expect (sign : Sign) (purpose : String) : Parse Position := do
  let lexeme ← next
  match lexeme with
  | (.sign s, p) => if s = sign then return p else missing sign.text purpose lexeme
  | _ => missing sign.text purpose lexeme

/-- The name of a variable. -/
def variableName : Parse (String × Position) := do
  match ← next with
  | (.name s, p) => return (s, p)
  | (.reserved s, p) => if isNameShaped s then fail (.reserved s) p else fail .variableWanted p
  | (.fault f, p) => fail (.lexical f) p
  | (_, p) => fail .variableWanted p

/-! ## Repetition -/

/-- Whether a repetition goes on, and with what. -/
inductive Turn (α β : Type) where
  | again (a : α)
  | done (b : β)

/-- Repeats a step at most as often as there is fuel. -/
def repeatFor {α β : Type} (step : α → Parse (Turn α β)) : (fuel : Nat) → α → Parse β
  | 0, _ => do fail .incomplete (← peek).2
  | fuel + 1, a => do
    match ← step a with
    | .again a => repeatFor step fuel a
    | .done b => return b

/-- Repeats a step that takes a token each time it goes on. -/
def iterate {α β : Type} (step : α → Parse (Turn α β)) (a : α) : Parse β := do
  repeatFor step ((← get).rest.length + 1) a

/-! ## Names -/

/-- Makes a name known. -/
def define (name : String) (constant : Bool) : Parse Unit :=
  modify fun s => { s with frame := { s.frame with names := (name, constant) :: s.frame.names } }

/-- Whether a known name is constant; none for a name that is not known here. -/
def constant? (name : String) : Parse (Option Bool) := return (← get).frame.names.lookup name

/-- Reads something and forgets the names that it defined. -/
def inScope {α : Type} (body : Parse α) : Parse α := do
  let names := (← get).frame.names
  let a ← body
  modify fun s => { s with frame := { s.frame with names := names } }
  return a

/-- Reads something with its own names; what it used without knowing it comes back too. -/
def framed {α : Type} (body : Parse α) : Parse (α × List (String × Position)) := do
  let frame := (← get).frame
  modify fun s => { s with frame := ⟨[], []⟩ }
  let a ← body
  let outer := (← get).frame.outer
  modify fun s => { s with frame := frame }
  return (a, outer)

/-- Uses a name. A name that is neither known here nor that of a function is noted, and where
names have to be known it is a fault unless it is known from outside. -/
def mention (g : Grammar) (strict : Bool) (name : String) (p : Position) : Parse Unit := do
  let s ← get
  let known := s.frame.names.any (·.1 = name) || s.functions.any (·.name = name)
  if !known then
    if !s.frame.outer.any (·.1 = name) then
      set { s with frame := { s.frame with outer := s.frame.outer ++ [(name, p)] } }
    if strict && !g.known.contains name then fail (.undefinedVariable name) p

/-! ## Nesting -/

/-- One level deeper. -/
def deeper (g : Grammar) (s : Setting) : Parse Setting :=
  let level := s.level + 1
  if 0 < g.maxDepth ∧ g.maxDepth < level then fail .tooDeep s.pos
  else return { s with level := level }

/-- A block cannot stand where a condition is wanted. -/
def notBlock (kind : String) : Parse Unit := do
  let (token, p) ← peek
  match token with
  | .sign .leftBrace => fail (.expressionWanted kind) p
  | _ => return ()

/-- An assignment cannot follow a condition. -/
def notAssignment : Parse Unit := do
  let (token, p) ← peek
  match token with
  | .sign .assign => fail (.lexical (.signMistaken Sign.equal.text)) p
  | _ => return ()

end Parse

end ScriptGate.Script
