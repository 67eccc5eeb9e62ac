import ScriptGate.Script.Token.Lexer
import ScriptGate.Script.Tree.Expression

/-!
Statements, functions and whole scripts.

A statement ends with a semicolon unless it closes with a block. Functions can only stand at the
top of a script; they see no names but their own. Reading is bounded by the number
of tokens, since every construct inside another one begins at a later token.
-/

namespace ScriptGate.Script

namespace Rules

open Parse

variable (g : Grammar) (r : Rules)

/-! ## Blocks -/

/-- Whether a statement needs no semicolon behind it. -/
def closesItself : Statement → Bool
  | .block .. | .branch .. | .switch .. | .forever .. | .repeatWhile .. | .forEach .. | .attempt .. => true
  | _ => false

/-- The statements of a block, from its opening brace; and where that stands. -/
def blockOf (s : Setting) : Parse (List Statement × Position) := inScope do
  let opened ← expect .leftBrace "to start a statement block"
  let body ← iterate (fun (seen : List Statement) => do
    match ← peek with
    | (.sign .rightBrace, _) =>
      skip
      return .done seen.reverse
    | (.finish, p) => fail (.missing "\x7d" "to terminate this block") p
    | _ =>
      match ← r.statement (← deeper g { s with atTop := false }) with
      | none => return .again seen
      | some statement =>
        let seen := statement :: seen
        match ← peek with
        | (.sign .rightBrace, _) => return .again seen
        | found =>
          if closesItself statement then return .again seen
          match found with
          | (.sign .semicolon, _) =>
            skip
            return .again seen
          | found => missing ";" "to terminate this statement" found) []
  return (body, opened)

/-! ## Branches and loops -/

/-- A condition, which is no block and not followed by an assignment. -/
def condition (s : Setting) : Parse Expr := do
  notBlock "a boolean"
  let e ← asBoolean (← r.expression (← deeper g s))
  notAssignment
  return e

/-- A branch, from its `if`. -/
def branchOf (s : Setting) : Parse Statement := do
  let (_, p) ← next
  let s := { s with pos := p }
  let test ← condition g r s
  let (yes, yesPos) ← r.block (← deeper g s)
  let (hasElse, _) ← acceptWord .else_
  if !hasElse then return .branch test yes yesPos [] yesPos p
  match (← peek).1 with
  | .keyword .if_ =>
    let other ← r.branch (← deeper g s)
    return .branch test yes yesPos [other] other.pos p
  | _ =>
    let (no, noPos) ← r.block (← deeper g s)
    return .branch test yes yesPos no noPos p

/-- A loop, from its `while` or `loop`. -/
def loopOf (s : Setting) : Parse Statement := do
  let (word, p) ← next
  match word with
  | .keyword .while_ =>
    let test ← condition g r s
    let (body, brace) ← r.block (← deeper g { s with pos := p, inLoop := true })
    return .repeatWhile test body brace p
  | _ =>
    let (body, brace) ← r.block (← deeper g { s with pos := p, inLoop := true })
    return .forever body brace p

/-- A loop with its condition at the end, from its `do`. -/
def doLoop (s : Setting) : Parse Statement := do
  let (_, p) ← next
  let s := { s with pos := p }
  let (body, _) ← r.block (← deeper g { s with inLoop := true })
  let goal ← match ← next with
    | (.keyword .while_, _) => pure true
    | (.keyword .until_, _) => pure false
    | (_, p) => fail (.missing "while" "for the do statement") p
  let test ← condition g r s
  return .repeatAfter body test goal p

/-- The name, and perhaps the counter, of a loop over the items of something. -/
def loopNames : Parse (String × Option String) := do
  let (paired, _) ← accept .leftParen
  let (name, _) ← variableName
  if !paired then return (name, none)
  let (hasComma, p) ← accept .comma
  if !hasComma then fail (.missing "," "after the iteration variable name") p
  let (counter, p) ← variableName
  if counter = name then fail (.duplicateVariable counter) p
  let (closed, p) ← accept .rightParen
  if !closed then fail (.missing ")" "to close the iteration variable") p
  return (name, some counter)

/-- A loop over the items of something, from its `for`. -/
def forLoop (s : Setting) : Parse Statement := inScope do
  let (_, p) ← next
  let s := { s with pos := p }
  let (name, counter) ← loopNames
  match ← next with
  | (.keyword .in_, _) => pure ()
  | found => missing "in" "after the iteration variable" found
  notBlock "a boolean"
  let source ← asIterable (← r.expression (← deeper g s))
  if let some counter := counter then define counter false
  define name false
  let (body, brace) ← r.block (← deeper g { s with inLoop := true })
  return .forEach name counter source body brace p

/-! ## Switches -/

/-- What an expression matches as a case of a switch. -/
def key (e : Expr) : Parse Key :=
  match e with
  | .binary .rangeTo (.literal (.integer a) _) (.literal (.integer b) _) _ =>
    return .range a b false
  | .binary .rangeThrough (.literal (.integer a) _) (.literal (.integer b) _) _ =>
    return .range a b true
  | e =>
    match e.known? with
    | some v => return .value v
    | none => fail (.expressionWanted "a literal") e.first

/-- Whether a case matches a range that is not empty. -/
def isRangeKey : Key → Bool
  | .range a b inclusive => if inclusive then a ≤ b else a < b
  | .value _ => false

/-- Whether a case matches a number. -/
def isNumberKey : Key → Bool
  | .value (.integer _) | .value (.double _) => true
  | _ => false

/-- What the expressions of a case match, which empty ranges do not; `afterRange` tells that a range went
before, behind which there can be no number. -/
def keys : (afterRange : Bool) → List Expr → Parse (List Key)
  | _, [] => return []
  | afterRange, e :: rest => do
    match ← key e with
    | .range first last inclusive =>
      let k : Key := .range first last inclusive
      if isRangeKey k then return k :: (← keys true rest) else keys afterRange rest
    | k =>
      if afterRange && isNumberKey k then fail .numberCaseAfterRange e.first
      return k :: (← keys afterRange rest)

/-- The expressions that a case lists, with bars between them. -/
def caseKeys (s : Setting) : Parse (List Expr) :=
  iterate (fun (seen : List Expr) => do
    let inner ← deeper g s
    let state ← get
    match (r.expression { inner with barEnds := true }).run state with
    | .error e => fail (.expressionWanted "literal") e.pos
    | .ok (e, state) =>
      set state
      let (more, _) ← accept .pipe
      return if more then .again (e :: seen) else .done (e :: seen).reverse) []

/-- What is known of a switch while it is read. -/
structure SwitchSoFar where
  cases : List Case
  otherwise : Option (Expr × Position)
  hasRange : Bool

/-- The keys and the condition of the next case; none for the default case. -/
def caseHead (s : Setting) (soFar : SwitchSoFar) :
    Parse (Option (List Expr × Option Expr) × Position) := do
  match soFar.otherwise, ← peek with
  | none, (.sign .underscore, p) =>
    skip
    let (hasCondition, q) ← acceptWord .if_
    if hasCondition then fail .defaultCaseCondition q
    return (none, p)
  | some (_, p), _ => fail .defaultCaseNotLast p
  | none, (_, p) =>
    let keys ← caseKeys g r s
    let (hasCondition, _) ← acceptWord .if_
    if hasCondition then return (some (keys, some (← condition g r s)), p)
    return (some (keys, none), p)

/-- A switch, from its `switch`. -/
def switchOf (s : Setting) : Parse Statement := do
  let (_, start) ← next
  let s := { s with pos := start }
  let subject ← r.expression (← deeper g s)
  let _ ← expect .leftBrace "to start a switch block"
  let unclosed := "to end this switch block"
  iterate (fun (soFar : SwitchSoFar) => do
    match ← peek with
    | (.sign .rightBrace, _) =>
      skip
      return .done (.switch subject soFar.cases.reverse (soFar.otherwise.map Prod.fst) start)
    | (.finish, p) => fail (.missing "\x7d" unclosed) p
    | _ =>
      let (head, p) ← caseHead g r s soFar
      let _ ← expect .doubleArrow "in this switch case"
      let action ← r.statement (← deeper g s)
      let statement := action.getD (.block [] p)
      let action : Expr := match statement with
        | .block body q => .block body q
        | statement => .block [statement] statement.pos
      let soFar ← match head with
        | none => pure { soFar with otherwise := some (action, p) }
        | some (exprs, test) => do
          let keys ← keys soFar.hasRange exprs
          pure { soFar with
            cases := .mk keys test action :: soFar.cases
            hasRange := soFar.hasRange || keys.any isRangeKey }
      match ← peek with
      | (.sign .comma, _) =>
        skip
        return .again soFar
      | (.sign .rightBrace, _) => return .again soFar
      | (.finish, p) => fail (.missing ")" unclosed) p
      | (.fault f, p) => fail (.lexical f) p
      | (_, p) =>
        if closesItself statement then return .again soFar
        fail (.missing "," "to separate the items in this switch block") p) ⟨[], none, false⟩

/-! ## Definitions, jumps and assignments -/

/-- A definition of a variable or a constant, from its first word. -/
def definition (s : Setting) (constant : Bool) : Parse Statement := do
  let (_, start) ← next
  let s := { s with pos := start }
  let (name, _) ← variableName
  let (hasValue, _) ← accept .assign
  let value ← if hasValue then some <$> r.expression (← deeper g s) else pure none
  define name constant
  return .define name constant value start

/-- The block that handles a fault of the block that is tried. -/
def handlerOf (s : Setting) (body : List Statement) (brace : Position) (name : Option String) :
    Parse Statement := do
  let (handler, _) ← r.block (← deeper g s)
  return .attempt body name handler brace s.pos

/-- Tries a block, and handles its fault in another, from the word `try`. -/
def attemptOf (s : Setting) : Parse Statement := do
  let (_, start) ← next
  let s := { s with pos := start }
  let (body, brace) ← r.block (← deeper g s)
  let (hasCatch, p) ← acceptWord .catch_
  if !hasCatch then fail (.missing "catch" "for the 'try' statement") p
  inScope do
    let (hasName, _) ← accept .leftParen
    let name ← if hasName then do
        let (name, _) ← variableName
        let (closed, p) ← accept .rightParen
        if !closed then fail (.missing ")" "to enclose the catch variable") p
        define name false
        pure (some name)
      else pure none
    handlerOf g r s body brace name

/-- A jump out of a loop, from its `break`. -/
def leaveOf (s : Setting) : Parse Statement := do
  let (_, start) ← next
  match (← peek).1 with
  | .finish | .sign .rightBrace | .sign .semicolon => return .leave none start
  | _ => return .leave (some (← r.expression (← deeper g s))) start

/-- A jump out of a function, or a fault, from its first word. -/
def jumpOf (s : Setting) : Parse Statement := do
  let (word, start) ← next
  let bare ← match (← peek).1 with
    | .finish | .sign .semicolon => pure true
    | .sign .rightBrace => pure (!s.atTop)
    | _ => pure false
  let value ← if bare then pure none else some <$> r.expression (← deeper g s)
  match word with
  | .keyword .throw_ => return .raise value start
  | _ => return .giveBack value start

/-- The operator that an assignment sign applies first. -/
def assignment? : Sign → Option (Option Binary)
  | .assign => some none
  | .plusAssign => some (some .add) | .minusAssign => some (some .subtract)
  | .timesAssign => some (some .multiply) | .divideAssign => some (some .divide)
  | .moduloAssign => some (some .modulo) | .powerAssign => some (some .power)
  | .shiftLeftAssign => some (some .shiftLeft) | .shiftRightAssign => some (some .shiftRight)
  | .andAssign => some (some .bitAnd) | .orAssign => some (some .bitOr)
  | .xorAssign => some (some .bitXor)
  | _ => none

/-- The place of the first call among the links, whose result cannot be assigned to. -/
def methodPlace? (links : List Link) : Option Position :=
  links.findSome? fun
    | .method _ _ p _ => some p
    | _ => none

/-- An assignment, if its target can be assigned to. -/
def assignTo (op : Option Binary) (target value : Expr) (p : Position) : Parse Statement := do
  match target with
  | .this _ => return .assign op target value p
  | .variable name q =>
    if (← constant? name) = some true then fail (.constantAssigned name) q
    return .assign op target value p
  | .chain root links =>
    match methodPlace? links, root with
    | some q, _ => fail .notAssignable q
    | none, .this _ | none, .variable .. => return .assign op target value p
    | none, root => fail .notAssignable root.pos
  | .lazy .. =>
    match op with
    | none => fail (.lexical (.signMistaken Sign.equal.text)) p
    | some _ => fail .notAssignable target.pos
  | target =>
    if target.known?.isSome then fail (.constantAssigned "") target.first
    else fail .notAssignable target.pos

/-- An expression as a statement, or an assignment to it. -/
def expressionStatement (s : Setting) : Parse Statement := do
  let (_, start) ← peek
  let s := { s with pos := start }
  let e ← r.expression s
  match ← peek with
  | (.sign sign, p) =>
    match assignment? sign with
    | some op =>
      skip
      let value ← r.expression { s with pos := p }
      assignTo op e value p
    | none => return .expression e
  | _ => return .expression e

/-! ## Functions -/

/-- The parameters of a function, after its name. -/
def parameters (name : String) : Parse (List String) := do
  match ← peek with
  | (.sign .unit, _) =>
    skip
    return []
  | (.sign .leftParen, _) => skip
  | (_, p) => fail (.parametersWanted name) p
  let (closed, _) ← accept .rightParen
  if closed then return []
  iterate (fun (seen : List String) => do
    match ← next with
    | (.sign .rightParen, _) => return .done seen.reverse
    | (.name param, p) =>
      if param ∈ seen then fail (.duplicateParameter name param) p
      define param false
      let seen := param :: seen
      match ← next with
      | (.sign .rightParen, _) => return .done seen.reverse
      | (.sign .comma, _) => return .again seen
      | found => missing "," ("to separate the parameters of function '" ++ name ++ "'") found
    | found =>
      missing ")" ("to close the parameters list of function '" ++ name ++ "'") found) []

/-- What follows the name of a function. -/
def functionNamed (s : Setting) (name : String) : Parse Function := do
  let ((params, body), _) ← framed do
    let params ← parameters name
    match ← peek with
    | (.sign .leftBrace, _) => pure ()
    | (_, p) => fail (.bodyWanted name) p
    let (body, _) ← r.block (← deeper g ⟨0, s.pos, false, false, true, s.strict, false⟩)
    return (params, body)
  return ⟨name, params, body⟩

/-- A function, after its `fn`. -/
def function (s : Setting) : Parse Function := do
  let name ← match ← next with
    | (.name name, _) => pure name
    | (.reserved word, p) => fail (.reserved word) p
    | (_, p) => fail .functionNameWanted p
  functionNamed g r s name

/-- A function at the top of a script, from its first word. -/
def functionStatement (s : Setting) : Parse Unit := do
  let (word, p) ← next
  let start ← match word with
    | .keyword .private_ => do
      let (follows, q) ← acceptWord .fn
      if follows then pure q else fail (.missing "fn" "following 'private'") q
    | _ => pure p
  let f ← function g r { s with pos := start }
  let table := (← get).functions
  if (table.find? f.name f.params.length).isSome then
    fail (.duplicateFunction f.name f.params.length) start
  modify fun state => { state with functions := f :: state.functions }

/-! ## All statements -/

/-- A branch, a loop, a switch or a block, which may stand as a value too. -/
def constructOf (s : Setting) : Parse Statement := do
  let (token, p) ← peek
  let s ← deeper g { s with pos := p }
  match token with
  | .keyword .if_ => r.branch s
  | .keyword .switch => switchOf g r s
  | .keyword .do_ => doLoop g r s
  | .keyword .for_ => forLoop g r s
  | .sign .leftBrace => do
    let (body, opened) ← r.block s
    return .block body opened
  | _ => loopOf g r s

/-- A statement, or nothing where it is empty or defines a function. -/
def statementOf (s : Setting) : Parse (Option Statement) := do
  let (token, p) ← peek
  let s := { s with pos := p }
  let deep (read : Setting → Parse Statement) : Parse (Option Statement) := do
    return some (← read (← deeper g s))
  match token with
  | .finish => return none
  | .sign .semicolon =>
    skip
    return none
  | .keyword .fn | .keyword .private_ =>
    if s.atTop then
      functionStatement g r s
      return none
    else fail .misplacedFunction p
  | .sign .leftBrace | .keyword .if_ | .keyword .switch | .keyword .while_ | .keyword .loop
  | .keyword .do_ | .keyword .for_ => return some (← r.construct s)
  | .keyword .continue_ =>
    if s.inLoop then
      skip
      return some (.next p)
    else fail .outsideLoop p
  | .keyword .break_ => if s.inLoop then some <$> leaveOf g r s else fail .outsideLoop p
  | .keyword .return_ | .keyword .throw_ => some <$> jumpOf g r s
  | .keyword .try_ => deep (attemptOf g r)
  | .keyword .let_ => deep fun s => definition g r s false
  | .keyword .const => deep fun s => definition g r s true
  | .keyword .import_ | .keyword .export_ => fail (.notSupported token.describe) p
  | _ => deep (expressionStatement r)

end Rules

/-! ## Scripts -/

/-- The rules of the grammar, for constructs that nest less deep than the fuel. -/
def Rules.ofGrammar (g : Grammar) : (fuel : Nat) → Rules
  | 0 =>
    let stop {α : Type} : Parse α := do Parse.fail .incomplete (← Parse.peek).2
    ⟨fun _ => stop, fun _ => stop, fun _ _ _ => stop, fun _ => stop, fun _ => stop, fun _ => stop,
      fun _ => stop⟩
  | fuel + 1 =>
    { expression := fun s => (Rules.ofGrammar g fuel).expressionOf g s
      operand := fun s => (Rules.ofGrammar g fuel).operandOf g s
      operators := fun s parent left => (Rules.ofGrammar g fuel).operatorsOf g s parent left
      construct := fun s => (Rules.ofGrammar g fuel).constructOf g s
      statement := fun s => (Rules.ofGrammar g fuel).statementOf g s
      block := fun s => (Rules.ofGrammar g fuel).blockOf g s
      branch := fun s => (Rules.ofGrammar g fuel).branchOf g s }

/-- A script: its statements, and the functions it defines. -/
structure Tree where
  body : List Statement
  functions : Functions

namespace Tree

open Parse

/-- One more statement of a script, after those that are seen; or its end. -/
def step (r : Rules) (seen : List Statement) : Parse (Turn (List Statement) (List Statement)) := do
  let (token, _) ← peek
  match token with
  | .finish => return .done seen.reverse
  | _ =>
    match ← r.statement ⟨0, .start, true, false, false, true, false⟩ with
    | none => return .again seen
    | some statement =>
      let seen := statement :: seen
      match ← peek with
      | (.finish, _) => return .again seen
      | found =>
        if Rules.closesItself statement then return .again seen
        match found with
        | (.sign .semicolon, _) =>
          skip
          return .again seen
        | found => missing ";" "to terminate this statement" found

/-- The statements of a script. -/
def statements (r : Rules) : Parse (List Statement) := iterate (step r) []

/-- Reads a script; a text between quotes may have `maxText` bytes, or any number if that is
zero. -/
def parse (g : Grammar) (maxText : Nat) (source : String) : Except CompileError Tree :=
  let (lexemes, stop) := Token.scan maxText source
  let rules := Rules.ofGrammar g (4 * lexemes.length + 8)
  match (statements rules).run ⟨lexemes, stop, ⟨[], []⟩, []⟩ with
  | .ok (body, state) => .ok ⟨body, state.functions⟩
  | .error e => .error e

end Tree

end ScriptGate.Script
