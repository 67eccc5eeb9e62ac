import ScriptGate.Script.Tree.Reading

/-!
Expressions, as far as they do not contain statements.

The rules for constructs that contain themselves are taken as given (`Rules`), so that each rule
here is an ordinary function. Operators are read by precedence climbing.
-/

namespace ScriptGate.Script

/-- The rules that a construct uses for its parts. -/
structure Rules where
  expression : Setting → Parse Expr
  /-- An operand with the operators before it. -/
  operand : Setting → Parse Expr
  /-- The operators of at least the given precedence behind an operand. -/
  operators : Setting → Nat → Expr → Parse Expr
  /-- A branch, a loop, a switch or a block. -/
  construct : Setting → Parse Statement
  /-- A statement, or nothing where it is empty. -/
  statement : Setting → Parse (Option Statement)
  /-- A block in braces, and where it begins. -/
  block : Setting → Parse (List Statement × Position)
  /-- A branch, from its `if`. -/
  branch : Setting → Parse Statement

namespace Rules

open Parse

variable (g : Grammar) (r : Rules)

/-! ## Operators -/

/-- How tightly a sign binds; zero for one that is no operator. -/
def signPrecedence : Sign → Nat
  | .either | .pipe | .caret => 30
  | .both | .ampersand => 60
  | .equal | .notEqual => 90
  | .notIn => 110
  | .less | .lessEqual | .greater | .greaterEqual => 130
  | .doubleQuestion => 135
  | .exclusiveRange | .inclusiveRange => 140
  | .plus | .minus => 150
  | .times | .divide | .modulo => 180
  | .power => 190
  | .shiftLeft | .shiftRight => 210
  | _ => 0

/-- How tightly a token binds; a reserved sign is an operator that does not exist. -/
def precedence : Lexeme → Parse Nat
  | (.sign s, _) => return signPrecedence s
  | (.keyword .in_, _) => return 110
  | (.reserved s, p) => if isNameShaped s then return 0 else fail (.unknownOperator s) p
  | _ => return 0

/-- Whether operators of this kind group to the right. -/
def groupsRight : Token → Bool
  | .sign .power => true
  | _ => false

/-- The operator that a sign stands for between two operands. -/
def binary? : Sign → Option Binary
  | .plus => some .add | .minus => some .subtract | .times => some .multiply
  | .divide => some .divide | .modulo => some .modulo | .power => some .power
  | .shiftLeft => some .shiftLeft | .shiftRight => some .shiftRight
  | .equal => some .equal | .notEqual => some .notEqual | .less => some .less
  | .lessEqual => some .lessEqual | .greater => some .greater
  | .greaterEqual => some .greaterEqual | .ampersand => some .bitAnd | .pipe => some .bitOr
  | .caret => some .bitXor | .exclusiveRange => some .rangeTo
  | .inclusiveRange => some .rangeThrough
  | _ => none

/-- The kind of a literal that cannot be a truth value. -/
def notBoolean? : Expr → Option String
  | .literal .unit _ => some "()"
  | .literal (.integer _) _ => some "a number"
  | .literal (.double _) _ => some "a floating-point number"
  | .literal (.character _) _ => some "a character"
  | .literal (.text _) _ => some "a string"
  | .literal (.closure ..) _ => some "Fn"
  | .array .. => some "an array"
  | .object .. => some "an object map"
  | _ => none

/-- The kind of a literal that cannot be gone through. -/
def notIterable? : Expr → Option String
  | .literal .unit _ => some "()"
  | .literal (.boolean _) _ => some "a boolean"
  | .literal (.integer _) _ => some "a number"
  | .literal (.double _) _ => some "a floating-point number"
  | .literal (.character _) _ => some "a character"
  | .object .. => some "an object map"
  | _ => none

/-- An expression that may be a truth value. -/
def asBoolean (e : Expr) : Parse Expr :=
  match notBoolean? e with
  | some found => fail (.typeMismatch "a boolean expression" found) e.first
  | none => return e

/-- An expression that may be gone through. -/
def asIterable (e : Expr) : Parse Expr :=
  match notIterable? e with
  | some found => fail (.typeMismatch "an iterable value" found) e.first
  | none => return e

/-- Two operands joined by the operator at a place. -/
def join (token : Token) (p : Position) (left right : Expr) : Parse Expr := do
  match token with
  | .sign .either =>
    let right ← asBoolean right
    return .lazy .or (← asBoolean left) right p
  | .sign .both =>
    let right ← asBoolean right
    return .lazy .and (← asBoolean left) right p
  | .sign .doubleQuestion => return .lazy .coalesce left right p
  | .keyword .in_ => return .member left right false p
  | .sign .notIn => return .member left right true p
  | .sign s =>
    match binary? s with
    | some op => return .binary op left right p
    | none => return left
  | _ => return left

/-- Whether a token ends an expression although it is an operator. -/
def ends (s : Setting) : Token → Bool
  | .sign .pipe => s.barEnds
  | _ => false

/-- Whether a sign makes a range. -/
def isRange : Token → Bool
  | .sign .exclusiveRange | .sign .inclusiveRange => true
  | _ => false

/-- Whether nothing can begin with a token, so that a range before it has no end of its own. -/
def leavesOpen : Token → Bool
  | .finish | .sign .rightParen | .sign .rightBracket | .sign .rightBrace | .sign .comma
  | .sign .semicolon | .sign .doubleArrow => true
  | _ => false

/-- The right operand of an operator. A range without an end goes on to the largest integer. -/
def rightOperand (s : Setting) (operator : Token) : Parse Expr := do
  let (token, p) ← peek
  if isRange operator && leavesOpen token then return .literal (.integer Int64.maxValue) p
  r.operand s

/-- The operators behind an operand that bind at least as tightly as `parent`. Each one is a level
deeper than the one before, and so is what binds more tightly behind it. -/
def operatorsOf (s : Setting) (parent : Nat) (left : Expr) : Parse Expr :=
  iterate (fun ((s, left) : Setting × Expr) => do
    let (token, p) ← peek
    if ends s token then return .done left
    let own ← precedence (token, p)
    if own < parent || (own = parent && !groupsRight token) then return .done left
    skip
    let right ← rightOperand r s token
    let following ← peek
    let next ← precedence following
    let right ←
      if own < next || (own = next && groupsRight token) then r.operators (← deeper g s) own right
      else pure right
    let s ← deeper g s
    return .again ({ s with pos := p }, ← join token p left right)) ({ s with pos := left.pos }, left)

/-- An expression. -/
def expressionOf (s : Setting) : Parse Expr := do
  let (_, p) ← peek
  let s ← deeper g { s with pos := p }
  r.operators s 1 (← r.operand s)

/-! ## Arguments, indexes and literals of collections -/

/-- The arguments of a call, after the opening bracket. -/
def arguments (s : Setting) (name : String) : Parse (List Expr) := do
  let unclosed := "to close the arguments list of this function call '" ++ name ++ "'"
  match ← peek with
  | (.finish, p) => fail (.missing ")" unclosed) p
  | (.fault f, p) => fail (.lexical f) p
  | (.sign .rightParen, _) =>
    skip
    return []
  | _ =>
    let s ← deeper g s
    iterate (fun (seen : List Expr) => do
      let seen ← match (← peek).1 with
        | .sign .rightParen => pure seen
        | _ => do pure ((← r.expression s) :: seen)
      match ← peek with
      | (.sign .rightParen, _) =>
        skip
        return .done seen.reverse
      | (.sign .comma, _) =>
        skip
        return .again seen
      | (.finish, p) => fail (.missing ")" unclosed) p
      | found => missing "," ("to separate the arguments to function call '" ++ name ++ "'") found) []

/-- A call of the function `name`; `given` tells that the brackets were one token. -/
def callOf (s : Setting) (name : String) (p : Position) (given : Bool) : Parse (List Expr) := do
  if given then return [] else arguments g r { s with pos := p } name

/-- The kind of an index that is wrong whatever it is the index of; `numbers` tells whether it is to
be a number. -/
def wrongIndex? (numbers : Bool) : Expr → Option String
  | .literal (.integer _) _ => if numbers then none else some "a number"
  | .literal (.text _) _ => if numbers then some "a string" else none
  | .literal (.double _) _ => some "a float"
  | .literal (.character _) _ => some "a character"
  | .literal .unit _ => some "()"
  | .literal (.boolean _) _ | .lazy .and _ _ _ | .lazy .or _ _ _ => some "a boolean"
  | _ => none

/-- Stops at an index that does not fit the literal that it belongs to. -/
def checkIndex (whole key : Expr) : Parse Unit :=
  match whole with
  | .object .. =>
    match wrongIndex? false key with
    | some found => fail (.objectIndex found) key.first
    | none => return ()
  | .literal (.integer _) _ | .literal (.text _) _ | .array .. =>
    match wrongIndex? true key with
    | some found =>
      let wanted := if found = "a string" then "numeric" else "integer"
      fail (.sequenceIndex wanted found) key.first
    | none => return ()
  | _ => return ()

/-- The indexes behind a value, from after the first bracket; each further one is a level deeper. -/
def indexes (s : Setting) (whole : Expr) (joint : Joint) : Parse (List Link) :=
  iterate (fun ((s, joint, seen) : Setting × Joint × List Link) => do
    let s ← deeper g { s with pos := joint.pos }
    let key ← r.expression (← deeper g s)
    if seen.isEmpty then checkIndex whole key
    match ← peek with
    | (.sign .rightBracket, _) =>
      skip
      let seen := Link.index key joint :: seen
      match ← peek with
      | (.sign .leftBracket, p) =>
        skip
        return .again (s, ⟨false, p⟩, seen)
      | (.sign .questionBracket, p) =>
        skip
        return .again (s, ⟨true, p⟩, seen)
      | _ => return .done seen.reverse
    | found => missing "]" "for a matching [ in this index expression" found) (s, joint, [])

/-- The items of an array, from the opening bracket. -/
def array (s : Setting) : Parse Expr := do
  let (_, opened) ← next
  let s := { s with pos := opened }
  iterate (fun (seen : List Expr) => do
    let (token, p) ← peek
    if 0 < g.maxItems ∧ g.maxItems ≤ seen.length then
      fail (.arrayTooLarge g.maxItems) p
    match token with
    | .sign .rightBracket =>
      skip
      return .done (.array seen.reverse opened)
    | .finish => fail (.missing "]" "to end this array literal") p
    | _ =>
      let item ← r.expression (← deeper g s)
      match ← peek with
      | (.sign .comma, _) =>
        skip
        return .again (item :: seen)
      | (.sign .rightBracket, _) => return .again (item :: seen)
      | (.finish, p) => fail (.missing "]" "to end this array literal") p
      | found => missing "," "to separate the items of this array literal" found) []

/-- Stops because an object has something else than a name where an entry begins. Before the first
entry it is the end of the object that is missing. -/
def noEntryName {α : Type} (seen : List (String × Expr)) (p : Position) : Parse α :=
  if seen.isEmpty then fail (.missing "\x7d" "to end this object map literal") p
  else fail .propertyWanted p

/-- The name of an entry of an object. -/
def entryName (seen : List (String × Expr)) : Parse String := do
  let fresh (name : String) (p : Position) : Parse String :=
    if seen.any (·.1 = name) then fail (.duplicateProperty name) p else return name
  match ← next with
  | (.name s, p) => fresh s p
  | (.text s, p) => fresh s p
  | (.reserved s, p) => if isNameShaped s then fail (.reserved s) p else noEntryName seen p
  | (.fault f, p) => fail (.lexical f) p
  | (.finish, p) => fail (.missing "\x7d" "to end this object map literal") p
  | (_, p) => noEntryName seen p

/-- The entries of an object, from the opening sign. -/
def object (s : Setting) : Parse Expr := do
  let (_, opened) ← next
  let s := { s with pos := opened }
  let unclosed := "to end this object map literal"
  iterate (fun (seen : List (String × Expr)) => do
    match ← peek with
    | (.sign .rightBrace, _) =>
      skip
      return .done (.object seen.reverse opened)
    | (.finish, p) => fail (.missing "\x7d" unclosed) p
    | _ =>
      let name ← entryName seen
      let _ ← expect .colon ("to follow the property '" ++ name ++ "' in this object map literal")
      if 0 < g.maxItems ∧ g.maxItems ≤ seen.length then
        fail (.objectTooLarge g.maxItems) (← peek).2
      let value ← r.expression (← deeper g s)
      let seen := (name, value) :: seen
      match ← peek with
      | (.sign .comma, _) =>
        skip
        return .again seen
      | (.sign .rightBrace, _) => return .again seen
      | (.name _, p) => fail (.missing "," "to separate the items of this object map literal") p
      | found => missing "\x7d" unclosed found) []

/-- An expression in brackets. -/
def bracketed (s : Setting) : Parse Expr := do
  let (_, opened) ← next
  let (closed, _) ← accept .rightParen
  if closed then return .literal .unit opened
  let e ← r.expression { s with pos := opened }
  let _ ← expect .rightParen "for a matching ( in this expression"
  return e

/-! ## Anonymous functions -/

/-- The parameters of an anonymous function, after the opening bar. -/
def closureParams : Parse (List String) := do
  let (closed, _) ← accept .pipe
  if closed then return []
  iterate (fun (seen : List String) => do
    match ← next with
    | (.sign .pipe, _) => return .done seen.reverse
    | (.name name, p) =>
      if name ∈ seen then fail (.duplicateParameter "" name) p
      define name false
      match ← next with
      | (.sign .pipe, _) => return .done (name :: seen).reverse
      | (.sign .comma, _) => return .again (name :: seen)
      | found => missing "," "to separate the parameters of anonymous function" found
    | found => missing "|" "to close the parameters list of anonymous function or closure" found) []

/-- An anonymous function. The names that it uses without defining them are captured, and
have to be known around it. -/
def closure (s : Setting) : Parse Expr := do
  let (bar, opened) ← next
  let s ← deeper g { s with pos := opened }
  let inner : Setting :=
    { s with atTop := false, inLoop := false, inFunction := true, strict := false, barEnds := false }
  let ((params, body), outer) ← framed do
    let params ← match bar with
      | .sign .either => pure []
      | _ => closureParams
    let body ← r.statement inner
    return (params, body)
  outer.forM fun (name, p) => mention g s.strict name p
  let body := g.settle <| match body with
    | some (.block body _) => body
    | some statement => [statement]
    | none => []
  if outer.isEmpty then return .literal (.closure params body) opened
  return .closure (outer.map fun (name, _) => (name, none)) params body opened

/-! ## Operands -/

/-- An expression with more links behind it. -/
def attach (e : Expr) (links : List Link) : Expr :=
  match e with
  | .chain root before => .chain root (before ++ links)
  | root => .chain root links

/-- Functions that a value may be asked for by name although the name is reserved. -/
def methodWords : List String := ["type_of", "call", "curry", "is_shared"]

/-- The property or the method with a name. -/
def namedLink (s : Setting) (joint : Joint) (name : String) (p : Position) (callOnly : Bool) :
    Parse Link := do
  match ← peek with
  | (.sign .leftParen, _) =>
    skip
    return .method name (← callOf g r s name p false) p joint
  | (.sign .unit, _) =>
    skip
    return .method name (← callOf g r s name p true) p joint
  | _ => if callOnly then fail (.reserved name) p else return .property name p joint

/-- The property or the method after a point. -/
def memberLink (s : Setting) (joint : Joint) : Parse Link := do
  let s ← deeper g { s with pos := joint.pos }
  match ← next with
  | (.name name, p) => namedLink g r s joint name p false
  | (.reserved name, p) =>
    if name ∈ methodWords then namedLink g r s joint name p true else fail (.reserved name) p
  | (_, p) => fail .propertyWanted p

/-- The links behind a value. Each property or method is a level deeper than the one before. -/
def links (s : Setting) (e : Expr) : Parse Expr :=
  iterate (fun ((s, e) : Setting × Expr) => do
    match ← peek with
    | (.sign .period, p) =>
      skip
      let link ← memberLink g r s ⟨false, p⟩
      return .again ({ s with level := s.level + 1 }, attach e [link])
    | (.sign .elvis, p) =>
      skip
      let link ← memberLink g r s ⟨true, p⟩
      return .again ({ s with level := s.level + 1 }, attach e [link])
    | (.sign .leftBracket, p) =>
      skip
      return .again (s, attach e (← indexes g r s e ⟨false, p⟩))
    | (.sign .questionBracket, p) =>
      skip
      return .again (s, attach e (← indexes g r s e ⟨true, p⟩))
    | _ => return .done e) (s, e)

/-- The call of a function whose name was read, if the arguments come next. A bang may stand between the
two, and then they have to come. -/
def callBehind? (s : Setting) (name : String) (p : Position) : Parse (Option Expr) := do
  match ← peek with
  | (.sign .leftParen, _) =>
    skip
    return some (.call name (← callOf g r s name p false) p)
  | (.sign .unit, _) =>
    skip
    return some (.call name (← callOf g r s name p true) p)
  | (.sign .bang, _) =>
    skip
    match ← next with
    | (.sign .leftParen, _) => return some (.call name (← callOf g r s name p false) p)
    | (.sign .unit, _) => return some (.call name (← callOf g r s name p true) p)
    | (_, q) => fail (.missing "(" "to start arguments list of function call") q
  | _ => return none

/-- What is named behind `global::`: a call, or a constant of the run. -/
def globalMember (s : Setting) (full member : String) (p : Position) : Parse Expr := do
  match ← peek with
  | (.sign .leftParen, _) =>
    skip
    return .call full (← callOf g r s member p false) p
  | (.sign .unit, _) =>
    skip
    return .call full (← callOf g r s member p true) p
  | _ => return .global member p

/-- What a name stands for: a call, a constant of the run, or a variable. -/
def named (s : Setting) (name : String) (p : Position) : Parse Expr := do
  match ← callBehind? g r s name p, ← peek with
  | some call, _ => return call
  | none, (.sign .doubleColon, _) =>
    skip
    let (member, _) ← variableName
    if name ≠ "global" then fail (.undefinedModule name) p
    globalMember g r s (name ++ "::" ++ member) member p
  | none, _ =>
    mention g s.strict name p
    return .variable name p

/-- What a reserved word stands for. -/
def reservedWord (s : Setting) (word : String) (p : Position) : Parse Expr := do
  if word ∈ reservedCalls then
    if let some call ← callBehind? g r s word p then return call
  if word = "this" then
    if s.inFunction then return .this p
    else fail (.lexical (.improperSign "this" " can only be used in functions")) p
  fail (.reserved word) p

/-- An operand without operators before it and without links behind it. -/
def primary (s : Setting) : Parse Expr := do
  let (token, p) ← peek
  let s := { s with pos := p }
  let literal (value : Literal) : Parse Expr := do
    skip
    return .literal value p
  match token with
  | .finish => fail .incomplete p
  | .fault f => fail (.lexical f) p
  | .integer n => literal (.integer n)
  | .double x => literal (.double x)
  | .character c => literal (.character c)
  | .text t => literal (.text t)
  | .keyword .true_ => literal (.boolean true)
  | .keyword .false_ => literal (.boolean false)
  | .sign .unit => literal .unit
  | .sign .leftParen => bracketed r (← deeper g s)
  | .sign .leftBracket => array g r (← deeper g s)
  | .sign .objectStart => object g r (← deeper g s)
  | .sign .pipe | .sign .either =>
    if ends s token then fail (.lexical (.unexpectedInput token.describe)) p else closure g r s
  | .sign .leftBrace | .keyword .if_ | .keyword .switch | .keyword .while_ | .keyword .loop
  | .keyword .do_ | .keyword .for_ =>
    match ← r.construct s with
    | .block body p => return .block body p
    | statement => return .block [statement] statement.pos
  | .name name =>
    skip
    named g r s name p
  | .reserved word =>
    skip
    reservedWord g r s word p
  | token => fail (.lexical (.unexpectedInput token.describe)) p

/-- The opposite of an operand; a number is turned at once. -/
def negated (p : Position) : Expr → Expr
  | .literal (.integer n) _ =>
    if n = Int64.minValue then .literal (.double 9223372036854775808.0) p
    else .literal (.integer (-n)) p
  | .literal (.double x) _ => .literal (.double (-x)) p
  | e => .unary .minus e p

/-- An operand with the operators before it and the links behind it. -/
def operandOf (s : Setting) : Parse Expr := do
  let (token, p) ← peek
  let s := { s with pos := p }
  match token with
  | .sign .minus =>
    skip
    return negated p (← r.operand (← deeper g s))
  | .sign .plus =>
    skip
    match ← r.operand (← deeper g s) with
    | .literal (.integer n) q => return .literal (.integer n) q
    | .literal (.double x) q => return .literal (.double x) q
    | e => return .unary .plus e p
  | .sign .bang =>
    skip
    return .unary .not (← r.operand (← deeper g s)) p
  | .sign .exclusiveRange | .sign .inclusiveRange => return .literal (.integer 0) p
  | _ => links g r s (← primary g r s)

end Rules

end ScriptGate.Script
