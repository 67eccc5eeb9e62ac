import Mathlib.Logic.Basic
import ScriptGate.Script.Tree

/-!
# Trees without places

What a tree is but for the places in it (`Expr.bare`, `Statement.bare`): two sources that differ in
their layout only have the same bare tree. A script can learn of places in one way, from what it
catches under a name, and of the operations that it took in none; whether it can read the constants of
its run makes the other difference between one run and two. Both are asked of a tree at once, by
`Statement.isPlain`.
-/

namespace ScriptGate.Script

/-! ## Forgetting places -/

/-- A joint without its place. -/
def Joint.bare (joint : Joint) : Joint := ⟨joint.optional, .start⟩

mutual

/-- A literal without the places in it. -/
def Literal.bare : Literal → Literal
  | .array items => .array (bareLiterals items)
  | .object entries => .object (bareLiteralEntries entries)
  | .closure params body => .closure params (bareBody body)
  | v => v

/-- Literals without the places in them. -/
def bareLiterals : List Literal → List Literal
  | [] => []
  | v :: rest => v.bare :: bareLiterals rest

/-- Entries of a literal without the places in them. -/
def bareLiteralEntries : List (String × Literal) → List (String × Literal)
  | [] => []
  | (name, v) :: rest => (name, v.bare) :: bareLiteralEntries rest

/-- An expression without the places in it. -/
def Expr.bare : Expr → Expr
  | .literal v _ => .literal v.bare .start
  | .variable name _ => .variable name .start
  | .global name _ => .global name .start
  | .this _ => .this .start
  | .array items _ => .array (bareExprs items) .start
  | .object entries _ => .object (bareEntries entries) .start
  | .unary op operand _ => .unary op operand.bare .start
  | .binary op left right _ => .binary op left.bare right.bare .start
  | .lazy op left right _ => .lazy op left.bare right.bare .start
  | .member item container negated _ => .member item.bare container.bare negated .start
  | .call name args _ => .call name (bareExprs args) .start
  | .chain root links => .chain root.bare (bareLinks links)
  | .closure captured params body _ =>
    .closure (bareCaptured captured) params (bareBody body) .start
  | .block body _ => .block (bareBody body) .start

/-- Expressions without the places in them. -/
def bareExprs : List Expr → List Expr
  | [] => []
  | e :: rest => e.bare :: bareExprs rest

/-- Entries of an object without the places in them. -/
def bareEntries : List (String × Expr) → List (String × Expr)
  | [] => []
  | (name, e) :: rest => (name, e.bare) :: bareEntries rest

/-- Captured names without the places in the values that they are bound to. -/
def bareCaptured : List (String × Option Literal) → List (String × Option Literal)
  | [] => []
  | (name, none) :: rest => (name, none) :: bareCaptured rest
  | (name, some v) :: rest => (name, some v.bare) :: bareCaptured rest

/-- A link without the places in it. -/
def Link.bare : Link → Link
  | .property name _ joint => .property name .start joint.bare
  | .index key joint => .index key.bare joint.bare
  | .method name args _ joint => .method name (bareExprs args) .start joint.bare

/-- Links without the places in them. -/
def bareLinks : List Link → List Link
  | [] => []
  | link :: rest => link.bare :: bareLinks rest

/-- What may be left out, without the places in it. -/
def bareGiven : Option Expr → Option Expr
  | none => none
  | some e => some e.bare

/-- A statement without the places in it. -/
def Statement.bare : Statement → Statement
  | .pass _ => .pass .start
  | .expression e => .expression e.bare
  | .define name constant value _ => .define name constant (bareGiven value) .start
  | .assign op target value _ => .assign op target.bare value.bare .start
  | .block body _ => .block (bareBody body) .start
  | .branch condition yes _ no _ _ =>
    .branch condition.bare (bareBody yes) .start (bareBody no) .start .start
  | .switch subject cases otherwise _ =>
    .switch subject.bare (bareCases cases) (bareGiven otherwise) .start
  | .forever body _ _ => .forever (bareBody body) .start .start
  | .repeatWhile condition body _ _ => .repeatWhile condition.bare (bareBody body) .start .start
  | .repeatAfter body condition goal _ => .repeatAfter (bareBody body) condition.bare goal .start
  | .forEach name counter source body _ _ =>
    .forEach name counter source.bare (bareBody body) .start .start
  | .leave value _ => .leave (bareGiven value) .start
  | .next _ => .next .start
  | .giveBack value _ => .giveBack (bareGiven value) .start
  | .raise value _ => .raise (bareGiven value) .start
  | .attempt body name handler _ _ => .attempt (bareBody body) name (bareBody handler) .start .start

/-- Statements without the places in them. -/
def bareBody : List Statement → List Statement
  | [] => []
  | s :: rest => s.bare :: bareBody rest

/-- A case of a switch without the places in it. -/
def Case.bare : Case → Case
  | .mk keys condition action => .mk (bareKeys keys) (bareGiven condition) action.bare

/-- Cases of a switch without the places in them. -/
def bareCases : List Case → List Case
  | [] => []
  | case :: rest => case.bare :: bareCases rest

/-- What a case matches without the places in it. -/
def Key.bare : Key → Key
  | .value v => .value v.bare
  | .range first last inclusive => .range first last inclusive

/-- What cases match without the places in it. -/
def bareKeys : List Key → List Key
  | [] => []
  | key :: rest => key.bare :: bareKeys rest

end

theorem bareBody_isEmpty (body : List Statement) : (bareBody body).isEmpty = body.isEmpty := by
  cases body <;> rfl

theorem bareExprs_eq (es : List Expr) : bareExprs es = es.map Expr.bare := by
  induction es with
  | nil => rfl
  | cons e rest ih => exact congrArg (e.bare :: ·) ih

/-! ## Places of bare trees -/

@[simp] theorem Link.joint_bare (link : Link) : link.bare.joint = link.joint.bare := by
  cases link <;> rfl

@[simp] theorem Expr.pos_bare (e : Expr) : e.bare.pos = .start := by
  cases e with
  | chain root links =>
    cases links with
    | nil => exact root.pos_bare
    | cons link rest =>
      change link.bare.joint.pos = .start
      rw [link.joint_bare]
      rfl
  | _ => rfl

@[simp] theorem Expr.first_bare (e : Expr) : e.bare.first = .start := by
  cases e with
  | chain root links => exact root.first_bare
  | lazy op left right p => exact left.first_bare
  | _ => rfl

@[simp] theorem Statement.pos_bare (s : Statement) : s.bare.pos = .start := by
  cases s with
  | expression e => exact e.first_bare
  | _ => rfl

/-! ## Values that are known -/

mutual

theorem Expr.known?_bare (e : Expr) : e.bare.known? = e.known?.map Literal.bare := by
  cases e with
  | array items p =>
    simp only [Expr.bare, Expr.known?, knownItems?_bare items, Option.map_map]
    rfl
  | object entries p =>
    simp only [Expr.bare, Expr.known?, knownEntries?_bare entries, Option.map_map]
    rfl
  | _ => rfl

theorem knownItems?_bare (es : List Expr) :
    knownItems? (bareExprs es) = (knownItems? es).map bareLiterals := by
  cases es with
  | nil => rfl
  | cons e rest =>
    simp only [bareExprs, knownItems?, e.known?_bare, knownItems?_bare rest]
    cases e.known? <;> cases knownItems? rest <;> rfl

theorem knownEntries?_bare (es : List (String × Expr)) :
    knownEntries? (bareEntries es) = (knownEntries? es).map bareLiteralEntries := by
  cases es with
  | nil => rfl
  | cons entry rest =>
    obtain ⟨name, e⟩ := entry
    simp only [bareEntries, knownEntries?, e.known?_bare, knownEntries?_bare rest]
    cases e.known? <;> cases knownEntries? rest <;> rfl

end

/-! ## Trees to which places do not matter -/

section Plain

-- Whether the constants of the run may be read.
variable (constants : Bool)

mutual

/-- Whether a literal is plain. -/
def Literal.isPlain : Literal → Bool
  | .array items => arePlainLiterals items
  | .object entries => arePlainLiteralEntries entries
  | .closure _ body => isPlainBody body
  | _ => true

/-- Whether literals are plain. -/
def arePlainLiterals : List Literal → Bool
  | [] => true
  | v :: rest => v.isPlain && arePlainLiterals rest

/-- Whether the entries of a literal are plain. -/
def arePlainLiteralEntries : List (String × Literal) → Bool
  | [] => true
  | (_, v) :: rest => v.isPlain && arePlainLiteralEntries rest

/-- Whether an expression is plain: nothing in it catches a fault under a name, nor reads a constant of
the run unless that is allowed. -/
def Expr.isPlain : Expr → Bool
  | .literal v _ => v.isPlain
  | .variable .. | .this _ => true
  | .global .. => constants
  | .array items _ => arePlainExprs items
  | .object entries _ => arePlainEntries entries
  | .unary _ operand _ => operand.isPlain
  | .binary _ left right _ => left.isPlain && right.isPlain
  | .lazy _ left right _ => left.isPlain && right.isPlain
  | .member item container _ _ => item.isPlain && container.isPlain
  | .call _ args _ => arePlainExprs args
  | .chain root links => root.isPlain && arePlainLinks links
  | .closure captured _ body _ => isPlainCaptured captured && isPlainBody body
  | .block body _ => isPlainBody body

/-- Whether expressions are plain. -/
def arePlainExprs : List Expr → Bool
  | [] => true
  | e :: rest => e.isPlain && arePlainExprs rest

/-- Whether the entries of an object are plain. -/
def arePlainEntries : List (String × Expr) → Bool
  | [] => true
  | (_, e) :: rest => e.isPlain && arePlainEntries rest

/-- Whether the values are plain that captured names are bound to. -/
def isPlainCaptured : List (String × Option Literal) → Bool
  | [] => true
  | (_, none) :: rest => isPlainCaptured rest
  | (_, some v) :: rest => v.isPlain && isPlainCaptured rest

/-- Whether a link is plain. -/
def Link.isPlain : Link → Bool
  | .property .. => true
  | .index key _ => key.isPlain
  | .method _ args _ _ => arePlainExprs args

/-- Whether links are plain. -/
def arePlainLinks : List Link → Bool
  | [] => true
  | link :: rest => link.isPlain && arePlainLinks rest

/-- Whether what may be left out is plain. -/
def isPlainGiven : Option Expr → Bool
  | none => true
  | some e => e.isPlain

/-- Whether a statement is plain: nothing in it catches a fault under a name, nor reads a constant of
the run unless that is allowed. -/
def Statement.isPlain : Statement → Bool
  | .pass _ | .next _ => true
  | .expression e => e.isPlain
  | .define _ _ value _ => isPlainGiven value
  | .assign _ target value _ => target.isPlain && value.isPlain
  | .block body _ => isPlainBody body
  | .branch condition yes _ no _ _ => condition.isPlain && (isPlainBody yes && isPlainBody no)
  | .switch subject cases otherwise _ =>
    subject.isPlain && (arePlainCases cases && isPlainGiven otherwise)
  | .forever body _ _ => isPlainBody body
  | .repeatWhile condition body _ _ => condition.isPlain && isPlainBody body
  | .repeatAfter body condition _ _ => isPlainBody body && condition.isPlain
  | .forEach _ _ source body _ _ => source.isPlain && isPlainBody body
  | .leave value _ => isPlainGiven value
  | .giveBack value _ => isPlainGiven value
  | .raise value _ => isPlainGiven value
  | .attempt body name handler _ _ => name.isNone && (isPlainBody body && isPlainBody handler)

/-- Whether statements are plain. -/
def isPlainBody : List Statement → Bool
  | [] => true
  | s :: rest => s.isPlain && isPlainBody rest

/-- Whether a case of a switch is plain. -/
def Case.isPlain : Case → Bool
  | .mk keys condition action => arePlainKeys keys && (isPlainGiven condition && action.isPlain)

/-- Whether cases of a switch are plain. -/
def arePlainCases : List Case → Bool
  | [] => true
  | case :: rest => case.isPlain && arePlainCases rest

/-- Whether what a case matches is plain. -/
def Key.isPlain : Key → Bool
  | .value v => v.isPlain
  | .range .. => true

/-- Whether what cases match is plain. -/
def arePlainKeys : List Key → Bool
  | [] => true
  | key :: rest => key.isPlain && arePlainKeys rest

end

mutual

theorem Literal.isPlain_bare (v : Literal) : v.bare.isPlain constants = v.isPlain constants := by
  cases v with
  | array items => exact arePlainLiterals_bare items
  | object entries => exact arePlainLiteralEntries_bare entries
  | closure params body => exact isPlainBody_bare body
  | _ => rfl

theorem arePlainLiterals_bare (vs : List Literal) :
    arePlainLiterals constants (bareLiterals vs) = arePlainLiterals constants vs := by
  cases vs with
  | nil => rfl
  | cons v rest => exact congrArg₂ (· && ·) v.isPlain_bare (arePlainLiterals_bare rest)

theorem arePlainLiteralEntries_bare (vs : List (String × Literal)) :
    arePlainLiteralEntries constants (bareLiteralEntries vs) = arePlainLiteralEntries constants vs := by
  cases vs with
  | nil => rfl
  | cons entry rest => exact congrArg₂ (· && ·) entry.2.isPlain_bare (arePlainLiteralEntries_bare rest)

theorem Expr.isPlain_bare (e : Expr) : e.bare.isPlain constants = e.isPlain constants := by
  cases e with
  | literal v p => exact v.isPlain_bare
  | «variable» | this | global => rfl
  | array items p => exact arePlainExprs_bare items
  | object entries p => exact arePlainEntries_bare entries
  | unary op operand p => exact operand.isPlain_bare
  | binary op left right p => exact congrArg₂ (· && ·) left.isPlain_bare right.isPlain_bare
  | lazy op left right p => exact congrArg₂ (· && ·) left.isPlain_bare right.isPlain_bare
  | member item container negated p =>
    exact congrArg₂ (· && ·) item.isPlain_bare container.isPlain_bare
  | call name args p => exact arePlainExprs_bare args
  | chain root links => exact congrArg₂ (· && ·) root.isPlain_bare (arePlainLinks_bare links)
  | closure captured params body p =>
    exact congrArg₂ (· && ·) (isPlainCaptured_bare captured) (isPlainBody_bare body)
  | block body p => exact isPlainBody_bare body

theorem arePlainExprs_bare (es : List Expr) :
    arePlainExprs constants (bareExprs es) = arePlainExprs constants es := by
  cases es with
  | nil => rfl
  | cons e rest => exact congrArg₂ (· && ·) e.isPlain_bare (arePlainExprs_bare rest)

theorem arePlainEntries_bare (entries : List (String × Expr)) :
    arePlainEntries constants (bareEntries entries) = arePlainEntries constants entries := by
  cases entries with
  | nil => rfl
  | cons entry rest => exact congrArg₂ (· && ·) entry.2.isPlain_bare (arePlainEntries_bare rest)

theorem isPlainCaptured_bare (captured : List (String × Option Literal)) :
    isPlainCaptured constants (bareCaptured captured) = isPlainCaptured constants captured := by
  cases captured with
  | nil => rfl
  | cons entry rest =>
    obtain ⟨name, _ | v⟩ := entry
    · exact isPlainCaptured_bare rest
    · exact congrArg₂ (· && ·) v.isPlain_bare (isPlainCaptured_bare rest)

theorem Link.isPlain_bare (link : Link) : link.bare.isPlain constants = link.isPlain constants := by
  cases link with
  | property => rfl
  | index key joint => exact key.isPlain_bare
  | method name args p joint => exact arePlainExprs_bare args

theorem arePlainLinks_bare (links : List Link) :
    arePlainLinks constants (bareLinks links) = arePlainLinks constants links := by
  cases links with
  | nil => rfl
  | cons link rest => exact congrArg₂ (· && ·) link.isPlain_bare (arePlainLinks_bare rest)

theorem isPlainGiven_bare (given : Option Expr) :
    isPlainGiven constants (bareGiven given) = isPlainGiven constants given := by
  cases given with
  | none => rfl
  | some e => exact e.isPlain_bare

theorem Statement.isPlain_bare (s : Statement) : s.bare.isPlain constants = s.isPlain constants := by
  cases s with
  | pass | next => rfl
  | expression e => exact e.isPlain_bare
  | define name constant value p => exact isPlainGiven_bare value
  | assign op target value p => exact congrArg₂ (· && ·) target.isPlain_bare value.isPlain_bare
  | block body p => exact isPlainBody_bare body
  | branch condition yes p no q r =>
    exact congrArg₂ (· && ·) condition.isPlain_bare
      (congrArg₂ (· && ·) (isPlainBody_bare yes) (isPlainBody_bare no))
  | switch subject cases otherwise p =>
    exact congrArg₂ (· && ·) subject.isPlain_bare
      (congrArg₂ (· && ·) (arePlainCases_bare cases) (isPlainGiven_bare otherwise))
  | forever body p q => exact isPlainBody_bare body
  | repeatWhile condition body p q =>
    exact congrArg₂ (· && ·) condition.isPlain_bare (isPlainBody_bare body)
  | repeatAfter body condition goal p =>
    exact congrArg₂ (· && ·) (isPlainBody_bare body) condition.isPlain_bare
  | forEach name counter source body p q =>
    exact congrArg₂ (· && ·) source.isPlain_bare (isPlainBody_bare body)
  | leave value p => exact isPlainGiven_bare value
  | giveBack value p => exact isPlainGiven_bare value
  | raise value p => exact isPlainGiven_bare value
  | attempt body name handler p q =>
    exact congrArg (name.isNone && ·)
      (congrArg₂ (· && ·) (isPlainBody_bare body) (isPlainBody_bare handler))

theorem isPlainBody_bare (body : List Statement) :
    isPlainBody constants (bareBody body) = isPlainBody constants body := by
  cases body with
  | nil => rfl
  | cons s rest => exact congrArg₂ (· && ·) s.isPlain_bare (isPlainBody_bare rest)

theorem Case.isPlain_bare (case : Case) : case.bare.isPlain constants = case.isPlain constants := by
  obtain ⟨keys, condition, action⟩ := case
  exact congrArg₂ (· && ·) (arePlainKeys_bare keys)
    (congrArg₂ (· && ·) (isPlainGiven_bare condition) action.isPlain_bare)

theorem arePlainCases_bare (cases : List Case) :
    arePlainCases constants (bareCases cases) = arePlainCases constants cases := by
  cases cases with
  | nil => rfl
  | cons case rest => exact congrArg₂ (· && ·) case.isPlain_bare (arePlainCases_bare rest)

theorem Key.isPlain_bare (key : Key) : key.bare.isPlain constants = key.isPlain constants := by
  cases key with
  | value v => exact v.isPlain_bare
  | range => rfl

theorem arePlainKeys_bare (keys : List Key) :
    arePlainKeys constants (bareKeys keys) = arePlainKeys constants keys := by
  cases keys with
  | nil => rfl
  | cons key rest => exact congrArg₂ (· && ·) key.isPlain_bare (arePlainKeys_bare rest)

end

mutual

/-- What is known of a plain expression is plain. -/
theorem Expr.isPlain_known {e : Expr} (plain : e.isPlain constants = true) {v : Literal}
    (known : e.known? = some v) : v.isPlain constants = true := by
  cases e with
  | literal w p =>
    cases known
    exact plain
  | array items p =>
    obtain ⟨vs, found, rfl⟩ := Option.map_eq_some_iff.mp known
    exact arePlainLiterals_known plain found
  | object entries p =>
    obtain ⟨vs, found, rfl⟩ := Option.map_eq_some_iff.mp known
    exact arePlainLiteralEntries_known plain found
  | _ => cases known

theorem arePlainLiterals_known {es : List Expr} (plain : arePlainExprs constants es = true)
    {vs : List Literal} (known : knownItems? es = some vs) : arePlainLiterals constants vs = true := by
  cases es with
  | nil =>
    cases known
    rfl
  | cons e rest =>
    obtain ⟨here, others⟩ := Bool.and_eq_true_iff.mp plain
    unfold knownItems? at known
    split at known
    · next v vs found foundRest =>
      cases known
      exact Bool.and_eq_true_iff.mpr
        ⟨e.isPlain_known here found, arePlainLiterals_known others foundRest⟩
    · cases known

theorem arePlainLiteralEntries_known {es : List (String × Expr)}
    (plain : arePlainEntries constants es = true) {vs : List (String × Literal)}
    (known : knownEntries? es = some vs) : arePlainLiteralEntries constants vs = true := by
  cases es with
  | nil =>
    cases known
    rfl
  | cons entry rest =>
    obtain ⟨name, e⟩ := entry
    obtain ⟨here, others⟩ := Bool.and_eq_true_iff.mp plain
    unfold knownEntries? at known
    split at known
    · next v vs found foundRest =>
      cases known
      exact Bool.and_eq_true_iff.mpr
        ⟨e.isPlain_known here found, arePlainLiteralEntries_known others foundRest⟩
    · cases known

end

end Plain

end ScriptGate.Script
