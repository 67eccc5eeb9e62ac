import ScriptGate.Script.Tree

/-!
The values that scripts compute with.

The entries of an object stand in ascending order of their names, each name once. A function value is
a name, or an anonymous function; it carries the cells of the variables it captured and the
arguments bound to it in advance.
-/

namespace ScriptGate.Script

inductive Value where
  | unit
  | boolean (b : Bool)
  | integer (n : Int64)
  | double (x : Float)
  | character (c : Char)
  | text (s : String)
  | array (items : List Value)
  | object (entries : List (String × Value))
  | range (first last : Int64) (inclusive : Bool)
  /-- One byte of a blob, as a loop gives it. -/
  | byte (b : UInt8)
  | blob (bytes : List UInt8)
  | timestamp
  | function (name : String) (body : Option Function) (cells : List Nat) (bound : List Value)

instance : Inhabited Value := ⟨.unit⟩

/-- The entries of an object, ascending by name. -/
abbrev Entries := List (String × Value)

namespace Entries

/-- The value of an entry. -/
def get? (entries : Entries) (name : String) : Option Value := List.lookup name entries

/-- Adds an entry in its place, or replaces the one of that name. -/
def insert (name : String) (value : Value) : Entries → Entries
  | [] => [(name, value)]
  | (other, old) :: rest =>
    if name < other then (name, value) :: (other, old) :: rest
    else if name = other then (name, value) :: rest
    else (other, old) :: insert name value rest

/-- The entries without the one of that name. -/
def erase (entries : Entries) (name : String) : Entries := entries.filter fun e => e.1 ≠ name

end Entries

namespace Value

/-! ## Values that are known before the script runs -/

/-- The name that all anonymous functions have. -/
def anonymous : String := "anon$"

mutual

/-- The value of a literal. -/
def ofLiteral : Literal → Value
  | .unit => .unit
  | .boolean b => .boolean b
  | .integer n => .integer n
  | .double x => .double x
  | .character c => .character c
  | .text s => .text s
  | .array items => .array (ofLiterals items)
  | .object entries => .object (ofLiteralEntries entries)
  | .range first last inclusive => .range first last inclusive
  | .byte b => .byte b
  | .blob bytes => .blob bytes
  | .timestamp => .timestamp
  | .function name => .function name none [] []
  | .closure params body => .function anonymous (some ⟨anonymous, params, body⟩) [] []

/-- The values of items. -/
def ofLiterals : List Literal → List Value
  | [] => []
  | v :: rest => ofLiteral v :: ofLiterals rest

/-- The entries of an object. -/
def ofLiteralEntries : List (String × Literal) → Entries
  | [] => []
  | (name, v) :: rest => (ofLiteralEntries rest).insert name (ofLiteral v)

end

mutual

/-- The literal with the given value. An anonymous function that captured something, or that has
arguments bound to it, has none. -/
def toLiteral? : Value → Option Literal
  | .unit => some .unit
  | .boolean b => some (.boolean b)
  | .integer n => some (.integer n)
  | .double x => some (.double x)
  | .character c => some (.character c)
  | .text s => some (.text s)
  | .array items => (toLiterals? items).map .array
  | .object entries => (toLiteralEntries? entries).map .object
  | .range first last inclusive => some (.range first last inclusive)
  | .byte b => some (.byte b)
  | .blob bytes => some (.blob bytes)
  | .timestamp => some .timestamp
  | .function name none [] [] => some (.function name)
  | .function _ (some f) [] [] => some (.closure f.params f.body)
  | .function .. => none

/-- The literals of items. -/
def toLiterals? : List Value → Option (List Literal)
  | [] => some []
  | v :: rest =>
    match v.toLiteral?, toLiterals? rest with
    | some x, some xs => some (x :: xs)
    | _, _ => none

/-- The literals of entries. -/
def toLiteralEntries? : List (String × Value) → Option (List (String × Literal))
  | [] => some []
  | (name, v) :: rest =>
    match v.toLiteral?, toLiteralEntries? rest with
    | some x, some xs => some ((name, x) :: xs)
    | _, _ => none

end

mutual

/-- Whether a value is the one of a literal, kind for kind; doubles are told apart by their bits. -/
def isLiteral : Value → Literal → Bool
  | .unit, .unit => true
  | .boolean a, .boolean b => a = b
  | .integer a, .integer b => a = b
  | .double a, .double b => a.toBits = b.toBits
  | .character a, .character b => a = b
  | .text a, .text b => a = b
  | .array a, .array b => areLiterals a b
  | .object a, .object b => areLiteralEntries a b
  | .range a b i, .range c d j => a = c ∧ b = d ∧ i = j
  | .byte a, .byte b => a = b
  | .blob a, .blob b => a = b
  | .function a none _ _, .function b => a = b
  | _, _ => false

/-- Whether the items of an array are those of a literal. -/
def areLiterals : List Value → List Literal → Bool
  | [], [] => true
  | a :: as, b :: bs => a.isLiteral b && areLiterals as bs
  | _, _ => false

/-- Whether all entries of an object are entries of a literal. -/
def areLiteralEntries : List (String × Value) → List (String × Literal) → Bool
  | [], rest => rest.isEmpty
  | (name, a) :: as, bs =>
    (match bs.lookup name with
      | some b => a.isLiteral b
      | none => false) && areLiteralEntries as (bs.filter fun e => e.1 ≠ name)

end

/-- Whether a value is the unit value. -/
def isUnit : Value → Bool
  | .unit => true
  | _ => false

/-! ## Kinds -/

/-- The name of a value's kind. -/
def kind : Value → String
  | .unit => "()"
  | .boolean _ => "bool"
  | .integer _ => "i64"
  | .double _ => "f64"
  | .character _ => "char"
  | .text _ => "string"
  | .array _ => "array"
  | .object _ => "map"
  | .range _ _ false => "range"
  | .range _ _ true => "range="
  | .byte _ => "u8"
  | .blob _ => "blob"
  | .timestamp => "timestamp"
  | .function .. => "Fn"

/-- The name of a value's kind where a value of another kind is wanted. -/
def fullKind : Value → String
  | .range _ _ false => "core::ops::range::Range<i64>"
  | .range _ _ true => "core::ops::range::RangeInclusive<i64>"
  | v => v.kind

/-- How the kind of an argument is told where no function fits it. -/
def argumentKind : Value → String
  | .text _ => "&str | ImmutableString | String"
  | v => v.kind

/-! ## Sizes -/

/-- How much a value holds, counted through all its parts. -/
structure Size where
  /-- Items of arrays, and bytes of blobs. -/
  items : Nat
  /-- Entries of objects. -/
  entries : Nat
  /-- Bytes of texts. -/
  bytes : Nat
deriving DecidableEq, Repr

/-- Two sizes together. -/
def Size.add (a b : Size) : Size := ⟨a.items + b.items, a.entries + b.entries, a.bytes + b.bytes⟩

mutual

/-- The size of a value. -/
def size : Value → Size
  | .text s => ⟨0, 0, s.utf8ByteSize⟩
  | .array items => itemsSize items
  | .object entries => entriesSize entries
  | .blob bytes => ⟨bytes.length, 0, 0⟩
  | _ => ⟨0, 0, 0⟩

/-- The size of an array with these items. -/
def itemsSize : List Value → Size
  | [] => ⟨0, 0, 0⟩
  | item :: rest => Size.add ⟨1, 0, 0⟩ (item.size.add (itemsSize rest))

/-- The size of an object with these entries. -/
def entriesSize : List (String × Value) → Size
  | [] => ⟨0, 0, 0⟩
  | (_, value) :: rest => Size.add ⟨0, 1, 0⟩ (value.size.add (entriesSize rest))

end

/-! ## Equality -/

mutual

/-- Whether two values are equal. Values of different kinds are not; two values of one kind that has no
equality are handed back. -/
def equal : Value → Value → Except (Value × Value) Bool
  | .unit, .unit => .ok true
  | .boolean a, .boolean b => .ok (a = b)
  | .integer a, .integer b => .ok (a = b)
  | .double a, .double b => .ok (a == b)
  | .integer a, .double b => .ok (a.toFloat == b)
  | .double a, .integer b => .ok (a == b.toFloat)
  | .character a, .character b => .ok (a = b)
  | .text a, .text b => .ok (a = b)
  | .character a, .text b => .ok (a.toString = b)
  | .text a, .character b => .ok (a = b.toString)
  | .array a, .array b => if a.length = b.length then equalItems a b else .ok false
  | .object a, .object b => if a.length = b.length then equalEntries a b else .ok false
  | .range a b i, .range c d j => .ok (a = c ∧ b = d ∧ i = j)
  | .byte a, .byte b => .ok (a = b)
  | .blob a, .blob b => .ok (a = b)
  | .timestamp, .timestamp => .ok true
  | .function name body cells bound, .function name' body' cells' bound' =>
    .error (.function name body cells bound, .function name' body' cells' bound')
  | _, _ => .ok false

/-- Whether two lists of items are equal item by item. -/
def equalItems : List Value → List Value → Except (Value × Value) Bool
  | [], [] => .ok true
  | a :: as, b :: bs =>
    match equal a b with
    | .ok true => equalItems as bs
    | other => other
  | _, _ => .ok false

/-- Whether two objects have the same names with equal values. -/
def equalEntries : List (String × Value) → List (String × Value) → Except (Value × Value) Bool
  | [], [] => .ok true
  | (name, a) :: as, (other, b) :: bs =>
    if name = other then
      match equal a b with
      | .ok true => equalEntries as bs
      | answer => answer
    else .ok false
  | _, _ => .ok false

end

end Value

end ScriptGate.Script
