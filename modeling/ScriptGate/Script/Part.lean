import ScriptGate.Script.Library

/-!
Parts of values: items, entries, characters, bits, bytes and properties.

A part knows what it is and, if it has a place in the whole, what the whole becomes when something
else is put there. What is done to a part of a part is thus done to the whole by putting the parts
back one after the other. Items and entries are values of their own, which cannot change in a constant; all
other parts are made out of the whole when they are asked for.
-/

namespace ScriptGate.Script

/-- A part of a value. A property that is only computed has no place. -/
structure Part where
  value : Value
  /-- Whether the part is a value of its own. -/
  isOwn : Bool
  put? : Option (Value → Except ErrorCause Value)

namespace Part

/-- What a part of a constant was made with, if the constant was made with that part; `look` is the way to the
part. -/
def made? (look : Value → Except Error Part) (whole : Option Value) : Option Value :=
  match whole.map look with
  | some (.ok part) => if part.isOwn then some part.value else none
  | _ => none

/-- A value of its own, whose place takes any other one. -/
def own (value : Value) (put : Value → Value) : Part := ⟨value, true, some fun v => .ok (put v)⟩

/-- The item of an array. -/
def item (items : List Value) (i : Int64) : Except ErrorCause Part :=
  match Library.index? items.length i with
  | some n => .ok (.own (items.getD n .unit) fun v => .array (items.set n v))
  | none => .error (.arrayBounds items.length i)

/-- The entry of an object. -/
def entry (entries : Entries) (name : String) : Except ErrorCause Part :=
  match entries.get? name with
  | some value => .ok (.own value fun v => .object (entries.insert name v))
  | none => .error (.propertyNotFound name)

/-- The character of a text, which only gives way to a character. That one goes to the place that the index
tells without its sign. -/
def character (s : String) (i : Int64) : Except ErrorCause Part :=
  let cs := s.toList
  match Library.index? cs.length i with
  | some n =>
    .ok ⟨.character (cs.getD n ' '), false, some fun
      | .character c => .ok (.text (String.ofList (cs.set i.toInt.natAbs c)))
      | v => .error (.typeMismatch v.fullKind "char")⟩
  | none => .error (.textBounds cs.length i)

/-- A stretch of a text. A start in front of the text is an error, an end beyond it is none. -/
def stretch (s : String) (first last : Int64) (inclusive : Bool) : Except ErrorCause Part :=
  let cs := s.toList
  let start := if 0 ≤ first then some first.toInt.toNat else Library.index? cs.length first
  let stop := if 0 ≤ last then last.toInt.toNat else (Library.index? cs.length last).getD 0
  match start with
  | some start =>
    let stop := max start (stop + if inclusive then 1 else 0)
    .ok ⟨.text (String.ofList ((cs.drop start).take (stop - start))), false, some fun v =>
      .ok (.text (String.ofList (cs.take start) ++ v.plainText ++ String.ofList (cs.drop stop)))⟩
  | none => .error (.textBounds cs.length first)

/-- The bit of an integer. -/
def bit (n : Int64) (i : Int64) : Except ErrorCause Part :=
  match Library.index? 64 i with
  | some place =>
    let mask : Int64 := Int64.ofInt (Int.pow 2 place)
    .ok ⟨.boolean ((n &&& mask) ≠ 0), false, some fun
      | .boolean true => .ok (.integer (n ||| mask))
      | .boolean false => .ok (.integer (n &&& ~~~mask))
      | v => .error (.typeMismatch v.fullKind "bool")⟩
  | none => .error (.bitBounds 64 i)

/-- Some of the bits of an integer, as an integer with the sign of the whole if they go up to its last bit. The
range has to lie within the bits and does not count from the end. -/
def bits (n : Int64) (first last : Int64) (inclusive : Bool) : Except ErrorCause Part :=
  if first < 0 ∨ 64 ≤ first then .error (.bitBounds 64 first)
  else if last < 0 ∨ 64 ≤ last then .error (.bitBounds 64 last)
  else
    let count := (last - first + if inclusive then 1 else 0).toInt.toNat
    let mask : Int64 := Int64.ofInt ((Int.pow 2 count - 1) * Int.pow 2 first.toInt.toNat)
    .ok ⟨.integer ((n &&& mask) >>> first), false, some fun
      | .integer m => .ok (.integer ((n &&& ~~~mask) ||| ((m <<< first) &&& mask)))
      | v => .error (.typeMismatch v.fullKind "integer")⟩

/-- The byte of a blob, of which an integer gives the lowest eight bits. -/
def byte (bytes : List UInt8) (i : Int64) : Except ErrorCause Part :=
  match Library.index? bytes.length i with
  | some n =>
    .ok ⟨.integer (Int64.ofNat (bytes.getD n 0).toNat), false, some fun
      | .integer b => .ok (.blob (bytes.set n (Library.byte b)))
      | v => .error (.typeMismatch v.fullKind "INT")⟩
  | none => .error (.arrayBounds bytes.length i)

/-- The part of a value at an index, or the fault: `q` is the place of the index, `p` that of
the bracket. -/
def atIndex (whole key : Value) (q p : Position) : Except Error Part :=
  let result := match whole, key with
    | .array items, .integer i => item items i
    | .object entries, .text name => entry entries name
    | .text s, .integer i => character s i
    | .text s, .range first last inclusive => stretch s first last inclusive
    | .integer n, .integer i => bit n i
    | .integer n, .range first last inclusive => bits n first last inclusive
    | .blob bytes, .integer i => byte bytes i
    | .object _, key => .error (.typeMismatch key.fullKind "string")
    | .array _, key | .text _, key | .integer _, key | .blob _, key =>
      .error (.typeMismatch key.fullKind "i64")
    | whole, key => .error (.noIndexer (whole.kind ++ " [" ++ key.kind ++ "]"))
  match result with
  | .ok part => .ok part
  | .error (.noIndexer signature) => .error (.plain (.noIndexer signature) (some p))
  | .error cause => .error (.plain cause (some q))

/-- The property of a value, or the fault at the place of its name. -/
def named (whole : Value) (name : String) (p : Position) : Except Error Part :=
  let result := match whole with
    | .object entries => entry entries name
    | v =>
      match Library.property? name v with
      | some result => result.map fun v => ⟨v, false, none⟩
      | none =>
        .error (.noGetter name v.kind)
  result.mapError fun cause => .plain cause (some p)

end Part

end ScriptGate.Script
