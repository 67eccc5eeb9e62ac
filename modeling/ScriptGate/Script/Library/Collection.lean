import ScriptGate.Script.Library.Basic

/-!
Functions of arrays, objects, ranges and blobs, as far as they call no function of the script.
-/

namespace ScriptGate.Script.Library

/-! ## Arrays -/

/-- An array with an item put in at a position. -/
def insertAt (items : List Value) (i : Int64) (v : Value) : List Value :=
  let n := position items.length i
  items.take n ++ v :: items.drop n

/-- Cuts the part from a position on off a list; one from the beginning on leaves nothing. -/
def cutOff {α : Type} (whole : List α) (i : Int64) : List α × List α :=
  let n := position whole.length i
  (whole.take n, whole.drop n)

/-- Whether an item is less than another one of its kind; none where the kind has no order. -/
def less? : Value → Value → Option Bool
  | .integer a, .integer b => some (a < b)
  | .double a, .double b => some (a < b)
  | .text a, .text b => some (a < b)
  | .character a, .character b => some (a < b)
  | .boolean a, .boolean b => some (!a && b)
  | .unit, .unit => some false
  | _, _ => none

/-- Puts an item into its place in a list that descends, from the greatest one on. -/
def insertOrdered (item : Value) : List Value → List Value
  | [] => [item]
  | last :: rest =>
    if (less? item last).getD false then last :: insertOrdered item rest else item :: last :: rest

/-- Items in ascending order. A double that is no number stands in no order to any other, so with one among
them the items are put into their places one after the other. -/
def ordered (items : List Value) : List Value :=
  let isNumber : Value → Bool
    | .double x => !x.isNaN
    | _ => true
  if items.all isNumber then items.mergeSort fun a b => !(less? b a).getD false
  else (items.foldl (fun seen item => insertOrdered item seen) []).reverse

/-- An array in ascending order, if its items are of one kind that has an order. -/
def sorted (items : List Value) : Effect :=
  let refused (text : String) : Effect := .change (.array items) (.error (.functionNotFound text))
  match items with
  | first :: _ :: _ =>
    if items.any fun v => v.fullKind ≠ first.fullKind then
      refused "elements of different types cannot be sorted"
    else if (less? first first).isNone then
      refused ("elements of " ++ first.fullKind ++ " cannot be sorted")
    else .become (.array (ordered items))
  | _ => .become (.array items)

/-- The index of the first item that equals a value, if there is one. Two values of one kind without equality
cannot be compared. -/
def firstEqual? (v : Value) (index : Nat) : List Value → Except ErrorCause (Option Nat)
  | [] => .ok none
  | item :: rest =>
    match item.equal v with
    | .ok true => .ok (some index)
    | .ok false => firstEqual? v (index + 1) rest
    | .error (a, b) => .error (.unknownCall "==" [a, b])

/-- Whether a value equals one of the items. -/
def has (v : Value) (items : List Value) : Except ErrorCause Value :=
  (firstEqual? v 0 items).map fun found => .boolean found.isSome

/-- Where an item equal to a value stands, from an index on, or minus one. -/
def itemIndex (v : Value) (start : Int64) (items : List Value) : Except ErrorCause Value :=
  let start := position items.length start
  (firstEqual? v start (items.drop start)).map fun
    | some i => .integer (Int64.ofNat i)
    | none => .integer (-1)

/-- The functions of one array. -/
def onArray? (name : String) (items : List Value) : Option Effect :=
  match name with
  | "len" => some (.seen (.integer (Int64.ofNat items.length)))
  | "is_empty" => some (.seen (.boolean items.isEmpty))
  | "pop" =>
    match items.getLast? with
    | some v => some (.change (.array items.dropLast) (.ok v))
    | none => some (.change (.array []) (.ok .unit))
  | "shift" =>
    match items with
    | v :: rest => some (.change (.array rest) (.ok v))
    | [] => some (.change (.array []) (.ok .unit))
  | "clear" => some (.become (.array []))
  | "reverse" => some (.become (.array items.reverse))
  | "sort" => some (sorted items)
  | _ => none

/-- The functions of an array and another argument. -/
def onArrayAnd? (name : String) (items : List Value) (arg : Value) : Option Effect :=
  match name, arg with
  | "push", v => some (.become (.array (items ++ [v])))
  | "contains", v => some (.look (has v items))
  | "append", .array more => some (.become (.array (items ++ more)))
  | "append", v => some (.become (.array (items ++ [v])))
  | "remove", .integer i =>
    match index? items.length i with
    | some n => some (.change (.array (items.eraseIdx n)) (.ok (items[n]?.getD .unit)))
    | none => some (.change (.array items) (.ok .unit))
  | "truncate", .integer n => some (.become (.array (items.take n.toInt.toNat)))
  | "get", .integer i =>
    some (.seen (((index? items.length i).bind fun n => items[n]?).getD .unit))
  | "index_of", v => some (.look (itemIndex v 0 items))
  | "split", .integer i =>
    let (kept, cut) := cutOff items i
    some (.change (.array kept) (.ok (.array cut)))
  | "extract", .integer i => some (.seen (.array (items.drop (position items.length i))))
  | "extract", .range first last inclusive =>
    let (start, length) := stretch items.length first last inclusive
    some (.seen (.array ((items.drop start).take length)))
  | _, _ => none

/-- The functions of an array and two other arguments. -/
def onArrayAndTwo? (name : String) (items : List Value) (a b : Value) : Option Effect :=
  match name, a, b with
  | "insert", .integer i, v => some (.become (.array (insertAt items i v)))
  | "extract", .integer i, .integer n =>
    some (.seen (.array ((items.drop (position items.length i)).take n.toInt.toNat)))
  | "index_of", v, .integer start => some (.look (itemIndex v start items))
  | _, _, _ => none

/-! ## Objects -/

/-- The functions of an object. -/
def onObject? (name : String) (entries : Entries) (args : List Value) : Option Effect :=
  match name, args with
  | "len", [] => some (.seen (.integer (Int64.ofNat entries.length)))
  | "is_empty", [] => some (.seen (.boolean entries.isEmpty))
  | "clear", [] => some (.become (.object []))
  | "keys", [] => some (.seen (.array (entries.map fun e => .text e.1)))
  | "values", [] => some (.seen (.array (entries.map Prod.snd)))
  | "contains", [.text key] => some (.seen (.boolean (entries.get? key).isSome))
  | "get", [.text key] => some (.seen ((entries.get? key).getD .unit))
  | "set", [.text key, v] => some (.become (.object (entries.insert key v)))
  | "remove", [.text key] =>
    some (.change (.object (entries.erase key)) (.ok ((entries.get? key).getD .unit)))
  | "mixin", [.object more] =>
    some (.become
      (.object (more.foldl (fun entries (name, value) => Entries.insert name value entries) entries)))
  | _, _ => none

/-! ## Ranges and blobs -/

/-- The functions of ranges. -/
def onRange? (name : String) (first last : Int64) (inclusive : Bool) (args : List Value) :
    Option Effect :=
  match name, args with
  | "contains", [v] => (integer? v).map fun n => .truth (inRange first last inclusive n)
  | "start", [] => some (.value (.integer first))
  | "end", [] => some (.value (.integer last))
  | "is_inclusive", [] => some (.truth inclusive)
  | "is_exclusive", [] => some (.truth !inclusive)
  | "is_empty", [] => some (.truth (if inclusive then last < first else last ≤ first))
  | _, _ => none

/-- The lowest eight bits of an integer. -/
def byte (n : Int64) : UInt8 := UInt8.ofNat (n.toInt % 256).toNat

/-- A byte as an integer. -/
def ofByte (b : UInt8) : Value := .integer (Int64.ofNat b.toNat)

/-- A blob with a byte put in at a position. -/
def insertByte (bytes : List UInt8) (i n : Int64) : List UInt8 :=
  let place := position bytes.length i
  bytes.take place ++ byte n :: bytes.drop place

/-- A blob without the byte at an index, and that byte, or zero where there is none. -/
def removeByte (bytes : List UInt8) (i : Int64) : Effect :=
  match index? bytes.length i with
  | some n => .change (.blob (bytes.eraseIdx n)) (.ok (ofByte (bytes.getD n 0)))
  | none => .change (.blob bytes) (.ok (.integer 0))

/-- The functions of blobs. -/
def onBlob? (name : String) (bytes : List UInt8) (args : List Value) : Option Effect :=
  match name, args with
  | "len", [] => some (.seen (.integer (Int64.ofNat bytes.length)))
  | "is_empty", [] => some (.seen (.boolean bytes.isEmpty))
  | "clear", [] => some (.become (.blob []))
  | "reverse", [] => some (.become (.blob bytes.reverse))
  | "push", [v] => (integer? v).map fun n => .become (.blob (bytes ++ [byte n]))
  | "contains", [v] => (integer? v).map fun n => .seen (.boolean (bytes.contains (byte n)))
  | "insert", [v, w] => do return .become (.blob (insertByte bytes (← integer? v) (← integer? w)))
  | "remove", [v] => (integer? v).map (removeByte bytes)
  | "split", [v] => (integer? v).map fun i =>
    let (kept, cut) := cutOff bytes i
    .change (.blob kept) (.ok (.blob cut))
  | "pop", [] => some (.change (.blob bytes.dropLast) (.ok (ofByte (bytes.getLast?.getD 0))))
  | "shift", [] => some (.change (.blob bytes.tail) (.ok (ofByte (bytes.head?.getD 0))))
  | _, _ => none

/-- The functions of collections. -/
def onCollections? (name : String) (args : List Value) : Option Effect :=
  match args with
  | [.array items] => onArray? name items
  | [.array items, arg] => onArrayAnd? name items arg
  | [.array items, a, b] => onArrayAndTwo? name items a b
  | .object entries :: args => onObject? name entries args
  | .range first last inclusive :: args => onRange? name first last inclusive args
  | .blob bytes :: args => onBlob? name bytes args
  | _ => none

end ScriptGate.Script.Library
