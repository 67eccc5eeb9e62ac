import Mathlib
import ScriptGate.Proofs.Script.Mirror.Tree
import ScriptGate.Script.Machine
import ScriptGate.Script.Part
import ScriptGate.Script.Value.Json

/-!
# Values under a change of function bodies and places

An anonymous function carries its body, and with it the places of its source. Whatever the library does
with values leaves the bodies in them alone, so it does the same to values whose bodies were all replaced
(`Recast`). Two replacements are of interest: the one that forgets places, and the one that drops the
bodies that are not plain, under which exactly the plain values stay as they are.
-/

namespace ScriptGate.Script

/-- What becomes of the bodies of functions and of the places of faults. -/
structure Recast where
  body : List Statement → List Statement
  place : Position → Position

namespace Recast

/-- Forgets all places. -/
def bare : Recast := ⟨bareBody, fun _ => .start⟩

/-- Drops the bodies that are not plain. -/
def cleaned (constants : Bool) : Recast :=
  ⟨fun body => if isPlainBody constants body then body else [], fun p => p⟩

end Recast

/-- What may contain bodies of functions or places. -/
class Castable (α : Type) where
  recast : Recast → α → α

export Castable (recast)

/-- A function with another body. -/
def Function.withBody (c : Recast) (f : Function) : Function := { f with body := c.body f.body }

instance : Castable Function := ⟨Function.withBody⟩

instance : Castable Bool := ⟨fun _ b => b⟩
instance : Castable Nat := ⟨fun _ n => n⟩
instance : Castable Int := ⟨fun _ n => n⟩
instance : Castable Unit := ⟨fun _ u => u⟩
instance : Castable String := ⟨fun _ s => s⟩
instance : Castable Position := ⟨fun c p => c.place p⟩

section Containers

variable {α β : Type} [Castable α] [Castable β]

instance : Castable (List α) := ⟨fun c => List.map (recast c)⟩
instance : Castable (Array α) := ⟨fun c => Array.map (recast c)⟩
instance : Castable (Option α) := ⟨fun c => Option.map (recast c)⟩
instance : Castable (α × β) := ⟨fun c p => (recast c p.1, recast c p.2)⟩

instance : Castable (Except α β) where
  recast c
    | .ok b => .ok (recast c b)
    | .error a => .error (recast c a)

variable (c : Recast)

@[simp] theorem recast_bool (b : Bool) : recast c b = b := rfl
@[simp] theorem recast_nat (n : Nat) : recast c n = n := rfl
@[simp] theorem recast_int (n : Int) : recast c n = n := rfl
@[simp] theorem recast_unit (u : Unit) : recast c u = u := rfl
@[simp] theorem recast_string (s : String) : recast c s = s := rfl
@[simp] theorem recast_pair (a : α) (b : β) : recast c (a, b) = (recast c a, recast c b) := rfl
@[simp] theorem recast_list (as : List α) : recast c as = as.map (recast c) := rfl
@[simp] theorem recast_option (a : Option α) : recast c a = a.map (recast c) := rfl
@[simp] theorem recast_ok (b : β) : recast c (.ok b : Except α β) = .ok (recast c b) := rfl
@[simp] theorem recast_error (a : α) : recast c (.error a : Except α β) = .error (recast c a) := rfl

end Containers

/-! ## Values -/

mutual

/-- A value with other bodies in it. -/
def Value.withBodies (c : Recast) : Value → Value
  | .array items => .array (recastItems c items)
  | .object entries => .object (recastEntries c entries)
  | .function name body cells bound =>
    .function name (body.map (Function.withBody c)) cells (recastItems c bound)
  | v => v

/-- Items with other bodies in them. -/
def recastItems (c : Recast) : List Value → List Value
  | [] => []
  | item :: rest => item.withBodies c :: recastItems c rest

/-- Entries with other bodies in them. -/
def recastEntries (c : Recast) : Entries → Entries
  | [] => []
  | (name, value) :: rest => (name, value.withBodies c) :: recastEntries c rest

end

instance : Castable Value := ⟨Value.withBodies⟩

section Values

variable (c : Recast)

theorem recastItems_eq (items : List Value) : recastItems c items = items.map (recast c) := by
  induction items with
  | nil => rfl
  | cons item rest ih => exact congrArg (item.withBodies c :: ·) ih

theorem recastEntries_eq (entries : Entries) : recastEntries c entries = entries.map (recast c) := by
  induction entries with
  | nil => rfl
  | cons entry rest ih => exact congrArg ((entry.1, entry.2.withBodies c) :: ·) ih

@[simp] theorem recast_vunit : recast c Value.unit = .unit := rfl
@[simp] theorem recast_boolean (b : Bool) : recast c (Value.boolean b) = .boolean b := rfl
@[simp] theorem recast_integer (n : Int64) : recast c (Value.integer n) = .integer n := rfl
@[simp] theorem recast_double (x : Float) : recast c (Value.double x) = .double x := rfl
@[simp] theorem recast_character (x : Char) : recast c (Value.character x) = .character x := rfl
@[simp] theorem recast_text (s : String) : recast c (Value.text s) = .text s := rfl
@[simp] theorem recast_range (a b : Int64) (i : Bool) :
    recast c (Value.range a b i) = .range a b i := rfl
@[simp] theorem recast_byte (b : UInt8) : recast c (Value.byte b) = .byte b := rfl
@[simp] theorem recast_blob (bytes : List UInt8) : recast c (Value.blob bytes) = .blob bytes := rfl
@[simp] theorem recast_timestamp : recast c Value.timestamp = .timestamp := rfl

@[simp] theorem recast_array (items : List Value) :
    recast c (Value.array items) = .array (items.map (recast c)) :=
  congrArg Value.array (recastItems_eq c items)

@[simp] theorem recast_object (entries : Entries) :
    recast c (Value.object entries) = .object (entries.map (recast c)) :=
  congrArg Value.object (recastEntries_eq c entries)

@[simp] theorem recast_function (name : String) (body : Option Function) (cells : List Nat)
    (bound : List Value) : recast c (Value.function name body cells bound) =
      .function name (body.map (recast c)) cells (bound.map (recast c)) :=
  congrArg (Value.function name (body.map (recast c)) cells) (recastItems_eq c bound)

@[simp] theorem Function.params_recast (f : Function) : (recast c f).params = f.params := rfl

namespace Value

@[simp] theorem kind_recast (v : Value) : (recast c v).kind = v.kind := by
  cases v with
  | range a b i => cases i <;> rfl
  | _ => rfl

@[simp] theorem fullKind_recast (v : Value) : (recast c v).fullKind = v.fullKind := by
  cases v with
  | range a b i => cases i <;> rfl
  | _ => rfl

@[simp] theorem argumentKind_recast (v : Value) : (recast c v).argumentKind = v.argumentKind := by
  cases v with
  | range a b i => cases i <;> rfl
  | _ => rfl

@[simp] theorem isUnit_recast (v : Value) : (recast c v).isUnit = v.isUnit := by cases v <;> rfl

end Value

/-! ## What is computed along the parts of a value -/

namespace Value

mutual

theorem size_recast (v : Value) : (recast c v).size = v.size := by
  cases v with
  | array items => exact (congrArg size (recast_array c items)).trans (itemsSize_recast items)
  | object entries => exact (congrArg size (recast_object c entries)).trans (entriesSize_recast entries)
  | _ => rfl

theorem itemsSize_recast (items : List Value) : itemsSize (items.map (recast c)) = itemsSize items := by
  cases items with
  | nil => rfl
  | cons item rest =>
    simp only [List.map_cons, itemsSize, size_recast item, itemsSize_recast rest]

theorem entriesSize_recast (entries : Entries) :
    entriesSize (entries.map (recast c)) = entriesSize entries := by
  cases entries with
  | nil => rfl
  | cons entry rest =>
    obtain ⟨name, v⟩ := entry
    simp only [List.map_cons, entriesSize, recast_pair, size_recast v, entriesSize_recast rest]

end

mutual

theorem debugWith_recast (quoteChars : Bool) (v : Value) :
    (recast c v).debugWith quoteChars = v.debugWith quoteChars := by
  cases v with
  | array items =>
    simp only [recast_array, debugWith, debugItems_recast quoteChars items]
  | object entries =>
    simp only [recast_object, debugWith, debugEntries_recast quoteChars entries]
  | _ => rfl

theorem debugItems_recast (quoteChars : Bool) (items : List Value) :
    debugItems quoteChars (items.map (recast c)) = debugItems quoteChars items := by
  cases items with
  | nil => rfl
  | cons item rest =>
    simp only [List.map_cons, debugItems, debugWith_recast quoteChars item,
      debugItems_recast quoteChars rest]

theorem debugEntries_recast (quoteChars : Bool) (entries : Entries) :
    debugEntries quoteChars (entries.map (recast c)) = debugEntries quoteChars entries := by
  cases entries with
  | nil => rfl
  | cons entry rest =>
    obtain ⟨name, v⟩ := entry
    simp only [List.map_cons, debugEntries, recast_pair, recast_string,
      debugWith_recast quoteChars v, debugEntries_recast quoteChars rest]

end

attribute [simp] size_recast

@[simp] theorem debugText_recast (v : Value) : (recast c v).debugText = v.debugText :=
  debugWith_recast c false v

@[simp] theorem plainText_recast (v : Value) : (recast c v).plainText = v.plainText := by
  cases v with
  | array items => exact debugText_recast c (.array items)
  | object entries => exact debugText_recast c (.object entries)
  | _ => rfl

mutual

theorem toJson_recast (v : Value) : (recast c v).toJson = v.toJson := by
  cases v with
  | array items => simp only [recast_array, toJson, itemsToJson_recast items]
  | object entries => simp only [recast_object, toJson, entriesToJson_recast entries]
  | range a b i => cases i <;> rfl
  | _ => rfl

theorem itemsToJson_recast (items : List Value) :
    itemsToJson (items.map (recast c)) = itemsToJson items := by
  cases items with
  | nil => rfl
  | cons item rest =>
    simp only [List.map_cons, itemsToJson, toJson_recast item, itemsToJson_recast rest]

theorem entriesToJson_recast (entries : Entries) :
    entriesToJson (entries.map (recast c)) = entriesToJson entries := by
  cases entries with
  | nil => rfl
  | cons entry rest =>
    obtain ⟨name, v⟩ := entry
    simp only [List.map_cons, recast_pair, recast_string, entriesToJson, toJson_recast v,
      entriesToJson_recast rest]

end

mutual

theorem equal_recast (v w : Value) :
    (recast c v).equal (recast c w) = (v.equal w).mapError (recast c) := by
  cases v with
  | array a =>
    cases w with
    | array b =>
      simp only [recast_array, equal, List.length_map]
      split
      · exact equalItems_recast a b
      · rfl
    | _ => rfl
  | object a =>
    cases w with
    | object b =>
      simp only [recast_object, equal, List.length_map]
      split
      · exact equalEntries_recast a b
      · rfl
    | _ => rfl
  | function name body cells bound =>
    cases w with
    | function => simp only [recast_function, equal, Except.mapError, recast_pair]
    | _ => rfl
  | _ => cases w <;> rfl

theorem equalItems_recast (a b : List Value) :
    equalItems (a.map (recast c)) (b.map (recast c)) = (equalItems a b).mapError (recast c) := by
  cases a with
  | nil => cases b <;> rfl
  | cons x a =>
    cases b with
    | nil => rfl
    | cons y b =>
      simp only [List.map_cons, equalItems, equal_recast x y]
      cases x.equal y with
      | error found => rfl
      | ok same =>
        cases same with
        | true => exact equalItems_recast a b
        | false => rfl

theorem equalEntries_recast (a b : Entries) :
    equalEntries (a.map (recast c)) (b.map (recast c)) = (equalEntries a b).mapError (recast c) := by
  cases a with
  | nil => cases b <;> rfl
  | cons x a =>
    cases b with
    | nil => rfl
    | cons y b =>
      obtain ⟨name, x⟩ := x
      obtain ⟨other, y⟩ := y
      simp only [List.map_cons, recast_pair, recast_string, equalEntries, equal_recast x y]
      split
      · cases x.equal y with
        | error found => rfl
        | ok same =>
          cases same with
          | true => exact equalEntries_recast a b
          | false => rfl
      · rfl

end

end Value

/-! ## Entries -/

namespace Entries

@[simp] theorem get?_recast (entries : Entries) (name : String) :
    get? (entries.map (recast c)) name = (get? entries name).map (recast c) := by
  induction entries with
  | nil => rfl
  | cons entry rest ih =>
    obtain ⟨other, v⟩ := entry
    unfold get? at ih ⊢
    simp only [List.map_cons, recast_pair, recast_string, List.lookup_cons, ih]
    split <;> rfl

@[simp] theorem insert_recast (name : String) (v : Value) (entries : Entries) :
    insert name (recast c v) (entries.map (recast c)) = (insert name v entries).map (recast c) := by
  induction entries with
  | nil => rfl
  | cons entry rest ih =>
    obtain ⟨other, w⟩ := entry
    simp only [List.map_cons, recast_pair, recast_string, insert, ih]
    split
    · rfl
    · split <;> rfl

@[simp] theorem erase_recast (entries : Entries) (name : String) :
    erase (entries.map (recast c)) name = (erase entries name).map (recast c) := by
  unfold erase
  rw [List.filter_map]
  rfl

theorem insertAll_recast (more entries : Entries) :
    (more.map (recast c)).foldl (fun entries (name, value) => insert name value entries)
        (entries.map (recast c)) =
      (more.foldl (fun entries (name, value) => insert name value entries) entries).map
        (recast c) := by
  induction more generalizing entries with
  | nil => rfl
  | cons entry rest ih =>
    obtain ⟨name, v⟩ := entry
    simp only [List.map_cons, recast_pair, recast_string, List.foldl_cons, insert_recast, ih]

end Entries

end Values

end ScriptGate.Script
