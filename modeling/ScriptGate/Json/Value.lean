/-!
JSON values.

An integer is kept exactly as long as it fits the signed or the unsigned
64-bit range; every other number is a double. The members of an object stand in
ascending order of their names, each name once; `Members.insert` keeps that
order and lets a later member replace an earlier one of the same name.
-/

namespace ScriptGate.Json

/-- An integer of the signed or the unsigned 64-bit range. -/
structure Whole where
  val : Int
  lower : -0x8000000000000000 ≤ val
  upper : val < 0x10000000000000000
deriving DecidableEq

/-- The integer itself, where it is in range. -/
def Whole.ofInt? (i : Int) : Option Whole :=
  if h : -0x8000000000000000 ≤ i ∧ i < 0x10000000000000000 then some ⟨i, h.1, h.2⟩ else none

instance : Inhabited Whole := ⟨⟨0, by decide, by decide⟩⟩

inductive Number where
  | whole (n : Whole)
  | double (x : Float)

inductive Value where
  | null
  | boolean (b : Bool)
  | number (n : Number)
  | text (s : String)
  | list (items : List Value)
  | object (members : List (String × Value))

instance : Inhabited Value := ⟨.null⟩

/-- The members of an object, ascending by name. -/
abbrev Members := List (String × Value)

namespace Members

/-- Adds a member in its place, or replaces the one of that name. -/
def insert (name : String) (value : Value) : Members → Members
  | [] => [(name, value)]
  | (other, old) :: rest =>
    if name < other then (name, value) :: (other, old) :: rest
    else if name = other then (name, value) :: rest
    else (other, old) :: insert name value rest

/-- Collects members as they are written: of several with one name the last one counts. -/
def ofList (written : List (String × Value)) : Members :=
  written.foldl (fun members (name, value) => insert name value members) []

/-- The value of the member called `name`. -/
def get? (members : Members) (name : String) : Option Value :=
  (members.find? fun member => member.1 = name).map Prod.snd

end Members

namespace Value

/-- An integer, where it is in range. -/
def ofNat64 (n : UInt64) : Value :=
  .number (.whole ⟨n.toNat, by omega, by have := n.toNat_lt; omega⟩)

/-- The member called `name`, if the value is an object that has one. -/
def member? (name : String) : Value → Option Value
  | .object members => Members.get? members name
  | _ => none

/-- The value as text, if it is one. -/
def text? : Value → Option String
  | .text s => some s
  | _ => none

/-! ## Nesting -/

mutual

/-- How many lists and objects lie around the innermost value: none for a
scalar, one for an empty or flat list or object. -/
def depth : Value → Nat
  | .list items => itemsDepth items + 1
  | .object members => membersDepth members + 1
  | _ => 0

/-- The greatest depth among the items. -/
def itemsDepth : List Value → Nat
  | [] => 0
  | item :: rest => max item.depth (itemsDepth rest)

/-- The greatest depth among the members. -/
def membersDepth : List (String × Value) → Nat
  | [] => 0
  | (_, value) :: rest => max value.depth (membersDepth rest)

end

/-- The number one inside `n` lists. -/
def nested : Nat → Value
  | 0 => ofNat64 1
  | n + 1 => .list [nested n]

end Value

end ScriptGate.Json
