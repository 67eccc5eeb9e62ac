import ScriptGate.Script.Evaluate.Call

/-!
Library functions that call functions.

What they call gets an item, and whatever else it takes: the item stands as `this`, as an argument, or as an
argument with its index behind it. An anonymous function gets what fits its parameters; with a name, one way is
tried after the other. The operations of such a call are given back, and a fault that leaves it is wrapped with
the name of the library function.
-/

namespace ScriptGate.Script.Eval

variable (ev : Eval) (native : Native) (env : Env)

/-! ## Calling back -/

/-- Calls a function value from inside a library function. -/
def callInside (f : Value) (args : List Value) (this : Option Receiver) (p : Option Position) :
    Run Called :=
  let levels := match f with
    | .function _ (some _) _ _ => 1
    | _ => 2
  Called.guard (Run.aside
    (callPointerWith ev native { env with level := env.level + levels } f args this p))

/-- What a function value is called with. -/
abbrev Offer := List Value × Option Receiver

/-- Whether the arguments of an offer are as many as an anonymous function takes; none for a function that
is known by its name. -/
def fits? (f : Value) (offer : Offer) : Option Bool :=
  match f with
  | .function _ (some g) cells bound =>
    some (g.params.length = cells.length + bound.length + offer.1.length)
  | _ => none

/-- Whether a call ended because no function of that name fits. -/
def isUnfit (f : Value) : Except Stop Value → Bool
  | .error (.fault (.plain (.functionNotFound signature) _)) =>
    match f with
    | .function name .. => name.isPrefixOf signature
    | _ => false
  | _ => false

/-- Makes offers until one of them fits. -/
def tryInTurn (f : Value) (p : Option Position) : List Offer → Run Called
  | [] => return .answer .unit
  | [(args, this)] => callInside ev native env f args this p
  | (args, this) :: rest => do
    let called ← callInside ev native env f args this p
    if isUnfit f called.outcome then tryInTurn f p rest else return called

/-- A fault, with the library function that it left. -/
def wrap (owner : String) (p : Option Position) : Except Stop Value → Except Stop Value
  | .error (.fault e) => .error (.fault (.inCall (some owner) e p))
  | .error (.exit _) => .error (.fault (.inCall (some owner) (.plain .exit p) p))
  | result => result

/-- Calls back with arguments and an item, which as an argument has the given place among them; `more` may
follow. Answers the item after the call too. -/
def callBack (owner : String) (f : Value) (p : Option Position) (args : List Value) (place : Nat)
    (more : List Value) (item : Value) : Run (Value × Value) := do
  let this : Option Receiver := some ⟨item, none⟩
  let joined := args.insertIdx place item
  let offers : List Offer :=
    [(args, this), (joined, none), (joined ++ more, none), (args ++ more, this)]
  let called ← match offers.find? fun offer => (fits? f offer).getD false with
    | some (args, this) => callInside ev native env f args this p
    | none => tryInTurn ev native env f p [(args, this), (joined, none), (args ++ more, this)]
  let answer ← ({ called with outcome := wrap owner p called.outcome } : Called).finish
  return (answer, called.target.getD item)

/-! ## Items in turn -/

/-- Takes the items of an array in turn, from an index on. -/
def overItems {α : Type} (step : α → Value → Nat → Run α) (a : α) : (index : Nat) → List Value → Run α
  | _, [] => return a
  | index, item :: rest => do
    let a ← step a item index
    overItems step a (index + 1) rest

/-- Whether a value counts as true. -/
def isTrue : Value → Bool
  | .boolean b => b
  | _ => false

/-- Puts an item into its place in a list that descends, from the greatest one on. -/
def insertDescending (isLess : Value → Value → Run Bool) (item : Value) :
    List Value → Run (List Value)
  | [] => return [item]
  | last :: rest => do
    if ← isLess item last then return last :: (← insertDescending isLess item rest)
    return item :: last :: rest

/-- Whether a function value that compares two values puts the first one before the second; a fault counts
as no difference. -/
def isLess (f : Value) (p : Option Position) (a b : Value) : Run Bool := do
  match (← callInside ev native env f [a, b] none p).outcome with
  | .ok (.integer n) => return n < 0
  | .ok (.boolean b) => return b
  | _ => return false

/-- The index of the first item that a function value holds of, from an index on. -/
def firstIndex (f : Value) (p : Option Position) (start : Nat) (items : List Value) : Run Int := do
  let found ← overItems (fun (found : Option Nat) item i => do
    match found with
    | some _ => return found
    | none =>
      let (answer, _) ←
        callBack ev native env "index_of" f p [] 0 [.integer (Int64.ofNat (start + i))] item
      return if isTrue answer then some (start + i) else none) none 0 (items.drop start)
  return match found with
    | some i => i
    | none => -1

/-- Where a search among so many items begins: at the first one, or where it is told to. -/
def searchStart? (length : Nat) : List Value → Option Nat
  | [] => some 0
  | [.integer start] => some (Library.position length start)
  | _ => none

/-- The library functions of an array and a function value. -/
def overArray? (name : String) (items : List Value) (f : Value) (rest : List Value)
    (p : Option Position) : Option (Run Called) :=
  let call (args : List Value) (place index : Nat) (item : Value) : Run (Value × Value) :=
    callBack ev native env name f p args place [.integer (Int64.ofNat index)] item
  let looked (v : Value) : Called := ⟨Called.judge env p (some (.array items)) (.ok v), none⟩
  match name, rest with
  | "map", [] => some do
    let mapped ← overItems (fun seen item i => return (← call [] 0 i item).1 :: seen) [] 0 items
    return looked (.array mapped.reverse)
  | "filter", [] => some do
    let kept ← overItems (fun seen item i => do
      let (answer, item) ← call [] 0 i item
      return if isTrue answer then item :: seen else seen) [] 0 items
    return looked (.array kept.reverse)
  | "reduce", start => if 1 < start.length then none else some do
    let result ← overItems (fun sum item i => return (← call [sum] 1 i item).1)
      (start.headD .unit) 0 items
    return looked result
  | "reduce_rev", start => if 1 < start.length then none else some do
    let result ← overItems
      (fun sum item i => return (← call [sum] 1 (items.length - 1 - i) item).1)
      (start.headD .unit) 0 items.reverse
    return looked result
  | "some", [] => some do
    let found ← overItems (fun found item i => do
      if found then return true
      return isTrue (← call [] 0 i item).1) false 0 items
    return looked (.boolean found)
  | "all", [] => some do
    let held ← overItems (fun held item i => do
      if !held then return false
      return isTrue (← call [] 0 i item).1) true 0 items
    return looked (.boolean held)
  | "find", [] => some do
    let found ← overItems (fun found item i => do
      match found with
      | some _ => return found
      | none =>
        let (answer, item) ← call [] 0 i item
        return if isTrue answer then some item else none) none 0 items
    return looked (found.getD .unit)
  | "index_of", rest => (searchStart? items.length rest).map fun start => do
    return looked (.integer (Int64.ofInt (← firstIndex ev native env f p start items)))
  | "for_each", [] => some do
    let after ← overItems (fun seen item i => return (← call [] 0 i item).2 :: seen) [] 0 items
    let after := Value.array after.reverse
    return ⟨Called.judge env p (some after) (.ok .unit), some after⟩
  | "sort", [] => some do
    let ordered ← overItems
      (fun seen item _ => insertDescending (isLess ev native env f p) item seen) [] 0 items
    let ordered := Value.array ordered.reverse
    return ⟨Called.judge env p (some ordered) (.ok .unit), some ordered⟩
  | _, _ => none

/-- Keeps the entries of an object that a function value holds of. -/
def filterEntries (entries : Entries) (f : Value) (p : Option Position) : Run Called := do
  let kept ← entries.filterMapM fun (name, value) => do
    let (answer, value) ← callBack ev native env "filter" f p [.text name] 1 [] value
    return if isTrue answer then some (name, value) else none
  return ⟨Called.judge env p (some (.object entries)) (.ok (.object kept)), none⟩

/-! ## Library functions -/

/-- The library functions to which a function can be given by its name, as a text. -/
def takeNames : List String :=
  ["map", "filter", "reduce", "reduce_rev", "some", "all", "index_of", "sort"]

/-- The library functions that call functions. -/
def higher? (name : String) (args : List Value) (p : Option Position) : Option (Run Called) :=
  match args with
  | .array items :: f@(.function ..) :: rest => overArray? ev native env name items f rest p
  | .array items :: .text f :: rest =>
    if takeNames.contains name then
      match pointerTo f with
      | .ok f => overArray? ev native env name items f rest p
      | .error cause => some (return .fault cause p)
    else none
  | [.object entries, f@(.function ..)] =>
    if name = "filter" then some (filterEntries ev native env entries f p) else none
  | _ => none

/-- Calls a library function. -/
def callNative (env : Env) (name : String) (args : List Value) (p : Option Position) : Run Called :=
  match higher? ev callPlain env name args p with
  | some called => do
    Run.tick env p
    (← called).noted
  | none => callPlain env name args p

/-- Calls a function value. -/
def callPointer (env : Env) (callee : Value) (args : List Value) (this : Option Receiver)
    (p : Option Position) : Run Called :=
  callPointerWith ev (callNative ev) env callee args this p

/-- Calls a function by name. -/
def callNamed (env : Env) (name : String) (args : List Value) (p : Option Position) : Run Called :=
  match env.functions.find? name args.length with
  | some f => callByName ev env f args none p
  | none => callNative ev env name args p

end ScriptGate.Script.Eval
