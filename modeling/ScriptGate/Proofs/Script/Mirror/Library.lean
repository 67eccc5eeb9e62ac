import Mathlib.Data.List.InsertIdx
import ScriptGate.Proofs.Script.Mirror.Value

/-!
# The library under a change of function bodies
-/

namespace ScriptGate.Script

section Faults

/-- A cause with other bodies in what was thrown. -/
def ErrorCause.withBodies (c : Recast) : ErrorCause → ErrorCause
  | .thrown v => .thrown (recast c v)
  | cause => cause

instance : Castable ErrorCause := ⟨ErrorCause.withBodies⟩

/-- A fault with other bodies in what was thrown, and other places. -/
def Error.withPlaces (c : Recast) : Error → Error
  | .plain cause p => .plain (recast c cause) (recast c p)
  | .inCall function inner p => .inCall function (inner.withPlaces c) (recast c p)

instance : Castable Error := ⟨Error.withPlaces⟩

instance : Castable Effect where
  recast c
    | .answer result => .answer (recast c result)
    | .look result => .look (recast c result)
    | .change target result => .change (recast c target) (recast c result)

end Faults

variable (c : Recast)

@[simp] theorem ErrorCause.unknownCall_recast (name : String) (args : List Value) :
    ErrorCause.unknownCall name (args.map (recast c)) = .unknownCall name args := by
  unfold ErrorCause.unknownCall
  rw [List.map_map]
  have kinds : Value.argumentKind ∘ recast c = Value.argumentKind := funext (Value.argumentKind_recast c)
  rw [kinds]

/-! ## Operators -/

namespace Operator

theorem onIntegers_recast (op : Binary) (a b : Int64) :
    recast c (onIntegers op a b) = onIntegers op a b := by
  have fits (mishap : Mishap) (sign : String) (n : Int) :
      recast c (fit mishap a sign b n) = fit mishap a sign b n := by
    unfold fit
    split <;> rfl
  cases op <;> first | rfl | exact fits _ _ _ | skip
  · unfold onIntegers
    dsimp only
    split
    · rfl
    · exact fits _ _ _
  · unfold onIntegers
    dsimp only
    split <;> rfl
  · unfold onIntegers power
    dsimp only
    repeat' split
    all_goals first | rfl | exact fits _ _ _

theorem onDoubles?_recast (op : Binary) (x y : Float) :
    (onDoubles? op x y).map (recast c) = onDoubles? op x y := by
  cases op <;> rfl

theorem onTexts?_recast (op : Binary) (a b : String) :
    (onTexts? op a b).map (recast c) = onTexts? op a b := by
  cases op <;> rfl

theorem onCharacters?_recast (op : Binary) (a b : Char) :
    (onCharacters? op a b).map (recast c) = onCharacters? op a b := by
  cases op <;> rfl

theorem onBooleans?_recast (op : Binary) (a b : Bool) :
    (onBooleans? op a b).map (recast c) = onBooleans? op a b := by
  cases op <;> rfl

/-- The operators that are at hand everywhere do not look into functions. -/
theorem builtin?_of_recast (op : Binary) (a b : Value) :
    builtin? op (recast c a) (recast c b) = builtin? op a b := by
  cases a <;> cases b <;> rfl

/-- Nothing that has an operator at hand everywhere results in a function. -/
theorem recast_builtin? (op : Binary) (a b : Value) :
    (builtin? op a b).map (recast c) = builtin? op a b := by
  have ok (found : Option Value) (same : found.map (recast c) = found) :
      (found.map Except.ok : Option (Except ErrorCause Value)).map (recast c) = found.map Except.ok := by
    rw [Option.map_map]
    conv => rhs; rw [← same, Option.map_map]
    rfl
  unfold builtin?
  split
  · exact congrArg some (onIntegers_recast c op _ _)
  · exact ok _ (onDoubles?_recast c op _ _)
  · exact ok _ (onDoubles?_recast c op _ _)
  · exact ok _ (onDoubles?_recast c op _ _)
  · exact ok _ (onTexts?_recast c op _ _)
  · exact ok _ (onTexts?_recast c op _ _)
  · split
    · rfl
    · exact ok _ (onTexts?_recast c op _ _)
  · exact ok _ (onCharacters?_recast c op _ _)
  · exact ok _ (onBooleans?_recast c op _ _)
  · cases op <;> rfl
  · split
    · rfl
    · cases op <;> rfl
  · cases op <;> rfl
  · split
    · rfl
    · split
      · rfl
      · cases op <;> rfl

theorem onBytes?_recast (op : Binary) (a b : UInt8) :
    (onBytes? op a b).map (recast c) = onBytes? op a b := by
  have fits : recast c (fitByte op a b) = fitByte op a b := by
    unfold fitByte
    split
    · split <;> rfl
    · exact onIntegers_recast c op _ _
  unfold onBytes?
  split
  all_goals first | rfl | exact congrArg some fits

theorem byEquality?_recast (op : Binary) (answer : Except (Value × Value) Bool) :
    (byEquality? op (answer.mapError (recast c))).map library?.told =
      ((byEquality? op answer).map library?.told).map (recast c) := by
  cases answer with
  | ok same => cases op <;> rfl
  | error found =>
    have told : ErrorCause.unknownCall "==" [recast c found.1, recast c found.2] =
        .unknownCall "==" [found.1, found.2] :=
      ErrorCause.unknownCall_recast c "==" [found.1, found.2]
    cases op <;> first | rfl | exact congrArg (fun cause => some (Except.error cause)) told

theorem library?_recast (op : Binary) (a b : Value) :
    library? op (recast c a) (recast c b) = (library? op a b).map (recast c) := by
  cases a <;> cases b <;> first | (cases op <;> rfl) | skip
  case byte.byte a b =>
    have same := (onBytes?_recast c op a b).symm
    cases op <;> exact same
  case text.array s items =>
    have same := (Value.array items).plainText_recast c
    cases op <;> first | rfl | exact congrArg (fun t => some (Except.ok (Value.text (s ++ t)))) same
  case text.object s entries =>
    have same := (Value.object entries).plainText_recast c
    cases op <;> first | rfl | exact congrArg (fun t => some (Except.ok (Value.text (s ++ t)))) same
  case array.text items s =>
    have same := (Value.array items).plainText_recast c
    cases op <;> first | rfl | exact congrArg (fun t => some (Except.ok (Value.text (t ++ s)))) same
  case object.text entries s =>
    have same := (Value.object entries).plainText_recast c
    cases op <;> first | rfl | exact congrArg (fun t => some (Except.ok (Value.text (t ++ s)))) same
  case array.array as bs =>
    have equal := (Value.array as).equal_recast c (.array bs)
    rw [recast_array, recast_array] at equal ⊢
    have compared := byEquality?_recast c op ((Value.array as).equal (.array bs))
    rw [← equal] at compared
    cases op <;> first | exact compared | simp [library?]
  case object.object as bs =>
    have equal := (Value.object as).equal_recast c (.object bs)
    rw [recast_object, recast_object] at equal ⊢
    have compared := byEquality?_recast c op ((Value.object as).equal (.object bs))
    rw [← equal] at compared
    cases op <;> first | exact compared | simp [library?, Entries.insertAll_recast]

@[simp] theorem binary?_recast (op : Binary) (a b : Value) :
    binary? op (recast c a) (recast c b) = (binary? op a b).map (recast c) := by
  have built := recast_builtin? c op a b
  unfold binary?
  rw [builtin?_of_recast, library?_recast]
  cases found : builtin? op a b with
  | some result =>
    rw [found] at built
    exact built.symm
  | none => rfl

theorem unary?_recast (op : Unary) (a : Value) :
    unary? op (recast c a) = (unary? op a).map (recast c) := by
  cases a with
  | integer n =>
    cases op with
    | minus =>
      change (if n = Int64.minValue then _ else _) =
        Option.map (recast c) (if n = Int64.minValue then _ else _)
      split <;> rfl
    | _ => rfl
  | _ => cases op <;> rfl
end Operator

/-! ## Telling values apart -/

@[simp] theorem recast_eq_text {v : Value} {s : String} : recast c v = .text s ↔ v = .text s := by
  cases v <;> simp
@[simp] theorem recast_eq_integer {v : Value} {n : Int64} : recast c v = .integer n ↔ v = .integer n := by
  cases v <;> simp
@[simp] theorem recast_eq_double {v : Value} {x : Float} : recast c v = .double x ↔ v = .double x := by
  cases v <;> simp
@[simp] theorem recast_eq_character {v : Value} {x : Char} :
    recast c v = .character x ↔ v = .character x := by
  cases v <;> simp
@[simp] theorem recast_eq_byte {v : Value} {b : UInt8} : recast c v = .byte b ↔ v = .byte b := by
  cases v <;> simp
@[simp] theorem recast_eq_range {v : Value} {a b : Int64} {i : Bool} :
    recast c v = .range a b i ↔ v = .range a b i := by
  cases v <;> simp
@[simp] theorem recast_eq_blob {v : Value} {b : List UInt8} : recast c v = .blob b ↔ v = .blob b := by
  cases v <;> simp
@[simp] theorem recast_eq_array {v : Value} {items : List Value} :
    recast c v = .array items ↔ ∃ items', v = .array items' ∧ items = items'.map (recast c) := by
  cases v <;> simp [eq_comm]
@[simp] theorem recast_eq_object {v : Value} {entries : Entries} :
    recast c v = .object entries ↔ ∃ entries', v = .object entries' ∧ entries = entries'.map (recast c) := by
  cases v <;> simp [eq_comm]

namespace Effect
@[simp] theorem recast_answer (r : Except ErrorCause Value) :
    recast c (Effect.answer r) = .answer (recast c r) := rfl
@[simp] theorem recast_look (r : Except ErrorCause Value) :
    recast c (Effect.look r) = .look (recast c r) := rfl
@[simp] theorem recast_change (v : Value) (r : Except ErrorCause Value) :
  recast c (Effect.change v r) = .change (recast c v) (recast c r) := rfl
@[simp] theorem recast_value (v : Value) : recast c (value v) = value (recast c v) := rfl
@[simp] theorem recast_truth (b : Bool) : recast c (truth b) = truth b := rfl
@[simp] theorem recast_count (n : Int) : recast c (count n) = count n := rfl
@[simp] theorem recast_efftext (s : String) : recast c (text s) = text s := rfl
@[simp] theorem recast_refuse (f : ArithmeticFault) : recast c (refuse f) = refuse f := rfl
@[simp] theorem recast_become (v : Value) : recast c (become v) = become (recast c v) := rfl
@[simp] theorem recast_seen (v : Value) : recast c (seen v) = seen (recast c v) := rfl
end Effect

namespace Library

@[simp] theorem recast_texts (parts : List String) : recast c (texts parts) = texts parts := by
  simp [texts]

theorem recast_onText? (name s : String) : (onText? name s).map (recast c) = onText? name s := by
  unfold onText?
  split
  case h_4 | h_5 =>
    simp only [Option.map_some, Effect.recast_value, recast_array, List.map_map]
    rfl
  case h_13 => split <;> rfl
  all_goals simp

theorem onTextAnd?_of_recast (name s : String) (arg : Value) :
    onTextAnd? name s (recast c arg) = onTextAnd? name s arg := by
  cases arg <;> first | rfl | simp [onTextAnd?]

theorem recast_onTextAnd? (name s : String) (arg : Value) :
    (onTextAnd? name s arg).map (recast c) = onTextAnd? name s arg := by
  unfold onTextAnd?
  dsimp only
  split
  case h_13 i =>
    cases (index? s.length i).bind fun i => s.toList[i]? <;> rfl
  all_goals simp

theorem onTexts?_of_recast (name : String) (args : List Value) :
    onTexts? name (args.map (recast c)) = onTexts? name args := by
  fun_cases onTexts? name args
  case case2 => exact onTextAnd?_of_recast c _ _ _
  case case11 =>
    unfold onTexts?
    split
    all_goals simp_all [List.map_eq_cons_iff]
  all_goals rfl

theorem recast_onTexts? (name : String) (args : List Value) :
    (onTexts? name args).map (recast c) = onTexts? name args := by
  fun_cases onTexts? name args
  case case1 => exact recast_onText? c _ _
  case case2 => exact recast_onTextAnd? c _ _ _
  case case9 => simp; split <;> rfl
  case case10 => simp; split <;> rfl
  all_goals simp

/-! ## Numbers -/

theorem recast_bound? (larger : Bool) (a b : Value) :
    (bound? larger a b).map (recast c) = bound? larger a b := by
  unfold bound?
  split <;> rfl

theorem bound?_of_recast (larger : Bool) (a b : Value) :
    bound? larger (recast c a) (recast c b) = bound? larger a b := by
  cases a <;> cases b <;> rfl

theorem recast_parseInteger (s : String) (base : Int64) :
    recast c (parseInteger s base) = parseInteger s base := by
  unfold parseInteger
  split
  · rfl
  · split <;> rfl

theorem recast_parseDouble (s : String) : recast c (parseDouble s) = parseDouble s := by
  unfold parseDouble
  split <;> rfl

theorem recast_onInteger? (name : String) (n : Int64) :
    (onInteger? name n).map (recast c) = onInteger? name n := by
  unfold onInteger?
  split
  case h_1 => split <;> rfl
  all_goals rfl

theorem recast_onDouble? (name : String) (x : Float) :
    (onDouble? name x).map (recast c) = onDouble? name x := by
  unfold onDouble?
  split
  case h_2 =>
    unfold doubleSign
    split <;> rfl
  case h_13 =>
    unfold doubleToInteger
    split <;> rfl
  all_goals rfl

theorem recast_onByte? (name : String) (b : UInt8) :
    (onByte? name b).map (recast c) = onByte? name b := by
  unfold onByte?
  split <;> rfl

theorem recast_onNumbers? (name : String) (args : List Value) :
    (onNumbers? name args).map (recast c) = onNumbers? name args := by
  fun_cases onNumbers? name args
  case case1 => exact recast_bound? c _ _ _
  case case2 => exact recast_bound? c _ _ _
  case case3 => exact congrArg some (recast_parseInteger c _ _)
  case case4 => exact congrArg some (recast_parseInteger c _ _)
  case case5 => exact congrArg some (recast_parseDouble c _)
  case case7 => exact recast_onInteger? c _ _
  case case8 => exact recast_onDouble? c _ _
  case case9 => exact recast_onByte? c _ _
  all_goals rfl

theorem onNumbers?_of_recast (name : String) (args : List Value) :
    onNumbers? name (args.map (recast c)) = onNumbers? name args := by
  fun_cases onNumbers? name args
  case case1 => exact bound?_of_recast c _ _ _
  case case2 => exact bound?_of_recast c _ _ _
  case case10 =>
    unfold onNumbers?
    split
    all_goals simp_all [List.map_eq_cons_iff]
  case case7 | case8 | case9 => simp [onNumbers?]
  all_goals rfl

/-! ## Collections -/

theorem recast_insertAt (items : List Value) (i : Int64) (v : Value) :
    insertAt (items.map (recast c)) i (recast c v) = (insertAt items i v).map (recast c) := by
  simp [insertAt]

@[simp] theorem less?_of_recast (a b : Value) : less? (recast c a) (recast c b) = less? a b := by
  cases a <;> cases b <;> rfl

theorem recast_insertOrdered (item : Value) (seen : List Value) :
    insertOrdered (recast c item) (seen.map (recast c)) = (insertOrdered item seen).map (recast c) := by
  induction seen with
  | nil => rfl
  | cons last rest ih =>
    simp only [List.map_cons, insertOrdered, less?_of_recast, ih]
    split <;> rfl

/-- Whether a value has its place in an order, as a double has not that is no number. -/
def hasOrder : Value → Bool
  | .double x => !x.isNaN
  | _ => true

theorem hasOrder_recast (v : Value) : hasOrder (recast c v) = hasOrder v := by
  cases v <;> rfl

theorem recast_ordered (items : List Value) :
    ordered (items.map (recast c)) = (ordered items).map (recast c) := by
  have folded (seen : List Value) :
      (items.map (recast c)).foldl (fun seen item => insertOrdered item seen) (seen.map (recast c)) =
        (items.foldl (fun seen item => insertOrdered item seen) seen).map (recast c) := by
    induction items generalizing seen with
    | nil => rfl
    | cons item rest ih => simp only [List.map_cons, List.foldl_cons, recast_insertOrdered, ih]
  have numbers : (items.map (recast c)).all hasOrder = items.all hasOrder := by
    rw [List.all_map]
    exact congrArg items.all (funext (hasOrder_recast c))
  have comparing (a b : Value) : (!(less? b a).getD false) =
      !(less? (recast c b) (recast c a)).getD false := by
    rw [less?_of_recast]
  cases each : items.all hasOrder with
  | true =>
    exact (if_pos (numbers.trans each)).trans
      ((List.map_mergeSort fun a _ b _ => comparing a b).symm.trans
        (congrArg (List.map (recast c)) (if_pos each).symm))
  | false =>
    have some_ {items : List Value} (not : items.all hasOrder = false) : ¬ items.all hasOrder = true := by
      rw [not]
      exact Bool.false_ne_true
    refine (if_neg (some_ (numbers.trans each))).trans (.trans ?_
      (congrArg (List.map (recast c)) (if_neg (some_ each)).symm))
    rw [List.map_reverse]
    exact congrArg List.reverse (folded [])

theorem recast_sorted (items : List Value) :
    sorted (items.map (recast c)) = recast c (sorted items) := by
  unfold sorted
  match items with
  | [] => rfl
  | [item] => rfl
  | first :: next :: rest =>
    have kinds : ((first :: next :: rest).map (recast c)).any
        (fun v => v.fullKind ≠ (recast c first).fullKind) =
        (first :: next :: rest).any (fun v => v.fullKind ≠ first.fullKind) := by
      rw [List.any_map]
      simp [Function.comp_def]
    have into := recast_ordered c (first :: next :: rest)
    simp only [List.map_cons, Value.fullKind_recast] at kinds into ⊢
    rw [kinds]
    simp only [less?_of_recast, into]
    split
    · simp only [Effect.recast_change, recast_array, List.map_cons]
      rfl
    · split
      · simp only [Effect.recast_change, recast_array, List.map_cons]
        rfl
      · simp only [Effect.recast_become, recast_array]

/-! ## Looking for equal items -/

theorem recast_firstEqual? (v : Value) (index : Nat) (items : List Value) :
    firstEqual? (recast c v) index (items.map (recast c)) = firstEqual? v index items := by
  induction items generalizing index with
  | nil => rfl
  | cons item rest ih =>
    simp only [List.map_cons, firstEqual?, Value.equal_recast]
    cases item.equal v with
    | ok same =>
      cases same with
      | true => rfl
      | false => exact ih (index + 1)
    | error found =>
      exact congrArg Except.error (ErrorCause.unknownCall_recast c "==" [found.1, found.2])

theorem firstEqual?_inert (v : Value) (index : Nat) (items : List Value) :
    recast c (firstEqual? v index items) = firstEqual? v index items := by
  induction items generalizing index with
  | nil => rfl
  | cons item rest ih =>
    unfold firstEqual?
    split
    · rfl
    · exact ih (index + 1)
    · rfl

theorem recast_has (v : Value) (items : List Value) :
    has (recast c v) (items.map (recast c)) = recast c (has v items) := by
  have inert := firstEqual?_inert c v 0 items
  unfold has
  rw [recast_firstEqual?]
  cases found : firstEqual? v 0 items with
  | ok found => rfl
  | error cause =>
    rw [found] at inert
    exact congrArg Except.error (Except.error.inj inert).symm

theorem recast_itemIndex (v : Value) (start : Int64) (items : List Value) :
    itemIndex (recast c v) start (items.map (recast c)) = recast c (itemIndex v start items) := by
  have inert := firstEqual?_inert c v (position items.length start)
    (items.drop (position items.length start))
  unfold itemIndex
  dsimp only
  rw [List.length_map, ← List.map_drop, recast_firstEqual?]
  generalize firstEqual? v (position items.length start)
    (items.drop (position items.length start)) = found at inert
  cases found with
  | ok found => cases found <;> rfl
  | error cause => exact congrArg Except.error (Except.error.inj inert).symm

/-! ## Functions of collections -/

@[simp] theorem recast_getD_unit (v : Option Value) :
    (v.map (recast c)).getD .unit = recast c (v.getD .unit) := by
  cases v <;> rfl

theorem recast_onArray? (name : String) (items : List Value) :
    onArray? name (items.map (recast c)) = (onArray? name items).map (recast c) := by
  fun_cases onArray? name items
  case case9 => exact congrArg some (recast_sorted c _)
  case case10 => simp_all [onArray?]
  all_goals simp_all [onArray?]

theorem recast_onArrayAnd? (name : String) (items : List Value) (arg : Value) :
    onArrayAnd? name (items.map (recast c)) (recast c arg) =
      (onArrayAnd? name items arg).map (recast c) := by
  fun_cases onArrayAnd? name items arg
  case case2 => exact congrArg (fun r => some (Effect.look r)) (recast_has c _ _)
  case case9 => exact congrArg (fun r => some (Effect.look r)) (recast_itemIndex c _ _ _)
  case case13 =>
    unfold onArrayAnd?
    split
    all_goals simp_all
  case case5 index =>
    simp [onArrayAnd?, index, List.eraseIdx_map]
  case case8 i =>
    simp only [recast_integer, onArrayAnd?, List.length_map, List.getElem?_map]
    cases index? items.length i <;> simp
  case case10 i kept cut pieces =>
    cases pieces
    simp [onArrayAnd?, cutOff]
  all_goals simp_all [onArrayAnd?]

theorem recast_onArrayAndTwo? (name : String) (items : List Value) (a b : Value) :
    onArrayAndTwo? name (items.map (recast c)) (recast c a) (recast c b) =
      (onArrayAndTwo? name items a b).map (recast c) := by
  fun_cases onArrayAndTwo? name items a b
  case case3 => exact congrArg (fun r => some (Effect.look r)) (recast_itemIndex c _ _ _)
  case case4 =>
    unfold onArrayAndTwo?
    split
    all_goals simp_all
  all_goals simp_all [onArrayAndTwo?, insertAt]

theorem recast_onObject? (name : String) (entries : Entries) (args : List Value) :
    onObject? name (entries.map (recast c)) (args.map (recast c)) =
      (onObject? name entries args).map (recast c) := by
  fun_cases onObject? name entries args
  case case4 | case5 =>
    simp only [onObject?, List.map_nil, Option.map_some, Effect.recast_seen, recast_array, List.map_map]
    rfl
  case case10 more =>
    simp only [onObject?, List.map_cons, List.map_nil, recast_object, Option.map_some,
      Effect.recast_become, Entries.insertAll_recast]
  case case11 =>
    unfold onObject?
    split
    all_goals simp_all [List.map_eq_cons_iff]
  all_goals simp_all [onObject?]

@[simp] theorem integer?_recast (v : Value) : integer? (recast c v) = integer? v := by
  cases v <;> rfl

theorem recast_onRange? (name : String) (first last : Int64) (inclusive : Bool) (args : List Value) :
    (onRange? name first last inclusive args).map (recast c) = onRange? name first last inclusive args := by
  unfold onRange?
  split
  case h_1 v => cases integer? v <;> rfl
  all_goals rfl

theorem onRange?_of_recast (name : String) (first last : Int64) (inclusive : Bool)
    (args : List Value) : onRange? name first last inclusive (args.map (recast c)) =
      onRange? name first last inclusive args := by
  fun_cases onRange? name first last inclusive args
  case case1 v => simp [onRange?]
  case case7 =>
    unfold onRange?
    split
    all_goals simp_all [List.map_eq_cons_iff]
  all_goals rfl

theorem recast_onBlob? (name : String) (bytes : List UInt8) (args : List Value) :
    (onBlob? name bytes args).map (recast c) = onBlob? name bytes args := by
  have removed (i : Int64) : recast c (removeByte bytes i) = removeByte bytes i := by
    unfold removeByte
    split <;> rfl
  unfold onBlob?
  split
  case h_5 v => cases integer? v <;> rfl
  case h_6 v => cases integer? v <;> rfl
  case h_7 v w => cases integer? v <;> cases integer? w <;> rfl
  case h_8 v => cases integer? v <;> simp [removed]
  case h_9 v => cases integer? v <;> rfl
  all_goals rfl

theorem onBlob?_of_recast (name : String) (bytes : List UInt8) (args : List Value) :
    onBlob? name bytes (args.map (recast c)) = onBlob? name bytes args := by
  fun_cases onBlob? name bytes args
  case case12 =>
    unfold onBlob?
    split
    all_goals simp_all [List.map_eq_cons_iff]
  all_goals first | rfl | simp_all [onBlob?]

theorem recast_onCollections? (name : String) (args : List Value) :
    onCollections? name (args.map (recast c)) = (onCollections? name args).map (recast c) := by
  cases args with
  | nil => rfl
  | cons v rest =>
    cases v with
    | array items =>
      rw [List.map_cons, recast_array]
      match rest with
      | [] => exact recast_onArray? c name items
      | [a] => exact recast_onArrayAnd? c name items a
      | [a, b] => exact recast_onArrayAndTwo? c name items a b
      | a :: b :: d :: more => rfl
    | object entries =>
      rw [List.map_cons, recast_object]
      exact recast_onObject? c name entries rest
    | range first last inclusive =>
      exact (onRange?_of_recast c name first last inclusive rest).trans
        (recast_onRange? c name first last inclusive rest).symm
    | blob bytes =>
      exact (onBlob?_of_recast c name bytes rest).trans (recast_onBlob? c name bytes rest).symm
    | _ => rfl

/-! ## All functions -/

theorem recast_onAny? (name : String) (args : List Value) :
    onAny? name (args.map (recast c)) = (onAny? name args).map (recast c) := by
  fun_cases onAny? name args
  case case8 =>
    unfold onAny?
    split
    all_goals simp_all [List.map_eq_cons_iff]
  case case5 v =>
    simp only [onAny?, List.map_cons, List.map_nil, integer?_recast]
    cases integer? v <;> rfl
  case case6 v w =>
    simp only [onAny?, List.map_cons, List.map_nil, integer?_recast]
    cases integer? v <;> cases integer? w <;> rfl
  all_goals simp [onAny?]

theorem recast_effect? (name : String) (args : List Value) :
    effect? name (args.map (recast c)) = (effect? name args).map (recast c) := by
  have either (a b : Option Effect) :
      (a <|> b).map (recast c) = (a.map (recast c) <|> b.map (recast c)) := by
    cases a <;> rfl
  unfold effect?
  rw [either, either, either, recast_onAny?, recast_onCollections?, onTexts?_of_recast,
    onNumbers?_of_recast, recast_onTexts?, recast_onNumbers?]

theorem propertyNames_recast (v : Value) : propertyNames (recast c v) = propertyNames v := by
  cases v <;> rfl

/-- A property that the library has, of a value of any kind. -/
theorem recast_libraryProperty? (name : String) (v : Value) :
    (if name ∈ propertyNames (recast c v) then
        match effect? name [recast c v] with
        | some (.answer result) => some result
        | some (.look result) => some result
        | _ => none
      else none) =
    (if name ∈ propertyNames v then
        match effect? name [v] with
        | some (.answer result) => some result
        | some (.look result) => some result
        | _ => none
      else none).map (recast c) := by
  rw [propertyNames_recast]
  split
  · have same := recast_effect? c name [v]
    rw [List.map_cons, List.map_nil] at same
    rw [same]
    cases effect? name [v] with
    | none => rfl
    | some effect => cases effect <;> rfl
  · rfl

theorem recast_property? (name : String) (v : Value) :
    property? name (recast c v) = (property? name v).map (recast c) := by
  have asked := recast_libraryProperty? c name v
  cases v with
  | function f body cells bound =>
    rw [recast_function]
    by_cases isName : name = "name"
    · subst isName
      rfl
    by_cases isAnonymous : name = "is_anonymous"
    · subst isAnonymous
      simp [property?]
    simp [property?, isName, isAnonymous, propertyNames]
  | _ => exact asked

theorem holds_recast (first last : Int64) (inclusive : Bool) (v : Value) :
    holds first last inclusive (recast c v) = holds first last inclusive v := by
  cases v <;> rfl

end Library

end ScriptGate.Script
