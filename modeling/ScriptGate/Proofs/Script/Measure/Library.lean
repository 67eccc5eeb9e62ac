import ScriptGate.Proofs.Script.Measure
import ScriptGate.Script.Part

/-!
# What the library makes within caps

Every function of the library makes well-built values of values within caps (`Library.built_effect?`), and so
does every operator (`Operator.built_builtin?`, `Operator.built_library?`). Both are measured afterwards. What is
read as a part or a property is not, and is within caps by itself (`Part.fits_atIndex`, `Part.fits_named`).
-/

namespace ScriptGate.Script

variable {k : Caps}

/-! ## Well-built values -/

namespace Value

@[simp] theorem built_text (s : String) : (Value.text s).Built k false := .text nofun

@[simp] theorem built_array {items : List Value} :
    (Value.array items).Built k false ↔ ∀ v ∈ items, v.Built k false :=
  ⟨fun built => built.items, .array nofun⟩

end Value

/-- What a library function does makes only values that are well built, and what it leaves of its first argument
where it fails is within caps. -/
inductive Effect.Built (k : Caps) : Effect → Prop where
  | answer {r : Except ErrorCause Value} (result : ResultBuilt k false r) : Effect.Built k (.answer r)
  | look {r : Except ErrorCause Value} (result : ResultBuilt k false r) : Effect.Built k (.look r)
  | change {target : Value} {r : Except ErrorCause Value} (result : ResultBuilt k false r)
      (built : target.Built k false) (refused : ∀ cause, r = .error cause → target.Fits k) :
      Effect.Built k (.change target r)

namespace Effect.Built

variable {v target : Value}

theorem value (built : v.Built k false) : (Effect.value v).Built k := .answer built

theorem seen (built : v.Built k false) : (Effect.seen v).Built k := .look built

theorem become (built : target.Built k false) : (Effect.become target).Built k :=
  .change (.flat rfl) built nofun

theorem changed (answer : v.Built k false) (built : target.Built k false) :
    (Effect.change target (.ok v)).Built k := .change answer built nofun

theorem text (s : String) : (Effect.text s).Built k := .answer (.text nofun)

theorem count (n : Int) : (Effect.count n).Built k := .answer (.flat rfl)

theorem refuse (fault : ArithmeticFault) : (Effect.refuse fault).Built k := .answer nofun

end Effect.Built

namespace Library

variable {name : String} {e : Effect}

/-! ## Arrays -/

section Arrays

variable {items : List Value}

theorem mem_insertOrdered {item v : Value} {seen : List Value} (inside : v ∈ insertOrdered item seen) :
    v = item ∨ v ∈ seen := by
  induction seen with
  | nil => exact .inl (List.mem_singleton.mp inside)
  | cons last rest ih =>
    unfold insertOrdered at inside
    split at inside
    · rcases List.mem_cons.mp inside with rfl | inside
      · exact .inr List.mem_cons_self
      · exact (ih inside).imp_right (List.mem_cons_of_mem _)
    · exact List.mem_cons.mp inside

theorem ordered_subset (items : List Value) : ordered items ⊆ items := by
  have into (seen : List Value) :
      items.foldl (fun seen item => insertOrdered item seen) seen ⊆ items ++ seen := by
    induction items generalizing seen with
    | nil => exact List.Subset.refl _
    | cons item rest ih =>
      intro v inside
      rcases List.mem_append.mp (ih _ inside) with later | inside
      · exact List.mem_append_left _ (List.mem_cons_of_mem _ later)
      · rcases mem_insertOrdered inside with rfl | before
        · exact List.mem_append_left _ List.mem_cons_self
        · exact List.mem_append_right _ before
  unfold ordered
  intro v inside
  dsimp only at inside
  split at inside
  · exact List.mem_mergeSort.mp inside
  · simpa using into [] (List.mem_reverse.mp inside)

/-- What is told of a search for an equal item has no parts. -/
theorem built_firstEqual? (v : Value) (index : Nat) (items : List Value) (tell : Option Nat → Value)
    (flat : ∀ found, (tell found).isFlat = true) :
    ResultBuilt k false ((firstEqual? v index items).map tell) := by
  induction items generalizing index with
  | nil => exact .flat (flat none)
  | cons item rest ih =>
    unfold firstEqual?
    split
    · exact .flat (flat _)
    · exact ih _
    · exact nofun

variable (fits : (Value.array items).Fits k)

include fits

/-- An array of items of another one. -/
theorem built_some {some : List Value} (within : some ⊆ items) : (Value.array some).Built k false :=
  .array nofun fun v inside => (fits.items v (within inside)).unsized

/-- An array of items of another one, and of another value. -/
theorem built_with {v : Value} (other : v.Fits k) {more : List Value} (within : more ⊆ v :: items) :
    (Value.array more).Built k false :=
  .array nofun fun w inside =>
    (List.mem_cons.mp (within inside)).elim (fun same => same ▸ other.unsized)
      fun inside => (fits.items w inside).unsized

theorem built_getD {found : Option Value} (inside : ∀ v, found = some v → v ∈ items) :
    (found.getD .unit).Built k false := by
  cases found with
  | none => exact .flat rfl
  | some v => exact (fits.items v (inside v rfl)).unsized

theorem built_getElem? (found : Option Nat) :
    ((found.bind fun n => items[n]?).getD .unit).Built k false :=
  built_getD fits fun v there => by
    obtain ⟨n, -, there⟩ := Option.bind_eq_some_iff.mp there
    exact List.mem_of_getElem? there

theorem built_sorted : (sorted items).Built k := by
  have refused (text : String) :
      (Effect.change (.array items) (.error (.functionNotFound text))).Built k :=
    .change nofun fits.unsized fun _ _ => fits
  unfold sorted
  dsimp only
  split
  · split
    · exact refused _
    · split
      · exact refused _
      · exact .become (built_some fits (ordered_subset _))
  · exact .become fits.unsized

theorem built_onArray? (found : onArray? name items = some e) : e.Built k := by
  unfold onArray? at found
  split at found
  case h_1 | h_2 => -- len, is_empty
    cases found
    exact .seen (.flat rfl)
  case h_3 => -- pop
    split at found
    · next v last =>
      cases found
      exact .changed (fits.items v (List.mem_of_getLast? last)).unsized
        (built_some fits (List.dropLast_subset _))
    · cases found
      exact .changed (.flat rfl) (Value.built_array.mpr (List.forall_mem_nil _))
  case h_4 => -- shift
    split at found
    · cases found
      exact .changed (fits.items _ List.mem_cons_self).unsized
        (built_some fits (List.subset_cons_self _ _))
    · cases found
      exact .changed (.flat rfl) (Value.built_array.mpr (List.forall_mem_nil _))
  case h_5 => -- clear
    cases found
    exact .become (Value.built_array.mpr (List.forall_mem_nil _))
  case h_6 => -- reverse
    cases found
    exact .become (built_some fits fun v inside => List.mem_reverse.mp inside)
  case h_7 => -- sort
    cases found
    exact built_sorted fits
  case h_8 => cases found

theorem built_onArrayAnd? {arg : Value} (other : arg.Fits k) (found : onArrayAnd? name items arg = some e) :
    e.Built k := by
  unfold onArrayAnd? at found
  split at found
  case h_1 => -- push
    cases found
    exact .become (built_with fits other (by grind))
  case h_2 => -- contains
    cases found
    exact .look (built_firstEqual? _ _ _ _ fun _ => rfl)
  case h_3 => -- append, of an array
    cases found
    refine .become (.array nofun fun v inside => ?_)
    exact (List.mem_append.mp inside).elim (fun inside => (fits.items v inside).unsized)
      fun inside => (other.items v inside).unsized
  case h_4 => -- append
    cases found
    exact .become (built_with fits other (by grind))
  case h_5 => -- remove
    split at found
    · cases found
      exact .changed (built_getD fits fun v there => List.mem_of_getElem? there)
        (built_some fits (List.eraseIdx_subset ..))
    · cases found
      exact .changed (.flat rfl) fits.unsized
  case h_6 => -- truncate
    cases found
    exact .become (built_some fits (List.take_subset _ _))
  case h_7 => -- get
    cases found
    exact .seen (built_getElem? fits _)
  case h_8 => -- index_of
    cases found
    exact .look (built_firstEqual? _ _ _ _ fun found => by cases found <;> rfl)
  case h_9 => -- split
    cases found
    exact .changed (built_some fits (List.drop_subset _ _)) (built_some fits (List.take_subset _ _))
  case h_10 => -- extract
    cases found
    exact .seen (built_some fits (List.drop_subset _ _))
  case h_11 => -- extract, of a range
    cases found
    exact .seen (built_some fits (List.Subset.trans (List.take_subset _ _) (List.drop_subset _ _)))
  case h_12 => cases found

theorem built_onArrayAndTwo? {a b : Value} (other : b.Fits k)
    (found : onArrayAndTwo? name items a b = some e) : e.Built k := by
  unfold onArrayAndTwo? at found
  split at found
  · cases found
    refine .become (built_with fits other ?_)
    intro v inside
    rcases List.mem_append.mp inside with inside | inside
    · exact List.mem_cons_of_mem _ (List.take_subset _ _ inside)
    · exact (List.mem_cons.mp inside).elim (fun same => same ▸ List.mem_cons_self)
        fun inside => List.mem_cons_of_mem _ (List.drop_subset _ _ inside)
  · cases found
    exact .seen (built_some fits (List.Subset.trans (List.take_subset _ _) (List.drop_subset _ _)))
  · cases found
    exact .look (built_firstEqual? _ _ _ _ fun found => by cases found <;> rfl)
  · cases found

end Arrays

/-! ## Objects, ranges and blobs -/

theorem built_onObject? {entries : Entries} (fits : (Value.object entries).Fits k) {args : List Value}
    (others : ∀ v ∈ args, v.Fits k) (found : onObject? name entries args = some e) : e.Built k := by
  have whole : (Value.object entries).Built k false := fits.unsized
  have got (key : String) : ((entries.get? key).getD .unit).Built k false := by
    cases found : entries.get? key with
    | none => exact .flat rfl
    | some v => exact whole.get? found
  unfold onObject? at found
  split at found
  case h_1 | h_2 => -- len, is_empty
    cases found
    exact .seen (.flat rfl)
  case h_3 => -- clear
    cases found
    exact .become (.object nofun .nil nofun nofun)
  case h_4 => -- keys
    cases found
    refine .seen (.array nofun fun v inside => ?_)
    obtain ⟨e, -, rfl⟩ := List.mem_map.mp inside
    exact .text nofun
  case h_5 => -- values
    cases found
    refine .seen (.array nofun fun v inside => ?_)
    obtain ⟨e, there, rfl⟩ := List.mem_map.mp inside
    exact whole.entries e there
  case h_6 => -- contains
    cases found
    exact .seen (.flat rfl)
  case h_7 => -- get
    cases found
    exact .seen (got _)
  case h_8 => -- set
    cases found
    have named := (others (.text _) List.mem_cons_self).holdsText
    exact .become (whole.insert named (others _ (by simp)).unsized nofun)
  case h_9 => -- remove
    cases found
    exact .changed (got _) (whole.sublist List.filter_sublist)
  case h_10 => -- mixin
    cases found
    have more := others (.object _) List.mem_cons_self
    exact .become (whole.insertAll more.names (fun e inside => (more.entries e inside).unsized) nofun)
  case h_11 => cases found

theorem built_onRange? {first last : Int64} {inclusive : Bool} {args : List Value}
    (found : onRange? name first last inclusive args = some e) : e.Built k := by
  unfold onRange? at found
  split at found
  case h_1 => -- contains
    obtain ⟨n, -, rfl⟩ := Option.map_eq_some_iff.mp found
    exact .answer (.flat rfl)
  case h_7 => cases found
  all_goals
    cases found
    exact .answer (.flat rfl)

theorem built_onBlob? {bytes : List UInt8} {args : List Value}
    (found : onBlob? name bytes args = some e) : e.Built k := by
  unfold onBlob? at found
  split at found
  case h_1 | h_2 => -- len, is_empty
    cases found
    exact .seen (.flat rfl)
  case h_3 | h_4 => -- clear, reverse
    cases found
    exact .become (.flat rfl)
  case h_5 => -- push
    obtain ⟨n, -, rfl⟩ := Option.map_eq_some_iff.mp found
    exact .become (.flat rfl)
  case h_6 => -- contains
    obtain ⟨n, -, rfl⟩ := Option.map_eq_some_iff.mp found
    exact .seen (.flat rfl)
  case h_7 => -- insert
    obtain ⟨i, -, found⟩ := Option.bind_eq_some_iff.mp found
    obtain ⟨n, -, ⟨⟩⟩ := Option.bind_eq_some_iff.mp found
    exact .become (.flat rfl)
  case h_8 => -- remove
    obtain ⟨i, -, rfl⟩ := Option.map_eq_some_iff.mp found
    unfold removeByte
    split <;> exact .changed (.flat rfl) (.flat rfl)
  case h_9 => -- split
    obtain ⟨i, -, rfl⟩ := Option.map_eq_some_iff.mp found
    exact .changed (.flat rfl) (.flat rfl)
  case h_10 | h_11 => -- pop, shift
    cases found
    exact .changed (.flat rfl) (.flat rfl)
  case h_12 => cases found

theorem built_onCollections? {args : List Value} (all : ∀ v ∈ args, v.Fits k)
    (found : onCollections? name args = some e) : e.Built k := by
  unfold onCollections? at found
  split at found
  · exact built_onArray? (all _ List.mem_cons_self) found
  · exact built_onArrayAnd? (all _ List.mem_cons_self) (all _ (by simp)) found
  · exact built_onArrayAndTwo? (all _ List.mem_cons_self) (all _ (by simp)) found
  · exact built_onObject? (all _ List.mem_cons_self) (fun v inside => all v (List.mem_cons_of_mem _ inside)) found
  · exact built_onRange? found
  · exact built_onBlob? found
  · cases found

/-! ## Texts and numbers -/

theorem built_texts (parts : List String) : (texts parts).Built k false := by
  refine .array nofun fun v inside => ?_
  obtain ⟨s, -, rfl⟩ := List.mem_map.mp inside
  exact .text nofun

theorem built_characters (s : List Char) : (Value.array (s.map .character)).Built k false := by
  refine .array nofun fun v inside => ?_
  obtain ⟨c, -, rfl⟩ := List.mem_map.mp inside
  exact .flat rfl

theorem built_onText? {s : String} (found : onText? name s = some e) : e.Built k := by
  unfold onText? at found
  split at found
  case h_1 | h_2 | h_3 => -- len, is_empty, bytes
    cases found
    exact .answer (.flat rfl)
  case h_4 | h_5 => -- chars, to_chars
    cases found
    exact .value (built_characters _)
  case h_6 | h_7 => -- to_upper, to_lower
    cases found
    exact .text _
  case h_8 | h_9 | h_10 | h_11 => -- make_upper, make_lower, trim, clear
    cases found
    exact .become (.text nofun)
  case h_12 => -- split
    cases found
    exact .value (built_texts _)
  case h_13 => -- pop
    split at found
    · cases found
      exact .changed (.flat rfl) (.text nofun)
    · cases found
      exact .changed (.flat rfl) (.text nofun)
  case h_14 => cases found

theorem built_onTextAnd? {s : String} {arg : Value} (found : onTextAnd? name s arg = some e) : e.Built k := by
  unfold onTextAnd? at found
  dsimp only at found
  split at found
  case h_1 | h_2 | h_3 | h_4 => -- contains, starts_with, ends_with, index_of
    cases found
    exact .answer (.flat rfl)
  case h_5 | h_6 => -- split
    cases found
    exact .value (built_texts _)
  case h_7 | h_8 => -- remove, append
    cases found
    exact .become (.text nofun)
  case h_9 | h_10 => -- sub_string
    cases found
    exact .text _
  case h_11 => -- truncate
    cases found
    exact .become (.text nofun)
  case h_12 => -- pop
    cases found
    exact .changed (.text nofun) (.text nofun)
  case h_13 => -- get
    cases found
    refine .value (.flat ?_)
    cases (index? s.length _).bind fun i => s.toList[i]? <;> rfl
  case h_14 => cases found

theorem built_onTexts? {args : List Value} (found : onTexts? name args = some e) : e.Built k := by
  unfold onTexts? at found
  split at found
  case h_1 => exact built_onText? found
  case h_2 => exact built_onTextAnd? found
  case h_3 => -- sub_string
    cases found
    exact .text _
  case h_4 | h_5 => -- index_of
    cases found
    exact .count _
  case h_6 | h_7 => -- split
    cases found
    exact .value (built_texts _)
  case h_8 => -- replace
    cases found
    exact .become (.text nofun)
  case h_9 | h_10 => -- to_upper, to_lower
    cases found
    refine .value (.flat ?_)
    split <;> rfl
  case h_11 => cases found

theorem built_bound? {larger : Bool} {a b : Value} (found : bound? larger a b = some e) : e.Built k := by
  unfold bound? at found
  split at found
  case h_5 =>
    cases found
    exact .value (.text nofun)
  case h_7 => cases found
  all_goals
    cases found
    exact .value (.flat rfl)

theorem built_parseInteger (s : String) (base : Int64) : (parseInteger s base).Built k := by
  unfold parseInteger
  split
  · exact .refuse _
  · split
    · exact .value (.flat rfl)
    · exact .refuse _

theorem built_parseDouble (s : String) : (parseDouble s).Built k := by
  unfold parseDouble
  split
  · exact .value (.flat rfl)
  · exact .refuse _

theorem built_onInteger? {n : Int64} (found : onInteger? name n = some e) : e.Built k := by
  unfold onInteger? at found
  split at found
  case h_1 => -- abs
    cases found
    split
    · exact .refuse _
    · exact .value (.flat rfl)
  case h_8 => cases found
  all_goals
    cases found
    exact .answer (.flat rfl)

theorem built_onDouble? {x : Float} (found : onDouble? name x = some e) : e.Built k := by
  unfold onDouble? at found
  split at found
  case h_2 => -- sign
    cases found
    unfold doubleSign
    split
    · exact .refuse _
    · exact .count _
  case h_13 => -- to_int
    cases found
    unfold doubleToInteger
    split
    · exact .refuse _
    · exact .value (.flat rfl)
  case h_19 => cases found
  all_goals
    cases found
    exact .answer (.flat rfl)

theorem built_onByte? {b : UInt8} (found : onByte? name b = some e) : e.Built k := by
  unfold onByte? at found
  split at found
  case h_6 => cases found
  all_goals
    cases found
    exact .answer (.flat rfl)

theorem built_onNumbers? {args : List Value} (found : onNumbers? name args = some e) : e.Built k := by
  unfold onNumbers? at found
  split at found
  case h_1 | h_2 => exact built_bound? found
  case h_3 | h_4 =>
    cases found
    exact built_parseInteger _ _
  case h_5 =>
    cases found
    exact built_parseDouble _
  case h_6 =>
    cases found
    exact .count _
  case h_7 => exact built_onInteger? found
  case h_8 => exact built_onDouble? found
  case h_9 => exact built_onByte? found
  case h_10 => cases found

theorem built_onAny? {args : List Value} (found : onAny? name args = some e) : e.Built k := by
  unfold onAny? at found
  split at found
  case h_1 | h_2 | h_3 => -- to_string, to_debug, type_of
    cases found
    exact .text _
  case h_4 | h_7 => -- blob, timestamp
    cases found
    exact .value (.flat rfl)
  case h_5 => -- blob, of a length
    obtain ⟨n, -, rfl⟩ := Option.map_eq_some_iff.mp found
    exact .value (.flat rfl)
  case h_6 => -- blob, of a length and filled
    obtain ⟨n, -, found⟩ := Option.bind_eq_some_iff.mp found
    obtain ⟨fill, -, ⟨⟩⟩ := Option.bind_eq_some_iff.mp found
    exact .value (.flat rfl)
  case h_8 => cases found

/-- What a function of the library makes of values within caps is well built. -/
theorem built_effect? {args : List Value} (all : ∀ v ∈ args, v.Fits k) (found : effect? name args = some e) :
    e.Built k := by
  have either {a b : Option Effect} (found : (a <|> b) = some e) : a = some e ∨ b = some e := by
    cases a with
    | none => exact .inr found
    | some _ => exact .inl found
  unfold effect? at found
  rcases either found with found | found
  · exact built_onAny? found
  · rcases either found with found | found
    · exact built_onCollections? all found
    · rcases either found with found | found
      · exact built_onTexts? found
      · exact built_onNumbers? found

end Library

end ScriptGate.Script
