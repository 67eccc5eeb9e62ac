import ScriptGate.Proofs.Script.Measure.Library
import ScriptGate.Script.Evaluate.Expression

/-!
# Parts and operators within caps

A part of a value within caps is within caps, and so is the whole once another value within caps is put in the
place of an item or an entry (`Part.Fits`). A text that gets another part may grow beyond its cap. So
it is known to be well built only, and measured where the part is assigned to.
-/

namespace ScriptGate.Script

variable {k : Caps}

/-! ## Texts -/

theorem bytes_cons (c : Char) (s : List Char) :
    (String.ofList (c :: s)).utf8ByteSize = c.utf8Size + (String.ofList s).utf8ByteSize := by
  have eq : String.ofList (c :: s) = String.singleton c ++ String.ofList s := by simp
  rw [eq, String.utf8ByteSize_append, String.utf8ByteSize_singleton]

/-- A text of some of the characters of another one is no longer. -/
theorem bytes_le {s t : List Char} (some : s.Sublist t) :
    (String.ofList s).utf8ByteSize ≤ (String.ofList t).utf8ByteSize := by
  induction some with
  | slnil => exact Nat.le_refl _
  | cons c _ ih =>
    rw [bytes_cons]
    exact Nat.le_trans ih (Nat.le_add_left _ _)
  | cons_cons c _ ih =>
    rw [bytes_cons, bytes_cons]
    exact Nat.add_le_add_left ih _

theorem Value.Built.some {s : String} (fits : (Value.text s).Fits k) {some : List Char}
    (within : some.Sublist s.toList) : (Value.text (String.ofList some)).Fits k := by
  refine .text fun _ => Caps.holdsText_of_le fits.holdsText ?_
  have le := bytes_le within
  rwa [String.ofList_toList] at le

/-! ## Parts -/

/-- A part that is within caps, and whose whole is as well built with any other value in its place. Only a text
with something else in it may be beyond its cap. Its part is no value of its own, and has no entries. -/
structure Part.Fits (k : Caps) (part : Part) : Prop where
  value : part.value.Fits k
  apart : part.isOwn = true ∨ part.put? = none ∨ ∀ entries, part.value ≠ .object entries
  put : ∀ put, part.put? = some put → ∀ (sized : Bool) (v : Value),
    (sized = true → part.isOwn = true ∨ k.texts = 0) → v.Built k sized → ResultBuilt k sized (put v)

namespace Part

/-- A part or the fault of asking for it. -/
def LookFits (k : Caps) : Except Error Part → Prop
  | .ok part => part.Fits k
  | .error e => e.Fits k

/-- A part or the cause why there is none. -/
def FoundFits (k : Caps) : Except ErrorCause Part → Prop
  | .ok part => part.Fits k
  | .error cause => ∀ v, cause ≠ .thrown v

theorem fits_own {value : Value} {put : Value → Value} (fits : value.Fits k)
    (whole : ∀ (sized : Bool) (v : Value), v.Built k sized → (put v).Built k sized) :
    (own value put).Fits k where
  value := fits
  apart := .inl rfl
  put _ same sized v _ other := by
    cases same
    exact whole sized v other

/-- A part that is only made out of its whole when it is asked for. -/
theorem fits_made {value : Value} {put : Value → Except ErrorCause Value} (fits : value.Fits k)
    (single : ∀ entries, value ≠ .object entries)
    (whole : ∀ (sized : Bool) (v : Value), (sized = true → k.texts = 0) → ResultBuilt k sized (put v)) :
    Part.Fits k ⟨value, false, some put⟩ where
  value := fits
  apart := .inr (.inr single)
  put _ same sized v free _ := by
    cases same
    exact whole sized v fun all => (free all).resolve_left Bool.false_ne_true

theorem fits_read {value : Value} (fits : value.Fits k) : Part.Fits k ⟨value, false, none⟩ :=
  ⟨fits, .inr (.inl rfl), nofun⟩

theorem fits_item {items : List Value} (fits : (Value.array items).Fits k) (i : Int64) :
    FoundFits k (item items i) := by
  unfold item
  split
  · next n _ =>
    have there : (items.getD n .unit).Fits k := by
      rw [List.getD_eq_getElem?_getD]
      cases found : items[n]? with
      | none => exact .flat rfl
      | some v => exact fits.items v (List.mem_of_getElem? found)
    refine fits_own there fun sized v other => .array (fun _ => ?_) fun w inside => ?_
    · rw [List.length_set]
      exact fits.count_items
    · exact (List.mem_or_eq_of_mem_set inside).elim (fun inside => (fits.items w inside).unsized)
        fun same => same ▸ other
  · exact nofun

theorem fits_entry {entries : Entries} (fits : (Value.object entries).Fits k) (name : String) :
    FoundFits k (entry entries name) := by
  unfold entry
  split
  · next v found =>
    have named := fits.names _ (Entries.mem_of_get? found)
    refine fits_own (fits.get? found) fun sized w other => fits.unsized.insert named other fun _ => ?_
    rw [Entries.length_insert_of_get? fits.ordered found]
    exact fits.count_entries
  · exact nofun

/-- A text that may have no cap. -/
theorem built_text_of_uncapped {sized : Bool} (uncapped : sized = true → k.texts = 0) (s : String) :
    (Value.text s).Built k sized :=
  .text fun all => Caps.holdsText_iff.mpr (.inl (uncapped all))

theorem fits_character (s : String) (i : Int64) : FoundFits k (character s i) := by
  unfold character
  dsimp only
  split
  · refine fits_made (.flat rfl) nofun fun sized v uncapped => ?_
    split
    · exact built_text_of_uncapped uncapped _
    · exact nofun
  · exact nofun

theorem fits_stretch {s : String} (fits : (Value.text s).Fits k) (first last : Int64) (inclusive : Bool) :
    FoundFits k (stretch s first last inclusive) := by
  unfold stretch
  dsimp only
  split
  · exact fits_made (fits.some ((List.take_sublist _ _).trans (List.drop_sublist _ _))) nofun
      fun sized v uncapped => built_text_of_uncapped uncapped _
  · exact nofun

/-- A part of a number or of a blob. -/
theorem fits_flat {value : Value} {put : Value → Except ErrorCause Value} (flat : value.isFlat = true)
    (whole : ∀ sized v, ResultBuilt k sized (put v)) : Part.Fits k ⟨value, false, some put⟩ :=
  fits_made (.flat flat) (fun entries same => by rw [same] at flat; cases flat) fun sized v _ => whole sized v

theorem fits_bit (n i : Int64) : FoundFits k (bit n i) := by
  unfold bit
  split
  · refine fits_flat rfl fun sized v => ?_
    split
    · exact .flat rfl
    · exact .flat rfl
    · exact nofun
  · exact nofun

theorem fits_bits (n first last : Int64) (inclusive : Bool) : FoundFits k (bits n first last inclusive) := by
  unfold bits
  split
  · exact nofun
  · split
    · exact nofun
    · refine fits_flat rfl fun sized v => ?_
      split
      · exact .flat rfl
      · exact nofun

theorem fits_byte (bytes : List UInt8) (i : Int64) : FoundFits k (byte bytes i) := by
  unfold byte
  split
  · refine fits_flat rfl fun sized v => ?_
    split
    · exact .flat rfl
    · exact nofun
  · exact nofun

/-- What is told of a part at an index. -/
theorem fits_told {found : Except ErrorCause Part} (q p : Position) : FoundFits k found →
    LookFits k (match found with
      | .ok part => .ok part
      | .error (.noIndexer signature) => .error (.plain (.noIndexer signature) (some p))
      | .error cause => .error (.plain cause (some q))) := by
  intro fits
  split
  · exact fits
  · exact nofun
  · exact fun v same => (fits v same).elim

theorem fits_atIndex {whole : Value} (fits : whole.Fits k) (key : Value) (q p : Position) :
    LookFits k (atIndex whole key q p) := by
  unfold atIndex
  refine fits_told q p ?_
  split
  · exact fits_item fits _
  · exact fits_entry fits _
  · exact fits_character _ _
  · exact fits_stretch fits _ _ _
  · exact fits_bit _ _
  · exact fits_bits _ _ _ _
  · exact fits_byte _ _
  · exact nofun
  · exact nofun
  · exact nofun
  · exact nofun
  · exact nofun
  · exact nofun

/-! ## Properties -/

/-- The properties of a value that is no object are flat values, but for the name of a function and the
characters of a text. Those are made unmeasured. -/
theorem fits_property? {name : String} {v : Value} (fits : v.Fits k)
    (other : k.items = 0 ∨ name ≠ "chars") {r : Except ErrorCause Value}
    (found : Library.property? name v = some r) : ResultBuilt k true r := by
  unfold Library.property? at found
  split at found
  · cases found
    exact .text fun _ => fits.name
  · cases found
    exact .flat rfl
  · split at found
    · next isProperty =>
      cases v with
      | text s =>
        have named : name = "len" ∨ name = "is_empty" ∨ name = "bytes" ∨ name = "chars" := by
          simpa [Library.propertyNames] using isProperty
        rcases named with rfl | rfl | rfl | rfl
        · cases found
          exact .flat rfl
        · cases found
          exact .flat rfl
        · cases found
          exact .flat rfl
        · cases found
          have uncapped := other.resolve_right fun different => different rfl
          refine .array (fun _ => Caps.holdsCount_iff.mpr (.inl uncapped)) fun v inside => ?_
          obtain ⟨c, -, rfl⟩ := List.mem_map.mp inside
          exact .flat rfl
      | array | blob =>
        have named : name = "len" ∨ name = "is_empty" := by simpa [Library.propertyNames] using isProperty
        rcases named with rfl | rfl
        all_goals
          cases found
          exact .flat rfl
      | integer n =>
        have named : name = "is_odd" ∨ name = "is_even" ∨ name = "is_zero" := by
          simpa [Library.propertyNames] using isProperty
        rcases named with rfl | rfl | rfl
        all_goals
          cases found
          exact .flat rfl
      | double x =>
        have named : name = "is_zero" ∨ name = "is_nan" ∨ name = "is_finite" ∨ name = "is_infinite" ∨
            name = "floor" ∨ name = "ceiling" ∨ name = "round" ∨ name = "int" ∨ name = "fraction" := by
          simpa [Library.propertyNames] using isProperty
        rcases named with rfl | rfl | rfl | rfl | rfl | rfl | rfl | rfl | rfl
        all_goals
          cases found
          exact .flat rfl
      | range first last inclusive =>
        have named : name = "start" ∨ name = "end" ∨ name = "is_inclusive" ∨ name = "is_exclusive" ∨
            name = "is_empty" := by
          simpa [Library.propertyNames] using isProperty
        rcases named with rfl | rfl | rfl | rfl | rfl
        all_goals
          cases found
          exact .flat rfl
      | unit | boolean | character | object | byte | timestamp | function =>
        simp [Library.propertyNames] at isProperty
    · cases found

theorem fits_named {whole : Value} (fits : whole.Fits k) {name : String}
    (other : k.items = 0 ∨ name ≠ "chars") (p : Position) : LookFits k (named whole name p) := by
  have placed {found : Except ErrorCause Part} (fits : FoundFits k found) :
      LookFits k (found.mapError fun cause => .plain cause (some p)) := by
    cases found with
    | ok part => exact fits
    | error cause => exact fun v same => (fits v same).elim
  unfold named
  refine placed ?_
  split
  · exact fits_entry fits name
  · split
    · next r found =>
      have built := fits_property? fits other found
      cases r with
      | ok v => exact fits_read built
      | error cause => exact built
    · exact nofun

/-- What is read by a name is an entry, a value of its own, or it has no place. -/
theorem own_named {whole : Value} {name : String} {p : Position} {part : Part}
    (found : named whole name p = .ok part) :
    part.isOwn = true ∧ (∃ entries, whole = .object entries) ∨ part.put? = none := by
  unfold named at found
  dsimp only at found
  split at found
  · next entries =>
    unfold entry at found
    split at found
    · cases found
      exact .inl ⟨rfl, entries, rfl⟩
    · cases found
  · split at found
    · next r _ =>
      cases r with
      | ok v =>
        cases found
        exact .inr rfl
      | error cause => cases found
    · cases found

end Part

/-! ## Operators -/

namespace Operator

variable {op : Binary}

/-- A comparison tells a truth value. -/
theorem flat_compare? {equal less : Bool} {v : Value} (found : compare? op equal less = some v) :
    v.isFlat = true := by
  unfold compare? at found
  split at found <;> cases found <;> rfl

theorem flat_byKind? {v : Value} (found : byKind? op = some v) : v.isFlat = true := by
  unfold byKind? at found
  split at found <;> cases found <;> rfl

section Numbers

variable {sized : Bool}

theorem built_fit (mishap : Mishap) (a : Int64) (sign : String) (b : Int64) (n : Int) :
    ResultBuilt k sized (fit mishap a sign b n) := by
  unfold fit
  split
  · exact .flat rfl
  · exact nofun

theorem built_power (a b : Int64) : ResultBuilt k sized (power a b) := by
  unfold power
  split
  · exact nofun
  · split
    · exact nofun
    · split
      · exact .flat rfl
      · split
        · exact nofun
        · exact built_fit ..

theorem built_onIntegers (op : Binary) (a b : Int64) : ResultBuilt k sized (onIntegers op a b) := by
  unfold onIntegers
  split
  case h_1 | h_2 | h_3 => exact built_fit ..
  case h_4 => -- divide
    split
    · exact nofun
    · exact built_fit ..
  case h_5 => -- modulo
    split
    · exact nofun
    · exact .flat rfl
  case h_6 => exact built_power a b
  all_goals exact .flat rfl

theorem flat_onDoubles? {x y : Float} {v : Value} (found : onDoubles? op x y = some v) : v.isFlat = true := by
  unfold onDoubles? at found
  split at found <;> cases found <;> rfl

theorem flat_onBooleans? {a b : Bool} {v : Value} (found : onBooleans? op a b = some v) :
    v.isFlat = true := by
  unfold onBooleans? at found
  split at found
  case h_4 => exact flat_compare? found
  all_goals
    cases found
    rfl

theorem built_fitByte (op : Binary) (a b : UInt8) : ResultBuilt k sized (fitByte op a b) := by
  have integers : ResultBuilt k sized (onIntegers op (ofByte a) (ofByte b)) := built_onIntegers ..
  unfold fitByte
  split
  · split
    · exact .flat rfl
    · exact nofun
  · exact integers

end Numbers

/-! ### Texts -/

theorem without_sublist (part : List Char) (fuel : Nat) (s : List Char) : (without part fuel s).Sublist s := by
  induction fuel generalizing s with
  | zero => exact List.Sublist.refl _
  | succ fuel ih =>
    cases s with
    | nil => exact List.Sublist.refl _
    | cons c rest =>
      unfold without
      split
      · exact (ih _).trans (List.drop_sublist _ _)
      · exact (ih rest).cons_cons c

theorem built_onTexts? {a b : String} {v : Value} (found : onTexts? op a b = some v) : v.Built k false := by
  unfold onTexts? at found
  split at found
  · cases found
    exact .text nofun
  · cases found
    exact .text nofun
  · exact .flat (flat_compare? found)

/-- A text to which an empty one is added stays what it is. -/
theorem fits_onTexts? {a b : String} (fits : k.holdsText a = true) (fits' : k.holdsText b = true)
    (plain : a = "" ∨ b = "") {v : Value} (found : onTexts? op a b = some v) : v.Fits k := by
  unfold onTexts? at found
  split at found
  · cases found
    refine .text fun _ => ?_
    rcases plain with rfl | rfl
    · rwa [String.empty_append]
    · rwa [String.append_empty]
  · cases found
    have whole : (Value.text a).Fits k := .text fun _ => fits
    exact whole.some (without_sublist _ _ _)
  · exact .flat (flat_compare? found)

theorem built_onCharacters? {a b : Char} {v : Value} (found : onCharacters? op a b = some v) :
    v.Built k false := by
  unfold onCharacters? at found
  split at found
  · cases found
    exact .text nofun
  · exact .flat (flat_compare? found)

/-! ### All operators -/

theorem built_builtin? {a b : Value} {r : Except ErrorCause Value} (found : builtin? op a b = some r) :
    ResultBuilt k false r := by
  have mapped {found : Option Value} (all : ∀ v, found = some v → v.Built k false)
      (same : found.map .ok = some r) : ResultBuilt k false r := by
    obtain ⟨v, there, rfl⟩ := Option.map_eq_some_iff.mp same
    exact all v there
  unfold builtin? at found
  split at found
  · cases found
    exact built_onIntegers ..
  · exact mapped (fun v found => .flat (flat_onDoubles? found)) found
  · exact mapped (fun v found => .flat (flat_onDoubles? found)) found
  · exact mapped (fun v found => .flat (flat_onDoubles? found)) found
  · exact mapped (fun v => built_onTexts?) found
  · exact mapped (fun v => built_onTexts?) found
  · split at found
    · cases found
    · exact mapped (fun v => built_onTexts?) found
  · exact mapped (fun v => built_onCharacters?) found
  · exact mapped (fun v found => .flat (flat_onBooleans? found)) found
  · split at found
    · cases found
      exact .flat rfl
    · obtain ⟨_, -, rfl⟩ := Option.map_eq_some_iff.mp found
      exact .flat rfl
  · split at found
    · cases found
    · split at found <;> cases found <;> exact .flat rfl
  · split at found <;> cases found <;> exact .flat rfl
  · split at found
    · cases found
    · split at found
      · cases found
      · exact mapped (fun v found => .flat (flat_byKind? found)) found

/-- A sum that is not measured is one of its operands, or a single character. -/
theorem fits_plainSum {a b : Value} (fits : a.Fits k) (fits' : b.Fits k)
    (room : ∀ c : Char, k.holdsText c.toString = true) (plain : Eval.isPlainSum a b = true)
    {r : Except ErrorCause Value} (found : builtin? op a b = some r) : ResultBuilt k true r := by
  have mapped {s t : String} (fits : k.holdsText s = true) (fits' : k.holdsText t = true)
      (plain : s = "" ∨ t = "") (same : (onTexts? op s t).map .ok = some r) : ResultBuilt k true r := by
    obtain ⟨v, there, rfl⟩ := Option.map_eq_some_iff.mp same
    exact fits_onTexts? fits fits' plain there
  unfold Eval.isPlainSum at plain
  split at plain
  · have empty := (Bool.or_eq_true_iff.mp plain).imp String.isEmpty_iff.mp String.isEmpty_iff.mp
    exact mapped fits.holdsText fits'.holdsText empty found
  · exact mapped fits.holdsText (room _) (.inl (String.isEmpty_iff.mp plain)) found
  · next c t =>
    change (if op = .subtract then none else (onTexts? op c.toString t).map .ok) = some r at found
    split at found
    · cases found
    · exact mapped (room _) fits'.holdsText (.inr (String.isEmpty_iff.mp plain)) found
  · cases plain

theorem built_byEquality? {answer : Except (Value × Value) Bool} {r : Except ErrorCause Value}
    (found : (byEquality? op answer).map library?.told = some r) : ResultBuilt k false r := by
  obtain ⟨told, there, rfl⟩ := Option.map_eq_some_iff.mp found
  unfold byEquality? at there
  split at there
  · cases there
    cases answer with
    | ok b => exact .flat rfl
    | error pair => exact nofun
  · cases there
    cases answer with
    | ok b => exact .flat rfl
    | error pair => exact nofun
  · cases there

theorem built_library? {a b : Value} (fits : a.Fits k) (fits' : b.Fits k) {r : Except ErrorCause Value}
    (found : library? op a b = some r) : ResultBuilt k false r := by
  unfold library? at found
  split at found
  case h_1 | h_2 | h_3 | h_4 => -- texts
    cases found
    exact .text nofun
  case h_5 => -- arrays
    cases found
    refine .array nofun fun v inside => ?_
    exact (List.mem_append.mp inside).elim (fun inside => (fits.items v inside).unsized)
      fun inside => (fits'.items v inside).unsized
  case h_6 => -- objects
    cases found
    exact fits.unsized.insertAll fits'.names (fun e inside => (fits'.entries e inside).unsized) nofun
  case h_7 => -- bytes
    unfold onBytes? at found
    split at found
    case h_6 =>
      cases found
      exact built_fitByte ..
    all_goals cases found
  case h_8 | h_9 | h_10 => exact built_byEquality? found
  case h_11 => cases found

theorem built_binary? {a b : Value} (fits : a.Fits k) (fits' : b.Fits k) {r : Except ErrorCause Value}
    (found : binary? op a b = some r) : ResultBuilt k false r := by
  unfold binary? at found
  cases known : builtin? op a b with
  | none =>
    rw [known] at found
    exact built_library? fits fits' found
  | some _ =>
    rw [known] at found
    exact built_builtin? (known.trans found)

theorem built_unary? {op : Unary} {a : Value} {r : Except ErrorCause Value} (found : unary? op a = some r) :
    ResultBuilt k true r := by
  unfold unary? at found
  split at found
  case h_2 =>
    split at found
    · cases found
      exact nofun
    · cases found
      exact .flat rfl
  case h_7 => cases found
  all_goals
    cases found
    exact .flat rfl

end Operator

end ScriptGate.Script
