import Mathlib.Data.List.TakeWhile
import ScriptGate.Outcome
import ScriptGate.Proofs.Json.Grammar.Container

/-!
# Values are read as they are spelled

A reader that allows `d` lists and objects around each other takes just what the grammar spells with so
many (`recognizes_value`, by induction on `d`), and so a text is read as a value exactly if it holds that
value (`read?_eq_some_iff_holdsValue`).
-/

namespace ScriptGate.Json

open Reader

variable {s t rest : List Char} {v : Value}

/-! ## Scalars -/

theorem Numeral.number_eq_double_iff {n : Numeral} {x : Float} :
    n.number = .ok (.double x) ↔
      n.double = .ok (.double x) ∧ ∀ w : Whole, n.number ≠ .ok (.whole w) := by
  have doubled : n.number = n.double ∨ ∃ w : Whole, n.number = .ok (.whole w) := by
    unfold number
    split
    · split
      · exact .inl rfl
      · split
        · exact .inr ⟨_, rfl⟩
        · exact .inl rfl
    · exact .inl rfl
  rcases doubled with same | ⟨w, whole⟩
  · rw [same]
    exact ⟨fun double => ⟨double, n.double_ne_whole⟩, And.left⟩
  · constructor
    · intro double
      rw [whole] at double
      cases double
    · exact fun double => absurd whole (double.2 w)

/-- Numbers are spelled by the tokens that stand for them. -/
theorem spellsScalar_number_iff {x : Number} :
    SpellsScalar t (.number x) ↔ ∃ n : Numeral, n.Written t ∧ n.number = .ok x := by
  constructor
  · intro spelled
    cases spelled with
    | whole w =>
      have written := Numeral.written_ofInt w.val
      exact ⟨_, written, written.eq_intChars_iff.mp rfl⟩
    | @double n _ x token other inRange =>
      have fraction : ∀ w : Whole, n.number ≠ .ok (.whole w) := fun w whole =>
        other w (token.eq_intChars_iff.mpr whole)
      exact ⟨n, token, Numeral.number_eq_double_iff.mpr ⟨inRange, fraction⟩⟩
  · rintro ⟨n, written, stands⟩
    cases x with
    | whole w =>
      rw [written.eq_intChars_iff.mpr stands]
      exact .whole w
    | double x =>
      obtain ⟨inRange, other⟩ := Numeral.number_eq_double_iff.mp stands
      exact .double written (fun w same => other w (written.eq_intChars_iff.mp same)) inRange

/-- A token is a sign and digits, whatever follows those. -/
theorem Numeral.Written.exists_digit {n : Numeral} (written : n.Written t) :
    ∃ c tail, t = Numeral.sign n.negative ++ c :: tail ∧ c.isDigit = true := by
  obtain ⟨more, split, -, c, tail, rfl, digit⟩ := written.scan endsNumber_nil
  rw [List.append_nil] at split
  exact ⟨c, tail, split, digit⟩

/-- A scalar is read as it is spelled. Only a number has to end in front of what follows. -/
theorem SpellsScalar.valueWith (spelled : SpellsScalar t v) (inner : Option (Reader Value))
    (ends : (∃ x, v = .number x) → EndsNumber rest) :
    (valueWith inner).bare (t ++ rest) = .ok (v, rest) := by
  have number {x : Number} (spelled : SpellsScalar t (.number x)) (ends : EndsNumber rest) :
      (Reader.valueWith inner).bare (t ++ rest) = .ok (.number x, rest) := by
    obtain ⟨n, written, stands⟩ := spellsScalar_number_iff.mp spelled
    rw [written.valueWith inner ends, stands]
  cases spelled with
  | null => exact valueWith_null inner
  | yes => exact valueWith_boolean inner true
  | no => exact valueWith_boolean inner false
  | whole w => exact number (.whole w) (ends ⟨_, rfl⟩)
  | double token other inRange => exact number (.double token other inRange) (ends ⟨_, rfl⟩)
  | @text _ x spelled =>
    cases spelled with
    | @quoted t _ inside =>
      have digit : digit? '"' = none := by decide
      rw [List.cons_append, List.append_assoc, bare_valueWith, skipBlank_cons (by decide)]
      simp [text_of_spells inside, digit, Except.map]

theorem SpellsScalar.opens (spelled : SpellsScalar t v) : OpensValue t := by
  have number {n : Numeral} {t : List Char} (written : n.Written t) : OpensValue t := by
    obtain ⟨c, tail, rfl, digit⟩ := written.exists_digit
    cases n.negative with
    | true => exact ⟨'-', _, rfl, by decide⟩
    | false => exact ⟨c, tail, rfl, by simp [beginsValue, digit?_of_isDigit digit]⟩
  cases spelled with
  | null => exact ⟨'n', _, rfl, by decide⟩
  | yes => exact ⟨'t', _, rfl, by decide⟩
  | no => exact ⟨'f', _, rfl, by decide⟩
  | whole w => exact number (Numeral.written_ofInt w.val)
  | double token other inRange => exact number token
  | text spelled =>
    cases spelled with
    | quoted inside => exact ⟨'"', _, rfl, by decide⟩

/-- A number that is read is spelled by a token. -/
theorem exists_spells_of_read (negative : Bool)
    (taken : ((Numeral.read negative s).map fun (x, rest) => (Value.number x, rest)) = .ok (v, rest)) :
    ∃ t, SpellsScalar t v ∧ Numeral.sign negative ++ s = t ++ rest := by
  obtain ⟨⟨x, left⟩, read, same⟩ := exists_of_map_eq_ok taken
  cases same
  unfold Numeral.read at read
  obtain ⟨⟨n, left⟩, scanned, number⟩ := exists_of_bind_eq_ok read
  obtain ⟨t, written, split⟩ := Numeral.exists_written_of_scan scanned
  dsimp only at number
  split at number
  · next stands =>
    cases number
    exact ⟨t, spellsScalar_number_iff.mpr ⟨n, written, stands⟩, split⟩
  · cases number

theorem eq_append_of_bareWord {letters : List Char} (taken : bareWord letters s = .ok rest) :
    s = letters ++ rest := by
  induction letters generalizing s with
  | nil =>
    cases taken
    rfl
  | cons letter letters ih =>
    cases s with
    | nil => cases taken
    | cons c s =>
      rw [bareWord_cons] at taken
      split at taken
      · next same => rw [same, ih taken, List.cons_append]
      · cases taken

/-- A word that is read is spelled by its letters. -/
theorem exists_spells_of_word {c : Char} {letters : List Char} {w : Value}
    (spelled : SpellsScalar (c :: letters) w)
    (taken : ((bareWord letters s).map fun rest => (w, rest)) = .ok (v, rest)) :
    ∃ t, SpellsScalar t v ∧ c :: s = t ++ rest := by
  obtain ⟨left, word, same⟩ := exists_of_map_eq_ok taken
  cases same
  rw [eq_append_of_bareWord word]
  exact ⟨_, spelled, rfl⟩

/-! ## Values -/

/-- What is read as a value is a scalar, or else a container for which there is room. -/
theorem exists_of_valueWith {inner : Option (Reader Value)}
    (taken : (valueWith inner).bare s = .ok (v, rest)) :
    ∃ gap : Gap, ∃ u, s = gap.val ++ u ∧
      ((∃ t, SpellsScalar t v ∧ u = t ++ rest) ∨
        ∃ r, inner = some r ∧ ∃ tail,
          ((∃ xs, v = .list xs ∧ u = '[' :: tail ∧ (items .list r).bare tail = .ok (xs, rest)) ∨
            ∃ written, v = .object (Members.ofList written) ∧ u = '\x7b' :: tail ∧
              (items .object (member r)).bare tail = .ok (written, rest))) := by
  rw [bare_valueWith] at taken
  split at taken
  · cases taken
  next c tail start =>
  obtain ⟨front, blank, rfl⟩ := exists_split_of_skipBlank start
  refine ⟨⟨front, blank⟩, c :: tail, rfl, ?_⟩
  split at taken
  · next null =>
    rw [null]
    exact .inl (exists_spells_of_word .null taken)
  split at taken
  · next yes =>
    rw [yes]
    exact .inl (exists_spells_of_word .yes taken)
  split at taken
  · next no =>
    rw [no]
    exact .inl (exists_spells_of_word .no taken)
  split at taken
  · next minus =>
    rw [minus]
    exact .inl (exists_spells_of_read true taken)
  split at taken
  · exact .inl (exists_spells_of_read false taken)
  split at taken
  · next quote =>
    obtain ⟨⟨x, left⟩, read, same⟩ := exists_of_map_eq_ok taken
    cases same
    obtain ⟨t, inside, rfl⟩ := text_eq_ok_iff.mp read
    refine .inl ⟨_, .text (.quoted inside), ?_⟩
    rw [quote, List.cons_append, List.append_assoc]
    rfl
  split at taken
  · next bracket =>
    split at taken
    · cases taken
    · next r =>
      obtain ⟨⟨xs, left⟩, read, same⟩ := exists_of_map_eq_ok taken
      cases same
      exact .inr ⟨r, rfl, tail, .inl ⟨xs, rfl, by rw [bracket], read⟩⟩
  split at taken
  · next brace =>
    split at taken
    · cases taken
    · next r =>
      obtain ⟨⟨written, left⟩, read, same⟩ := exists_of_map_eq_ok taken
      cases same
      exact .inr ⟨r, rfl, tail, .inr ⟨written, rfl, by rw [brace], read⟩⟩
  · cases taken

theorem recognizes_scalar : Recognizes (valueWith none) SpellsScalar := by
  constructor
  case sound =>
    intro s rest v taken
    obtain ⟨gap, u, rfl, ⟨t, scalar, rfl⟩ | ⟨r, none, -⟩⟩ := exists_of_valueWith taken
    · exact ⟨gap, t, scalar, rfl⟩
    · cases none
  case complete =>
    intro t rest v gap spelled ends
    rw [valueWith_blank gap.property]
    exact spelled.valueWith none fun _ => ends
  case opens =>
    intro t v spelled
    exact spelled.opens

section Around

variable {P : List Char → Value → Prop} {r : Reader Value}

theorem SpellsAround.valueWith (recognizes : Recognizes r P) (spelled : SpellsAround P t v)
    (ends : (∃ x, v = .number x) → EndsNumber rest) :
    (valueWith (some r)).bare (t ++ rest) = .ok (v, rest) := by
  cases spelled with
  | scalar spelled => exact spelled.valueWith (some r) ends
  | @list t xs inside =>
    have taken : (items .list r).bare (t ++ ']' :: rest) = .ok (xs, rest) :=
      (recognizes.items_eq_ok_iff Bracket.plain_list).mpr ⟨t, inside, rfl⟩
    rw [List.cons_append, List.append_assoc, bare_valueWith, skipBlank_cons (by decide)]
    change ((items .list r).bare (t ++ ']' :: rest)).map _ = _
    rw [taken]
    rfl
  | @object t written spelled =>
    cases spelled with
    | @braces t written inside =>
      have taken : (items .object (member r)).bare (t ++ '\x7d' :: rest) = .ok (written, rest) :=
        (recognizes.member.items_eq_ok_iff Bracket.plain_object).mpr ⟨t, inside, rfl⟩
      rw [List.cons_append, List.append_assoc, bare_valueWith, skipBlank_cons (by decide)]
      change ((items .object (member r)).bare (t ++ '\x7d' :: rest)).map _ = _
      rw [taken]
      rfl

/-- Around values that are read as they are spelled, so are lists and objects. -/
theorem Recognizes.valueWith (recognizes : Recognizes r P) :
    Recognizes (valueWith (some r)) (SpellsAround P) := by
  constructor
  case sound =>
    intro s rest v taken
    obtain ⟨gap, u, rfl, ⟨t, scalar, rfl⟩ | ⟨_, ⟨⟩, tail, container⟩⟩ := exists_of_valueWith taken
    · exact ⟨gap, t, .scalar scalar, rfl⟩
    rcases container with ⟨xs, rfl, rfl, read⟩ | ⟨written, rfl, rfl, read⟩
    · obtain ⟨t, inside, rfl⟩ := (recognizes.items_eq_ok_iff Bracket.plain_list).mp read
      refine ⟨gap, _, .list inside, ?_⟩
      rw [List.cons_append, List.append_assoc]
      rfl
    · obtain ⟨t, inside, rfl⟩ := (recognizes.member.items_eq_ok_iff Bracket.plain_object).mp read
      refine ⟨gap, _, .object (.braces inside), ?_⟩
      rw [List.cons_append, List.append_assoc]
      rfl
  case complete =>
    intro t rest v gap spelled ends
    rw [valueWith_blank gap.property]
    exact spelled.valueWith recognizes fun _ => ends
  case opens =>
    intro t v spelled
    cases spelled with
    | scalar spelled => exact spelled.opens
    | list inside => exact ⟨'[', _, rfl, by decide⟩
    | object spelled =>
      cases spelled with
      | braces inside => exact ⟨'\x7b', _, rfl, by decide⟩

end Around

theorem recognizes_value (d : Nat) : Recognizes (value d) (Spells d) := by
  induction d with
  | zero => exact recognizes_scalar
  | succ d ih => exact ih.valueWith

/-- A value is read as it is spelled. Only a number has to end in front of what follows. -/
theorem Spells.value {d : Nat} (spelled : Spells d t v) (ends : (∃ x, v = .number x) → EndsNumber rest) :
    (value d).bare (t ++ rest) = .ok (v, rest) := by
  cases d with
  | zero => exact SpellsScalar.valueWith spelled none ends
  | succ d => exact SpellsAround.valueWith (recognizes_value d) spelled ends

/-! ## Whole texts -/

theorem areBlank_of_skipBlank_eq_nil (ended : skipBlank s = []) : AreBlank s :=
  List.dropWhile_eq_nil_iff.mp ended

theorem spaced_iff {α : Type} {P : List Char → α → Prop} {x : α} :
    Spaced P s x ↔ ∃ lead trail : Gap, ∃ t, P t x ∧ s = lead.val ++ (t ++ trail.val) := by
  constructor
  · rintro ⟨lead, trail, inside⟩
    exact ⟨lead, trail, _, inside, rfl⟩
  · rintro ⟨lead, trail, t, inside, rfl⟩
    exact .around lead trail inside

/-- A whole text is read exactly as it is spelled, with blank space around that. -/
theorem Recognizes.run_eq_ok_iff {α : Type} {r : Reader α} {P : List Char → α → Prop}
    (recognizes : Recognizes r P) {text : String} {x : α} :
    r.run text = .ok x ↔ Spaced P text.toList x := by
  rw [run_eq_bare, spaced_iff]
  constructor
  · intro found
    obtain ⟨⟨y, rest⟩, taken, left⟩ := exists_of_bind_eq_ok (eq_ok_of_mapError_eq_ok found)
    obtain ⟨lead, t, spelled, whole⟩ := recognizes.sound taken
    dsimp only at left
    split at left
    · next ended =>
      cases left
      exact ⟨lead, ⟨rest, areBlank_of_skipBlank_eq_nil ended⟩, t, spelled, whole⟩
    · cases left
  · rintro ⟨lead, trail, t, spelled, whole⟩
    have ends := endsNumber_append trail.property endsNumber_nil
    rw [List.append_nil] at ends
    rw [whole, recognizes.complete lead spelled ends]
    simp only [bind, Except.bind, skipBlank_of_areBlank trail.property]
    rfl

theorem read?_eq_some_iff_holdsValue {text : String} :
    read? text = some v ↔ HoldsValue maxDepth text v := by
  rw [read?_eq_some_iff]
  exact (recognizes_value maxDepth).run_eq_ok_iff

/-- A text that holds an object holds members, of which those with one name count as their last. -/
theorem holdsValue_object_iff {d : Nat} {text : String} {fields : Members} :
    HoldsValue (d + 1) text (.object fields) ↔
      ∃ written, HoldsObject d text written ∧ Members.ofList written = fields := by
  constructor
  · intro holds
    obtain ⟨lead, trail, t, spelled, whole⟩ := spaced_iff.mp holds
    generalize object : Value.object fields = v at spelled
    cases spelled with
    | scalar spelled => cases spelled <;> cases object
    | list inside => cases object
    | object spelled =>
      cases object
      exact ⟨_, spaced_iff.mpr ⟨lead, trail, t, spelled, whole⟩, rfl⟩
  · rintro ⟨written, holds, rfl⟩
    obtain ⟨lead, trail, t, spelled, whole⟩ := spaced_iff.mp holds
    exact spaced_iff.mpr ⟨lead, trail, t, .object spelled, whole⟩

/-- A written object holds its members, in their order and with all that have one name. -/
theorem holdsObject_render {members : Members} {d : Nat} (exact : ∀ m ∈ members, m.2.isExact = true)
    (ordered : ∀ m ∈ members, m.2.isOrdered = true) (fits : ∀ m ∈ members, m.2.depth ≤ d) :
    HoldsObject d (Value.object members).render members := by
  have start : ∃ s, (Value.object members).write [] = '\x7b' :: s ∧
      (items .object (member (value d))).bare s = .ok (members, []) := by
    cases members with
    | nil => exact ⟨_, rfl, items_close rfl (by decide)⟩
    | cons m members =>
      obtain ⟨name, v⟩ := m
      rw [List.forall_mem_cons] at exact ordered fits
      have inside := value_write v d (Value.writeMembers members []) exact.1 ordered.1
        (endsNumber_writeMembers members []) fits.1
      have more := moreItems_writeMembers members d [(name, v)] []
        (Value.membersExact_iff.mpr exact.2) (Value.membersOrdered_iff.mpr ordered.2)
        (Value.membersDepth_le_iff.mpr fits.2)
      obtain ⟨tail, start⟩ :=
        skipBlank_writeText name (':' :: v.write (Value.writeMembers members []))
      have first : (member (value d)).bare
          (writeText name (':' :: v.write (Value.writeMembers members []))) =
            .ok ((name, v), Value.writeMembers members []) := by
        rw [member_write, inside]
        rfl
      exact ⟨_, rfl, (items_first start (by decide) first).trans more⟩
  obtain ⟨s, written, taken⟩ := start
  obtain ⟨t, inside, rfl⟩ :=
    ((recognizes_value d).member.items_eq_ok_iff Bracket.plain_object).mp taken
  have spaced : Spaced (SpellsObject (Spells d)) ([] ++ ('\x7b' :: (t ++ ['\x7d']) ++ [])) members :=
    .around ⟨[], by decide⟩ ⟨[], by decide⟩ (.braces inside)
  rw [List.nil_append, List.append_nil] at spaced
  rwa [HoldsObject, Value.render, String.toList_ofList, written]

/-- What a text holds is read off its front, if a number ends before what is put behind it. -/
theorem HoldsValue.bare {d : Nat} {text : String} (holds : HoldsValue d text v) :
    ∃ trail : Gap, ∀ more, ((∃ x, v = .number x) → EndsNumber (trail.val ++ more)) →
      (value d).bare (text.toList ++ more) = .ok (v, trail.val ++ more) := by
  obtain ⟨lead, trail, t, spelled, whole⟩ := spaced_iff.mp holds
  refine ⟨trail, fun more ends => ?_⟩
  rw [whole, List.append_assoc, List.append_assoc, value_blank lead.property, spelled.value ends]

/-- What a text holds is read off it up to blank space. -/
theorem HoldsValue.bare_self {d : Nat} {text : String} (holds : HoldsValue d text v) :
    ∃ trail : Gap, (value d).bare text.toList = .ok (v, trail.val) := by
  obtain ⟨trail, taken⟩ := holds.bare
  have ends := endsNumber_append trail.property endsNumber_nil
  have whole := taken [] fun _ => ends
  rw [List.append_nil, List.append_nil] at whole
  exact ⟨trail, whole⟩

/-- Behind a value and blank space nothing can follow. -/
theorem read?_append_space {text more : String} (holds : HoldsValue maxDepth text v)
    (other : ¬ AreBlank more.toList) : read? (text ++ " " ++ more) = none := by
  refine Option.eq_none_iff_forall_ne_some.mpr fun w found => ?_
  obtain ⟨behind, whole⟩ := (read?_eq_some_iff_holdsValue.mp found).bare_self
  obtain ⟨trail, taken⟩ := holds.bare
  have ends : EndsNumber (trail.val ++ ' ' :: more.toList) :=
    endsNumber_append trail.property (endsNumber_cons (by decide) _)
  have front := taken (' ' :: more.toList) fun _ => ends
  have split : (text ++ " " ++ more).toList = text.toList ++ ' ' :: more.toList := by simp
  rw [split, front] at whole
  have left : trail.val ++ ' ' :: more.toList = behind.val := (Prod.mk.inj (Except.ok.inj whole)).2
  refine other fun c found => behind.property c ?_
  rw [← left]
  simp [found]

/-- Numbers are spelled alike at any depth. -/
theorem Spells.scalar_of_number {d : Nat} {x : Number} (spelled : Spells d t (.number x)) :
    SpellsScalar t (.number x) := by
  cases d with
  | zero => exact spelled
  | succ d =>
    generalize number : Value.number x = v at spelled
    cases spelled with
    | scalar spelled => exact spelled
    | list inside | object spelled => cases number

/-- What begins as a number is no other value. -/
theorem eq_number_of_value {d : Nat} {negative : Bool} {c : Char} (digit : c.isDigit = true)
    (taken : (value d).bare (Numeral.sign negative ++ c :: s) = .ok (v, rest)) :
    ∃ x, v = .number x := by
  have read {inner : Option (Reader Value)}
      (taken : (valueWith inner).bare (Numeral.sign negative ++ c :: s) = .ok (v, rest)) :
      ∃ x, v = .number x := by
    rw [Numeral.bare_valueWith_number inner digit] at taken
    obtain ⟨⟨x, left⟩, -, same⟩ := exists_of_map_eq_ok taken
    cases same
    exact ⟨x, rfl⟩
  cases d with
  | zero => exact read taken
  | succ d => exact read taken

/-- A number can be spelled on, but only as a number. -/
theorem HoldsValue.eq_number {d : Nat} {text : String} {x : Number} {w : Value}
    (holds : HoldsValue d text (.number x))
    (taken : (value d).bare (text.toList ++ t) = .ok (w, rest)) : ∃ y, w = .number y := by
  obtain ⟨lead, trail, u, spelled, whole⟩ := spaced_iff.mp holds
  obtain ⟨n, written, -⟩ := spellsScalar_number_iff.mp spelled.scalar_of_number
  obtain ⟨c, tail, rfl, digit⟩ := written.exists_digit
  rw [whole, List.append_assoc, value_blank lead.property, List.append_assoc, List.append_assoc,
    List.cons_append] at taken
  exact eq_number_of_value digit taken

/-- The text of anything but a number cannot be cut off. -/
theorem read?_of_append {text more : String} (holds : HoldsValue maxDepth (text ++ more) v)
    (other : ∀ x, v ≠ .number x) (cut : ¬ AreBlank more.toList) : read? text = none := by
  refine Option.eq_none_iff_forall_ne_some.mpr fun w found => ?_
  obtain ⟨behind, whole⟩ := holds.bare_self
  rw [String.toList_append] at whole
  have front := read?_eq_some_iff_holdsValue.mp found
  by_cases number : ∃ x, w = .number x
  · obtain ⟨x, rfl⟩ := number
    obtain ⟨y, same⟩ := front.eq_number whole
    exact other y same
  · obtain ⟨trail, taken⟩ := front.bare
    rw [taken more.toList fun found => absurd found number] at whole
    have left : trail.val ++ more.toList = behind.val := (Prod.mk.inj (Except.ok.inj whole)).2
    refine cut fun c found => behind.property c ?_
    rw [← left]
    exact List.mem_append_right _ found

/-- Just the texts that hold a value are read, and each as the value that it holds: an object by the last
of its members with each name. So nothing is read where something follows the value or where the text of
one is cut off, nor is the sentinel. -/
theorem read?_iff_holdsValue (text : String) :
    (∀ v, read? text = some v ↔ HoldsValue 127 text v) ∧
      (read? text = none ↔ ∀ v, ¬ HoldsValue 127 text v) ∧
      (∀ written, HoldsObject 126 text written → ∃ fields, read? text = some (.object fields) ∧
        ∀ name, Members.get? fields name = Members.last? written name) ∧
      (∀ v more, HoldsValue 127 text v → ¬ AreBlank more.toList →
        read? (text ++ " " ++ more) = none) ∧
      (∀ v more, HoldsValue 127 (text ++ more) v → (∀ x, v ≠ .number x) → ¬ AreBlank more.toList →
        read? text = none) ∧
      read? noValue = none := by
  refine ⟨fun v => read?_eq_some_iff_holdsValue, ?unread, ?object, ?followed, ?cut, ?sentinel⟩
  case unread =>
    rw [Option.eq_none_iff_forall_ne_some]
    exact forall_congr' fun v => not_congr read?_eq_some_iff_holdsValue
  case object =>
    intro written holds
    have found := read?_eq_some_iff_holdsValue.mpr (holdsValue_object_iff.mpr ⟨written, holds, rfl⟩)
    exact ⟨_, found, Members.get?_ofList written⟩
  case followed =>
    intro v more holds other
    exact read?_append_space holds other
  case cut =>
    intro v more holds other cut
    exact read?_of_append holds other cut
  case sentinel =>
    obtain ⟨line, column, refused⟩ : ∃ line column,
        read noValue = .error ⟨.valueWanted, line, column⟩ :=
      read_of_not_beginsValue rfl (by decide) (by decide)
    rw [read?, refused]
    rfl

/-- A list is read, but neither in front of another bracket nor without its own. -/
theorem read?_brackets :
    HoldsValue 127 "[ true]" (.list [.boolean true]) ∧
      read? "[ true]" = some (.list [.boolean true]) ∧ read? ("[ true]" ++ " " ++ "]") = none ∧
      read? "[ true" = none := by
  have inside : Enclosed (Spells 126) [' ', 't', 'r', 'u', 'e'] [.boolean true] :=
    .some (.single (.around ⟨[' '], by decide⟩ ⟨[], by decide⟩ (SpellsAround.scalar .yes)))
  have holds : HoldsValue 127 "[ true]" (.list [.boolean true]) :=
    .around ⟨[], by decide⟩ ⟨[], by decide⟩ (SpellsAround.list inside)
  have noNumber : ∀ x, Value.list [.boolean true] ≠ .number x := by
    intro x same
    cases same
  obtain ⟨exactly, -, -, followed, -⟩ := read?_iff_holdsValue "[ true]"
  have uncut : HoldsValue 127 ("[ true" ++ "]") (.list [.boolean true]) := by
    rw [show "[ true" ++ "]" = "[ true]" by decide]
    exact holds
  obtain ⟨-, -, -, -, cut, -⟩ := read?_iff_holdsValue "[ true"
  exact ⟨holds, (exactly _).mpr holds, followed _ "]" holds (by decide),
    cut _ "]" uncut noNumber (by decide)⟩

end ScriptGate.Json
