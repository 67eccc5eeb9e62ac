import ScriptGate.Proofs.Json.Grammar.Value

/-!
# The sentinel and null

Two kinds of answers mean null: the sentinel, letter for letter, and null itself between blank space. The
sentinel is no JSON, and with something before it or behind it a text is JSON at most where the sentinel
stands inside quotes, since no token but a text has its letter `d` (`Json.quotes_around_noValue`). So
the two questions that tell the meaning of an answer could as well be asked the other way round
(`Outcome.readFirst_eq_classify`).
-/

namespace ScriptGate

namespace Json

/-! ## A letter that stands in texts only -/

/-- Whether there are quotes on both sides of every `d`. -/
def Quoted (t : List Char) : Prop :=
  ∀ before after, t = before ++ 'd' :: after → '"' ∈ before ∧ '"' ∈ after

namespace Quoted

variable {t u : List Char}

theorem of_not_mem (absent : 'd' ∉ t) : Quoted t := by
  rintro before after rfl
  exact absurd (List.mem_append_right before List.mem_cons_self) absent

theorem append (first : Quoted t) (second : Quoted u) : Quoted (t ++ u) := by
  intro before after split
  rcases List.append_eq_append_iff.mp split with ⟨more, rfl, here⟩ | ⟨more, rfl, here⟩
  · -- The letter stands in the second part.
    obtain ⟨front, behind⟩ := second more after here
    exact ⟨List.mem_append_right _ front, behind⟩
  · cases more with
    | nil =>
      obtain ⟨front, behind⟩ := second [] after here.symm
      cases front
    | cons c more =>
      obtain ⟨rfl, rfl⟩ := List.cons.inj here
      obtain ⟨front, behind⟩ := first before more rfl
      exact ⟨front, List.mem_append_left _ behind⟩

theorem cons {c : Char} (other : c ≠ 'd') (rest : Quoted t) : Quoted (c :: t) :=
  append (t := [c]) (of_not_mem fun found => other (List.mem_singleton.mp found).symm) rest

/-- Between quotes, whatever stands there. -/
theorem quotes (t : List Char) : Quoted ('"' :: (t ++ ['"'])) := by
  intro before after split
  cases before with
  | nil =>
    have quote := (List.cons.inj split).1
    cases quote
  | cons c before =>
    obtain ⟨rfl, rest⟩ := List.cons.inj split
    refine ⟨List.mem_cons_self, ?_⟩
    rcases List.append_eq_append_iff.mp rest with ⟨more, -, last⟩ | ⟨more, -, last⟩
    · have letter : 'd' ∈ ['"'] := last ▸ List.mem_append_right more List.mem_cons_self
      exact absurd letter (by decide)
    · cases more with
      | nil =>
        have quote := (List.cons.inj last).1
        cases quote
      | cons c more =>
        rw [(List.cons.inj last).2]
        exact List.mem_append_right more (List.mem_singleton.mpr rfl)

/-! ### Tokens -/

theorem digitChars {ds : List Nat} (digits : Numeral.AreDigits ds) : Quoted (Numeral.digitChars ds) := by
  refine of_not_mem fun found => ?_
  obtain ⟨d, member, letter⟩ := List.mem_map.mp found
  have digit := Numeral.isDigit_digitChar (digits.2 d member)
  rw [letter] at digit
  cases digit

theorem gap (gap : Gap) : Quoted gap.val :=
  of_not_mem fun found => absurd (gap.property _ found) (by decide)

theorem fraction {ds : Option (List Nat)} (written : Numeral.WrittenFraction ds t) : Quoted t := by
  cases written with
  | absent => exact of_not_mem List.not_mem_nil
  | present digits => exact cons (by decide) (digitChars digits)

theorem power {ds : Option (Bool × List Nat)} (written : Numeral.WrittenPower ds t) : Quoted t := by
  have mark {c : Char} (marked : c = 'e' ∨ c = 'E') : c ≠ 'd' := by
    rcases marked with rfl | rfl <;> decide
  cases written with
  | absent => exact of_not_mem List.not_mem_nil
  | bare marked digits => exact cons (mark marked) (digitChars digits)
  | plus marked digits => exact cons (mark marked) (cons (by decide) (digitChars digits))
  | minus marked digits => exact cons (mark marked) (cons (by decide) (digitChars digits))

theorem number {n : Numeral} (written : n.Written t) : Quoted t := by
  cases written with
  | parts digits plain fractional scaled =>
    have sign : Quoted (Numeral.sign n.negative) := by
      cases n.negative with
      | true => exact of_not_mem (by decide)
      | false => exact of_not_mem (by decide)
    exact sign.append ((digitChars digits).append ((fraction fractional).append (power scaled)))

theorem text {s : String} (spelled : SpellsText t s) : Quoted t := by
  cases spelled with
  | quoted inside => exact quotes _

theorem scalar {v : Value} (spelled : SpellsScalar t v) : Quoted t := by
  cases spelled with
  | null => exact of_not_mem (by decide)
  | yes => exact of_not_mem (by decide)
  | no => exact of_not_mem (by decide)
  | whole w => exact number (Numeral.written_ofInt w.val)
  | double token other inRange => exact number token
  | text spelled => exact text spelled

/-! ### Containers -/

section Containers

variable {α : Type} {P : List Char → α → Prop} {x : α} {xs : List α}

theorem spaced (inside : ∀ {t x}, P t x → Quoted t) (spelled : Spaced P t x) : Quoted t := by
  cases spelled with
  | around lead trail spelled => exact (gap lead).append ((inside spelled).append (gap trail))

theorem listed (inside : ∀ {t x}, P t x → Quoted t) (spelled : Listed P t xs) : Quoted t := by
  induction spelled with
  | single item => exact spaced inside item
  | more item others ih => exact (spaced inside item).append (cons (by decide) ih)

theorem enclosed (inside : ∀ {t x}, P t x → Quoted t) (spelled : Enclosed P t xs) : Quoted t := by
  cases spelled with
  | none blank => exact gap blank
  | some items => exact listed inside items

theorem member (inside : ∀ {t x}, P t x → Quoted t) {m : String × α} (spelled : SpellsMember P t m) :
    Quoted t := by
  cases spelled with
  | named before behind label spelled =>
    have colon := cons (c := ':') (by decide) ((gap behind).append (inside spelled))
    exact (text label).append ((gap before).append colon)

end Containers

/-- However deep, the letter stands between quotes. -/
theorem value {d : Nat} {v : Value} (spelled : Spells d t v) : Quoted t := by
  have brackets {first last : Char} (other : first ≠ 'd') (other' : last ≠ 'd')
      {t : List Char} (inside : Quoted t) : Quoted (first :: (t ++ [last])) :=
    cons other (inside.append (cons other' (of_not_mem List.not_mem_nil)))
  induction d generalizing t v with
  | zero => exact scalar spelled
  | succ d ih =>
    cases spelled with
    | scalar spelled => exact scalar spelled
    | list inside => exact brackets (by decide) (by decide) (enclosed ih inside)
    | object spelled =>
      cases spelled with
      | braces inside => exact brackets (by decide) (by decide) (enclosed (member ih) inside)

end Quoted

/-- With something around it, the sentinel is JSON only where it stands inside quotes. -/
theorem quotes_around_noValue {before after : String} {v : Value}
    (found : read? (before ++ noValue ++ after) = some v) :
    '"' ∈ before.toList ∧ '"' ∈ after.toList := by
  have quoted : Quoted (before ++ noValue ++ after).toList :=
    Quoted.spaced Quoted.value (read?_eq_some_iff_holdsValue.mp found)
  have split : (before ++ noValue ++ after).toList =
      (before.toList ++ "un".toList) ++ 'd' :: ("efined".toList ++ after.toList) := by
    simp [noValue]
  obtain ⟨front, behind⟩ := quoted _ _ split
  constructor
  · rcases List.mem_append.mp front with here | word
    · exact here
    · exact absurd word (by decide)
  · rcases List.mem_append.mp behind with word | here
    · exact absurd word (by decide)
    · exact here

/-! ## Null -/

/-- Null has one spelling. -/
theorem spells_null_iff {d : Nat} {t : List Char} : Spells d t .null ↔ t = "null".toList := by
  constructor
  · intro spelled
    generalize null : Value.null = v at spelled
    have word {v : Value} (null : Value.null = v) (spelled : SpellsScalar t v) : t = "null".toList := by
      cases spelled with
      | null => rfl
      | yes | no | whole | double | text => cases null
    cases d with
    | zero => exact word null spelled
    | succ d =>
      cases spelled with
      | scalar spelled => exact word null spelled
      | list | object => cases null
  · rintro rfl
    cases d with
    | zero => exact .null
    | succ d => exact .scalar .null

/-- A text is read as null if it is null between blank space. -/
theorem read?_eq_null_iff {text : String} :
    read? text = some .null ↔ ∃ lead trail : String, AreBlank lead.toList ∧ AreBlank trail.toList ∧
      text = lead ++ "null" ++ trail := by
  rw [read?_eq_some_iff_holdsValue, HoldsValue, spaced_iff]
  constructor
  · rintro ⟨lead, trail, t, spelled, whole⟩
    rw [spells_null_iff.mp spelled] at whole
    refine ⟨String.ofList lead.val, String.ofList trail.val, ?_, ?_, ?_⟩
    · rw [String.toList_ofList]
      exact lead.property
    · rw [String.toList_ofList]
      exact trail.property
    · apply String.toList_injective
      simp [whole]
  · rintro ⟨lead, trail, blank, blank', rfl⟩
    exact ⟨⟨_, blank⟩, ⟨_, blank'⟩, _, spells_null_iff.mpr rfl, by simp⟩

end Json

namespace Outcome

/-- The meaning of an answer if it is first asked whether the text is JSON. -/
def readFirst (text : String) : Outcome :=
  match Json.read? text with
  | some v => .value v
  | none => if text = noValue then .absent else .fault text

/-! ## What answers mean -/

/-- The sentinel is no JSON. -/
theorem read?_noValue : Json.read? noValue = none := by
  refine Option.eq_none_iff_forall_ne_some.mpr fun v found => ?_
  have alone : "" ++ noValue ++ "" = noValue := by decide
  rw [← alone] at found
  exact absurd (Json.quotes_around_noValue found).1 List.not_mem_nil

/-- So it does not matter which question is asked first. -/
theorem readFirst_eq_classify (text : String) : readFirst text = classify text := by
  by_cases sentinel : text = noValue
  · rw [readFirst, classify, sentinel, read?_noValue]
  · cases found : Json.read? text with
    | some v => simp [readFirst, classify, found, sentinel]
    | none => simp [readFirst, classify, found, sentinel]

theorem result_eq_null_iff {text : String} :
    (classify text).result = .ok .null ↔ text = noValue ∨ Json.read? text = some .null := by
  rw [← readFirst_eq_classify, readFirst]
  cases found : Json.read? text with
  | some v =>
    have other : text ≠ noValue := by
      rintro rfl
      rw [read?_noValue] at found
      cases found
    simp [result, other]
  | none =>
    by_cases sentinel : text = noValue
    · simp [result, sentinel]
    · simp [result, sentinel]

/-- The fault of an answer that is neither sentinel nor JSON is the answer itself. -/
theorem result_eq_error_iff {text : String} {fault : Fault} :
    (classify text).result = .error fault ↔
      text ≠ noValue ∧ Json.read? text = none ∧ fault = .script text := by
  unfold classify
  split
  · next sentinel => simp [result, sentinel]
  · next other =>
    cases Json.read? text with
    | some v => simp [result]
    | none => simp [result, other, eq_comm]

/-- With something around it that is not quotes on both sides, the sentinel is a fault. -/
theorem fault_around_noValue {text before after : String} (split : text = before ++ noValue ++ after)
    (other : text ≠ noValue) (unquoted : '"' ∉ before.toList ∨ '"' ∉ after.toList) :
    (classify text).result = .error (.script text) := by
  refine result_eq_error_iff.mpr ⟨other, ?_, rfl⟩
  refine Option.eq_none_iff_forall_ne_some.mpr fun v found => ?_
  rw [split] at found
  obtain ⟨front, behind⟩ := Json.quotes_around_noValue found
  rcases unquoted with absent | absent
  · exact absent front
  · exact absent behind

/-- An answer means null exactly if it is the sentinel, letter for letter, or null between blank space. It
is a fault, which tells the answer unchanged, exactly if it is neither the sentinel nor JSON; so is the
sentinel with something before it and the sentinel with something behind it. In JSON the sentinel only
occurs inside quotes, so that no answer is both, whichever question is asked first. -/
theorem result_classify_iff (text : String) :
    ((classify text).result = .ok .null ↔ text = noValue ∨ ∃ lead trail : String,
      Json.AreBlank lead.toList ∧ Json.AreBlank trail.toList ∧ text = lead ++ "null" ++ trail) ∧
    (∀ fault, (classify text).result = .error fault ↔
      text ≠ noValue ∧ Json.read? text = none ∧ fault = .script text) ∧
    (∀ before, before ≠ "" →
      (classify (before ++ noValue)).result = .error (.script (before ++ noValue))) ∧
    (∀ after, after ≠ "" →
      (classify (noValue ++ after)).result = .error (.script (noValue ++ after))) ∧
    (∀ before after v, Json.read? (before ++ noValue ++ after) = some v →
      '"' ∈ before.toList ∧ '"' ∈ after.toList) ∧
    ¬ (text = noValue ∧ ∃ v, Json.read? text = some v) ∧ readFirst text = classify text := by
  refine ⟨?null, fun fault => result_eq_error_iff, ?before, ?after,
    fun before after v found => Json.quotes_around_noValue found, ?both, readFirst_eq_classify text⟩
  case null => rw [result_eq_null_iff, Json.read?_eq_null_iff]
  case before =>
    intro before some
    have split : before ++ noValue = before ++ noValue ++ "" := String.append_empty.symm
    exact fault_around_noValue split (fun same => some (String.append_eq_right_iff.mp same))
      (.inr List.not_mem_nil)
  case after =>
    intro after some
    have split : noValue ++ after = "" ++ noValue ++ after := by rw [String.empty_append]
    exact fault_around_noValue split (fun same => some (String.append_eq_left_iff.mp same))
      (.inl List.not_mem_nil)
  case both =>
    rintro ⟨rfl, v, found⟩
    rw [read?_noValue] at found
    cases found

/-- Blank space around null is nothing, and around the sentinel it is too much. -/
theorem result_classify_near_noValue :
    (classify "\t null\n").result = .ok .null ∧
      (classify (" " ++ noValue)).result = .error (.script (" " ++ noValue)) ∧
      (classify (noValue ++ "\n")).result = .error (.script (noValue ++ "\n")) := by
  obtain ⟨null, -, before, after, -⟩ := result_classify_iff "\t null\n"
  exact ⟨null.mpr (.inr ⟨"\t ", "\n", by decide, by decide, by decide⟩), before " " (by decide),
    after "\n" (by decide)⟩

end Outcome

end ScriptGate
