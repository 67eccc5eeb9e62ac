import ScriptGate.Proofs.Json.Grammar.Text

/-!
# Lists and objects are read as they are spelled

`Recognizes r P` says that the reader `r` takes just the texts that the relation `P` tells of: behind
blank space, and in front of anything that cannot go on a number. If that is so of the items of a
container, then between its brackets the reader takes just the lists of items that the grammar encloses
(`Recognizes.items_eq_ok_iff`); and if it is so of values, then it is so of members
(`Recognizes.member`).
-/

namespace ScriptGate.Json

open Reader

variable {α : Type} {P : List Char → α → Prop}

/-- A text that begins as values begin. -/
def OpensValue (t : List Char) : Prop := ∃ c tail, t = c :: tail ∧ beginsValue c = true

/-- Whether a reader takes just the texts that a relation tells of. -/
structure Recognizes (r : Reader α) (P : List Char → α → Prop) : Prop where
  sound {s rest : List Char} {x : α} :
    r.bare s = .ok (x, rest) → ∃ gap : Gap, ∃ t, P t x ∧ s = gap.val ++ (t ++ rest)
  complete {t rest : List Char} {x : α} (gap : Gap) :
    P t x → EndsNumber rest → r.bare (gap.val ++ (t ++ rest)) = .ok (x, rest)
  opens {t : List Char} {x : α} : P t x → OpensValue t

/-! ## What stands between brackets -/

/-- What can stand behind an item, up to the closing bracket. -/
inductive Behind (P : List Char → α → Prop) : List Char → List α → Prop
  | nothing (gap : Gap) : Behind P gap.val []
  | items (gap : Gap) {t : List Char} {xs : List α} (others : Listed P t xs) :
    Behind P (gap.val ++ ',' :: t) xs

theorem Behind.listed {t u : List Char} {x : α} {xs : List α} (behind : Behind P u xs) (lead : Gap)
    (first : P t x) : Listed P (lead.val ++ (t ++ u)) (x :: xs) := by
  cases behind with
  | nothing gap => exact .single (.around lead gap first)
  | items gap others =>
    have item : Spaced P (lead.val ++ (t ++ gap.val)) x := .around lead gap first
    have listed := Listed.more item others
    rwa [List.append_assoc, List.append_assoc] at listed

/-- The closing brackets are neither blank nor commas, and neither go on a number nor begin a value. -/
structure Reader.Bracket.Plain (b : Bracket) : Prop where
  visible : isBlank b.close = false
  comma : ',' ≠ b.close
  ends : continuesNumber b.close = false
  begins : beginsValue b.close = false

theorem Reader.Bracket.plain_list : Bracket.list.Plain := ⟨by decide, by decide, by decide, by decide⟩

theorem Reader.Bracket.plain_object : Bracket.object.Plain := ⟨by decide, by decide, by decide, by decide⟩

theorem isBlank_of_beginsValue {c : Char} (begins : beginsValue c = true) : isBlank c = false := by
  cases blank : isBlank c with
  | false => rfl
  | true =>
    simp only [isBlank, Bool.or_eq_true, decide_eq_true_eq] at blank
    rcases blank with ((rfl | rfl) | rfl) | rfl <;> exact absurd begins (by decide)

/-- Behind blank space, a text that begins a value begins no closing bracket. -/
theorem OpensValue.skipBlank {t : List Char} (opens : OpensValue t) {b : Bracket} (plain : b.Plain)
    (gap : Gap) (rest : List Char) :
    ∃ c tail, Reader.skipBlank (gap.val ++ (t ++ rest)) = c :: tail ∧ c ≠ b.close := by
  obtain ⟨c, tail, rfl, begins⟩ := opens
  refine ⟨c, tail ++ rest, ?_, ?_⟩
  · rw [skipBlank_append gap.property, List.cons_append, skipBlank_cons (isBlank_of_beginsValue begins)]
  · rintro rfl
    rw [plain.begins] at begins
    cases begins

theorem Listed.skipBlank {t : List Char} {xs : List α} (listed : Listed P t xs)
    (opens : ∀ {t x}, P t x → OpensValue t) {b : Bracket} (plain : b.Plain) (rest : List Char) :
    ∃ c tail, Reader.skipBlank (t ++ rest) = c :: tail ∧ c ≠ b.close := by
  have spaced {t : List Char} {x : α} (item : Spaced P t x) (rest : List Char) :
      ∃ c tail, Reader.skipBlank (t ++ rest) = c :: tail ∧ c ≠ b.close := by
    cases item with
    | around lead trail inside =>
      rw [List.append_assoc, List.append_assoc]
      exact (opens inside).skipBlank plain lead _
  cases listed with
  | single item => exact spaced item rest
  | more item others =>
    rw [List.append_assoc]
    exact spaced item _

namespace Recognizes

section Items

variable {b : Bracket} {item : Reader α} {s t rest : List Char} {x : α} {xs before : List α}

/-- An item behind a comma is put to the items before it. -/
theorem moreItems_spaced (recognizes : Recognizes item P) (plain : b.Plain) (spaced : Spaced P t x)
    (ends : EndsNumber rest) :
    (moreItems b item before).bare (',' :: (t ++ rest)) =
      (moreItems b item (x :: before)).bare rest := by
  cases spaced with
  | @around t x lead trail inside =>
    obtain ⟨c, tail, start, another⟩ :=
      (recognizes.opens inside).skipBlank plain lead (trail.val ++ rest)
    have taken := recognizes.complete lead inside (endsNumber_append trail.property ends)
    rw [List.append_assoc, List.append_assoc, moreItems_comma plain.comma start another taken,
      moreItems_blank trail.property]

theorem moreItems_listed (recognizes : Recognizes item P) (plain : b.Plain) (listed : Listed P t xs) :
    (moreItems b item before).bare (',' :: (t ++ b.close :: rest)) =
      .ok (before.reverse ++ xs, rest) := by
  induction listed generalizing before with
  | single spaced =>
    rw [recognizes.moreItems_spaced plain spaced (endsNumber_cons plain.ends rest),
      moreItems_close rfl plain.visible, List.reverse_cons]
  | more spaced others ih =>
    rw [List.append_assoc, List.cons_append,
      recognizes.moreItems_spaced plain spaced (endsNumber_cons (by decide) _), ih, List.reverse_cons,
      List.append_assoc]
    rfl

/-- What is read behind an item is what can stand there. -/
theorem exists_behind (recognizes : Recognizes item P)
    (taken : (moreItems b item before).bare s = .ok (xs, rest)) :
    ∃ t more, Behind P t more ∧ xs = before.reverse ++ more ∧ s = t ++ b.close :: rest := by
  -- The text gets shorter with every item, but not by its tail, and the items before grow.
  induction length : s.length using Nat.strongRecOn generalizing before s with
  | ind n ih =>
    rw [bare_moreItems] at taken
    split at taken
    · cases taken
    next c tail start =>
    obtain ⟨front, blank, rfl⟩ := exists_split_of_skipBlank start
    rw [List.length_append, List.length_cons] at length
    split at taken
    · next closes =>
      cases taken
      exact ⟨front, [], .nothing ⟨front, blank⟩, (List.append_nil _).symm, by rw [closes]⟩
    split at taken
    · next comma =>
      subst comma
      split at taken
      · split at taken
        · cases taken
        · obtain ⟨⟨x, left⟩, first, others⟩ := exists_of_bind_eq_ok taken
          have short := length_lt_of_bare first
          obtain ⟨lead, t, inside, rfl⟩ := recognizes.sound first
          obtain ⟨u, more, behind, rfl, rfl⟩ := ih left.length (by omega) others rfl
          refine ⟨front ++ ',' :: (lead.val ++ (t ++ u)), x :: more,
            .items ⟨front, blank⟩ (behind.listed lead inside), ?_, ?_⟩
          · rw [List.reverse_cons, List.append_assoc]
            rfl
          · simp only [List.append_assoc, List.cons_append]
      · cases taken
    · cases taken

/-- Between its brackets, a container is read just as it is enclosed. -/
theorem items_eq_ok_iff (recognizes : Recognizes item P) (plain : b.Plain) :
    (items b item).bare s = .ok (xs, rest) ↔ ∃ t, Enclosed P t xs ∧ s = t ++ b.close :: rest := by
  constructor
  · intro taken
    rw [bare_items] at taken
    split at taken
    · cases taken
    next c tail start =>
    split at taken
    · next closes =>
      obtain ⟨front, blank, rfl⟩ := exists_split_of_skipBlank start
      cases taken
      exact ⟨front, .none ⟨front, blank⟩, by rw [closes]⟩
    · obtain ⟨⟨x, left⟩, first, others⟩ := exists_of_bind_eq_ok taken
      obtain ⟨lead, t, inside, rfl⟩ := recognizes.sound first
      obtain ⟨u, more, behind, rfl, rfl⟩ := recognizes.exists_behind others
      refine ⟨lead.val ++ (t ++ u), .some (behind.listed lead inside), ?_⟩
      simp only [List.append_assoc]
  · rintro ⟨t, enclosed, rfl⟩
    cases enclosed with
    | none gap =>
      rw [bare_items, skipBlank_append gap.property, skipBlank_cons plain.visible]
      simp only [if_true]
    | some listed =>
      obtain ⟨c, tail, start, another⟩ := listed.skipBlank recognizes.opens plain (b.close :: rest)
      rw [items_eq_moreItems plain.comma start another, recognizes.moreItems_listed plain listed]
      rfl

end Items

end Recognizes

/-! ## Members -/

section Members

variable {s rest : List Char} {key : String}

theorem name_of_spells {t : List Char} (spelled : SpellsText t key) (gap : Gap) (rest : List Char) :
    name.bare (gap.val ++ (t ++ rest)) = .ok (key, rest) := by
  cases spelled with
  | quoted inside =>
    rw [bare_name, skipBlank_append gap.property, List.cons_append, List.append_assoc,
      skipBlank_cons (by decide)]
    exact text_of_spells inside rest

theorem exists_of_name (taken : name.bare s = .ok (key, rest)) :
    ∃ gap : Gap, ∃ t, SpellsText t key ∧ s = gap.val ++ (t ++ rest) := by
  obtain ⟨tail, start⟩ := exists_quote_of_name taken
  obtain ⟨front, blank, rfl⟩ := exists_split_of_skipBlank start
  rw [bare_name, start] at taken
  simp only [if_true] at taken
  obtain ⟨t, inside, rfl⟩ := text_eq_ok_iff.mp taken
  refine ⟨⟨front, blank⟩, '"' :: (t ++ ['"']), .quoted inside, ?_⟩
  simp only [List.cons_append, List.append_assoc, List.nil_append]

theorem colon_append (gap : Gap) (rest : List Char) :
    colon.bare (gap.val ++ ':' :: rest) = .ok ((), rest) := by
  rw [colon_blank gap.property, bare_colon, skipBlank_cons (by decide)]
  simp only [if_true]

theorem exists_of_colon (taken : colon.bare s = .ok ((), rest)) :
    ∃ gap : Gap, s = gap.val ++ ':' :: rest := by
  rw [bare_colon] at taken
  split at taken
  · cases taken
  next c tail start =>
  obtain ⟨front, blank, rfl⟩ := exists_split_of_skipBlank start
  split at taken
  · next same =>
    cases taken
    exact ⟨⟨front, blank⟩, by rw [same]⟩
  · cases taken

theorem SpellsMember.opens {t : List Char} {m : String × α} (spelled : SpellsMember P t m) :
    OpensValue t := by
  cases spelled with
  | named before behind label inside =>
    cases label with
    | quoted inside => exact ⟨'"', _, rfl, by decide⟩

/-- Members are read as they are spelled, if their values are. -/
theorem Recognizes.member {value : Reader α} (recognizes : Recognizes value P) :
    Recognizes (member value) (SpellsMember P) := by
  constructor
  case sound =>
    intro s rest m taken
    rw [bare_member] at taken
    obtain ⟨⟨key, afterKey⟩, named, taken⟩ := exists_of_bind_eq_ok taken
    obtain ⟨⟨_, afterColon⟩, colon, taken⟩ := exists_of_bind_eq_ok taken
    obtain ⟨⟨v, afterValue⟩, read, same⟩ := exists_of_bind_eq_ok taken
    cases same
    obtain ⟨lead, t, label, rfl⟩ := exists_of_name named
    obtain ⟨before, rfl⟩ := exists_of_colon colon
    obtain ⟨behind, u, inside, rfl⟩ := recognizes.sound read
    refine ⟨lead, _, .named before behind label inside, ?_⟩
    simp only [List.append_assoc, List.cons_append]
  case complete =>
    intro t rest m gap spelled ends
    cases spelled with
    | named before behind label inside =>
      have read := recognizes.complete behind inside ends
      simp only [List.append_assoc, List.cons_append]
      rw [bare_member, name_of_spells label]
      simp only [bind, Except.bind, colon_append, read]
      rfl
  case opens =>
    intro t m spelled
    exact spelled.opens

end Members

end ScriptGate.Json
