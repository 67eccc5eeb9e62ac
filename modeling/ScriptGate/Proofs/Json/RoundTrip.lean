import ScriptGate.Proofs.Json.Canonical
import ScriptGate.Proofs.Json.Literal
import ScriptGate.Proofs.Json.Token

/-!
# Written values are read back, down to the depth that a reader allows

`value_write` reads a written value back with a reader of its depth, `value_write_tooDeep` fails on
it with a reader of less. Both follow the value: the first character of what is written decides
what the reader does, and what stands behind an item cannot go on a number.
-/

namespace ScriptGate.Json

open Reader Value

/-! ## First characters -/

/-- The digits of an integer begin with a digit. -/
theorem toDigits_eq_cons (n : Nat) :
    ∃ d ds, Nat.toDigits 10 n = d :: ds ∧ d.isDigit = true := by
  cases digits : Nat.toDigits 10 n with
  | nil => exact absurd digits Nat.toDigits_ne_nil
  | cons d ds =>
    refine ⟨d, ds, rfl, Numeral.isDigit_of_mem_toDigits (n := n) ?_⟩
    rw [digits]
    exact List.mem_cons_self

/-- What is written for an exact value begins with a character that is neither blank nor closes a
list. -/
theorem skipBlank_write {v : Value} (exact : v.isExact = true) (rest : List Char) :
    ∃ c tail, skipBlank (v.write rest) = c :: tail ∧ c ≠ ']' := by
  match v, exact with
  | .null, _ => exact ⟨'n', _, skipBlank_cons (by decide) _, by decide⟩
  | .boolean true, _ => exact ⟨'t', _, skipBlank_cons (by decide) _, by decide⟩
  | .boolean false, _ => exact ⟨'f', _, skipBlank_cons (by decide) _, by decide⟩
  | .number (.whole n), _ =>
    obtain ⟨d, ds, digits, digit⟩ := toDigits_eq_cons n.val.natAbs
    rw [write, Number.chars, intChars]
    split
    · exact ⟨'-', _, skipBlank_cons (by decide) _, by decide⟩
    · rw [digits]
      exact ⟨d, _, skipBlank_cons (isBlank_of_isDigit digit) _, ne_of_isDigit digit rfl⟩
  | .text s, _ => exact ⟨'"', _, skipBlank_cons (by decide) _, by decide⟩
  | .list [], _ => exact ⟨'[', _, skipBlank_cons (by decide) _, by decide⟩
  | .list (_ :: _), _ => exact ⟨'[', _, skipBlank_cons (by decide) _, by decide⟩
  | .object [], _ => exact ⟨'\x7b', _, skipBlank_cons (by decide) _, by decide⟩
  | .object (_ :: _), _ => exact ⟨'\x7b', _, skipBlank_cons (by decide) _, by decide⟩

theorem endsNumber_writeItems (items : List Value) (rest : List Char) :
    EndsNumber (writeItems items rest) := by
  cases items with
  | nil => exact endsNumber_cons (by decide) _
  | cons item items => exact endsNumber_cons (by decide) _

theorem endsNumber_writeMembers (members : Members) (rest : List Char) :
    EndsNumber (writeMembers members rest) := by
  cases members with
  | nil => exact endsNumber_cons (by decide) _
  | cons member members => exact endsNumber_cons (by decide) _

/-! ## Scalars -/

section Scalars

variable (inner : Option (Reader Value)) {rest : List Char}

theorem valueWith_null : (valueWith inner).bare (Value.null.write rest) = .ok (.null, rest) := by
  have word := bareWord_append ['u', 'l', 'l'] rest
  simp only [List.cons_append, List.nil_append] at word
  rw [write, bare_valueWith, skipBlank_cons (by decide)]
  simp only [if_true, word, Except.map]

theorem valueWith_boolean (b : Bool) :
    (valueWith inner).bare ((Value.boolean b).write rest) = .ok (.boolean b, rest) := by
  cases b with
  | true =>
    have word := bareWord_append ['r', 'u', 'e'] rest
    simp only [List.cons_append, List.nil_append] at word
    rw [write, bare_valueWith, skipBlank_cons (by decide)]
    simp [word, Except.map]
  | false =>
    have word := bareWord_append ['a', 'l', 's', 'e'] rest
    simp only [List.cons_append, List.nil_append] at word
    rw [write, bare_valueWith, skipBlank_cons (by decide)]
    simp [word, Except.map]

theorem valueWith_text (s : String) :
    (valueWith inner).bare ((Value.text s).write rest) = .ok (.text s, rest) := by
  have digit : digit? '"' = none := by decide
  rw [write, writeText, bare_valueWith, skipBlank_cons (by decide)]
  simp [text_writeText, digit, Except.map]

end Scalars

/-! ## Containers -/

section Containers

variable {α : Type} {b : Bracket} {item : Reader α} {x : α} {before : List α} {c : Char}
  {s t u : List Char} {failure : Failure}

theorem items_close (closes : c = b.close) (visible : isBlank c = false) :
    (items b item).bare (c :: s) = .ok ([], s) := by
  rw [bare_items, skipBlank_cons visible]
  simp only [if_pos closes]

theorem items_first (start : skipBlank s = c :: t) (another : c ≠ b.close)
    (first : item.bare s = .ok (x, u)) :
    (items b item).bare s = (moreItems b item [x]).bare u := by
  rw [bare_items, start]
  simp only [if_neg another, first, bind, Except.bind]

theorem items_refused (start : skipBlank s = c :: t) (another : c ≠ b.close)
    (first : item.bare s = .error failure) : (items b item).bare s = .error failure := by
  rw [bare_items, start]
  simp only [if_neg another, first, bind, Except.bind]

theorem moreItems_close (closes : c = b.close) (visible : isBlank c = false) :
    (moreItems b item before).bare (c :: s) = .ok (before.reverse, s) := by
  rw [bare_moreItems, skipBlank_cons visible]
  simp only [if_pos closes]

theorem moreItems_comma (comma : ',' ≠ b.close) (start : skipBlank s = c :: t)
    (another : c ≠ b.close) (next : item.bare s = .ok (x, u)) :
    (moreItems b item before).bare (',' :: s) = (moreItems b item (x :: before)).bare u := by
  rw [bare_moreItems, skipBlank_cons (by decide)]
  simp only [if_neg comma, start, List.head?_cons, if_neg another, next, bind, Except.bind, if_true]

theorem moreItems_refused (comma : ',' ≠ b.close) (start : skipBlank s = c :: t)
    (another : c ≠ b.close) (next : item.bare s = .error failure) :
    (moreItems b item before).bare (',' :: s) = .error failure := by
  rw [bare_moreItems, skipBlank_cons (by decide)]
  simp only [if_neg comma, start, List.head?_cons, if_neg another, next, bind, Except.bind, if_true]

end Containers

theorem value_list (d : Nat) (s : List Char) :
    (value (d + 1)).bare ('[' :: s) =
      ((items .list (value d)).bare s).map fun (xs, rest) => (.list xs, rest) := by
  rw [value, bare_valueWith, skipBlank_cons (by decide)]
  rfl

theorem value_object (d : Nat) (s : List Char) :
    (value (d + 1)).bare ('\x7b' :: s) =
      ((items .object (member (value d))).bare s).map fun (written, rest) =>
        (.object (Members.ofList written), rest) := by
  rw [value, bare_valueWith, skipBlank_cons (by decide)]
  rfl

/-- A reader that allows no depth opens no list and no object. -/
theorem value_zero (c : Char) (bracket : c = '[' ∨ c = '\x7b') (s : List Char) :
    (value 0).bare (c :: s) = .error (.past .nestedTooDeep (c :: s)) := by
  rcases bracket with rfl | rfl
  all_goals
    rw [value, bare_valueWith, skipBlank_cons (by decide)]
    rfl

theorem member_write {value : Reader Value} (name : String) (t : List Char) :
    (member value).bare (writeText name (':' :: t)) =
      (value.bare t).map fun (v, rest) => ((name, v), rest) := by
  rw [bare_member, bare_name, writeText, skipBlank_cons (by decide)]
  simp only [if_true, text_writeText, bind, Except.bind]
  rw [bare_colon, skipBlank_cons (by decide)]
  simp only [if_true]
  cases value.bare t <;> rfl

theorem skipBlank_writeText (name : String) (rest : List Char) :
    ∃ tail, skipBlank (writeText name rest) = '"' :: tail :=
  ⟨_, skipBlank_cons (by decide) _⟩

/-! ## Values within the depth -/

mutual

/-- A written value is read back by a reader that allows its depth. -/
theorem value_write : ∀ (v : Value) (d : Nat) (rest : List Char), v.isExact = true →
    v.isOrdered = true → EndsNumber rest → v.depth ≤ d →
      (value d).bare (v.write rest) = .ok (v, rest)
  | .null, d, rest, _, _, _, _ => by
    cases d <;> exact valueWith_null _
  | .boolean b, d, rest, _, _, _, _ => by
    cases d <;> exact valueWith_boolean _ b
  | .number (.whole n), d, rest, _, _, ends, _ => by
    cases d <;> exact Numeral.valueWith_whole _ n ends
  | .number (.double _), _, _, exact, _, _, _ => by
    cases exact
  | .text s, d, rest, _, _, _, _ => by
    cases d <;> exact valueWith_text _ s
  | .list [], d + 1, rest, _, _, _, _ => by
    rw [write, value_list, items_close (by rfl) (by decide)]
    rfl
  | .list (item :: items), d + 1, rest, exact, ordered, _, fits => by
    simp only [isExact, itemsExact, Bool.and_eq_true] at exact
    simp only [isOrdered, itemsOrdered, Bool.and_eq_true] at ordered
    simp only [depth, itemsDepth] at fits
    have first := value_write item d (writeItems items rest) exact.1 ordered.1
      (endsNumber_writeItems items rest) (by omega)
    have more := moreItems_writeItems items d [item] rest exact.2 ordered.2 (by omega)
    obtain ⟨c, tail, start, another⟩ := skipBlank_write exact.1 (writeItems items rest)
    rw [write, value_list, items_first start another first, more]
    rfl
  | .object [], d + 1, rest, _, _, _, _ => by
    rw [write, value_object, items_close (by rfl) (by decide)]
    rfl
  | .object ((name, v) :: members), d + 1, rest, exact, ordered, _, fits => by
    simp only [isExact, membersExact, Bool.and_eq_true] at exact
    simp only [isOrdered, membersOrdered, Bool.and_eq_true, decide_eq_true_eq] at ordered
    simp only [depth, membersDepth] at fits
    have inside := value_write v d (writeMembers members rest) exact.1 ordered.2.1
      (endsNumber_writeMembers members rest) (by omega)
    have more := moreItems_writeMembers members d [(name, v)] rest exact.2 ordered.2.2 (by omega)
    obtain ⟨tail, start⟩ := skipBlank_writeText name (':' :: v.write (writeMembers members rest))
    rw [write, value_object,
      items_first start (by decide) (by rw [member_write, inside]; rfl), more]
    simp only [Except.map, List.reverse_singleton, List.singleton_append,
      Members.ofList_eq_self ordered.1]

/-- The items behind an earlier one are read back. -/
theorem moreItems_writeItems : ∀ (items : List Value) (d : Nat) (before : List Value)
    (rest : List Char), itemsExact items = true → itemsOrdered items = true →
      itemsDepth items ≤ d →
        (moreItems .list (value d) before).bare (writeItems items rest) =
          .ok (before.reverse ++ items, rest)
  | [], d, before, rest, _, _, _ => by
    rw [writeItems, moreItems_close (by rfl) (by decide), List.append_nil]
  | item :: items, d, before, rest, exact, ordered, fits => by
    simp only [itemsExact, Bool.and_eq_true] at exact
    simp only [itemsOrdered, Bool.and_eq_true] at ordered
    simp only [itemsDepth] at fits
    have next := value_write item d (writeItems items rest) exact.1 ordered.1
      (endsNumber_writeItems items rest) (by omega)
    have more := moreItems_writeItems items d (item :: before) rest exact.2 ordered.2 (by omega)
    obtain ⟨c, tail, start, another⟩ := skipBlank_write exact.1 (writeItems items rest)
    rw [writeItems, moreItems_comma (by decide) start another next, more, List.reverse_cons,
      List.append_assoc, List.singleton_append]

/-- The members behind an earlier one are read back. -/
theorem moreItems_writeMembers : ∀ (members : List (String × Value)) (d : Nat)
    (before : List (String × Value)) (rest : List Char), membersExact members = true →
      membersOrdered members = true → membersDepth members ≤ d →
        (moreItems .object (member (value d)) before).bare (writeMembers members rest) =
          .ok (before.reverse ++ members, rest)
  | [], d, before, rest, _, _, _ => by
    rw [writeMembers, moreItems_close (by rfl) (by decide), List.append_nil]
  | (name, v) :: members, d, before, rest, exact, ordered, fits => by
    simp only [membersExact, Bool.and_eq_true] at exact
    simp only [membersOrdered, Bool.and_eq_true] at ordered
    simp only [membersDepth] at fits
    have inside := value_write v d (writeMembers members rest) exact.1 ordered.1
      (endsNumber_writeMembers members rest) (by omega)
    have more := moreItems_writeMembers members d ((name, v) :: before) rest exact.2 ordered.2
      (by omega)
    obtain ⟨tail, start⟩ := skipBlank_writeText name (':' :: v.write (writeMembers members rest))
    rw [writeMembers,
      moreItems_comma (by decide) start (by decide) (by rw [member_write, inside]; rfl), more,
      List.reverse_cons, List.append_assoc, List.singleton_append]

end

/-! ## Values that are too deep -/

mutual

/-- A written value is refused by a reader that allows less than its depth. -/
theorem value_write_tooDeep : ∀ (v : Value) (d : Nat) (rest : List Char), v.isExact = true →
    v.isOrdered = true → d < v.depth →
      ∃ left, (value d).bare (v.write rest) = .error ⟨.nestedTooDeep, left⟩
  | .null, _, _, _, _, deep | .boolean _, _, _, _, _, deep | .number _, _, _, _, _, deep
  | .text _, _, _, _, _, deep => by
    simp only [depth, Nat.not_lt_zero] at deep
  | .list [], 0, rest, _, _, _ => ⟨_, value_zero '[' (Or.inl rfl) _⟩
  | .list (_ :: _), 0, rest, _, _, _ => ⟨_, value_zero '[' (Or.inl rfl) _⟩
  | .list [], d + 1, _, _, _, deep => by
    simp only [depth, itemsDepth] at deep
    omega
  | .list (item :: items), d + 1, rest, exact, ordered, deep => by
    simp only [isExact, itemsExact, Bool.and_eq_true] at exact
    simp only [isOrdered, itemsOrdered, Bool.and_eq_true] at ordered
    simp only [depth, itemsDepth] at deep
    obtain ⟨c, tail, start, another⟩ := skipBlank_write exact.1 (writeItems items rest)
    rw [write, value_list]
    by_cases here : d < item.depth
    · obtain ⟨left, refused⟩ :=
        value_write_tooDeep item d (writeItems items rest) exact.1 ordered.1 here
      rw [items_refused start another refused]
      exact ⟨left, rfl⟩
    · have first := value_write item d (writeItems items rest) exact.1 ordered.1
        (endsNumber_writeItems items rest) (by omega)
      obtain ⟨left, refused⟩ :=
        moreItems_writeItems_tooDeep items d [item] rest exact.2 ordered.2 (by omega)
      rw [items_first start another first, refused]
      exact ⟨left, rfl⟩
  | .object [], 0, rest, _, _, _ => ⟨_, value_zero '\x7b' (Or.inr rfl) _⟩
  | .object (_ :: _), 0, rest, _, _, _ => ⟨_, value_zero '\x7b' (Or.inr rfl) _⟩
  | .object [], d + 1, _, _, _, deep => by
    simp only [depth, membersDepth] at deep
    omega
  | .object ((name, v) :: members), d + 1, rest, exact, ordered, deep => by
    simp only [isExact, membersExact, Bool.and_eq_true] at exact
    simp only [isOrdered, membersOrdered, Bool.and_eq_true] at ordered
    simp only [depth, membersDepth] at deep
    obtain ⟨tail, start⟩ := skipBlank_writeText name (':' :: v.write (writeMembers members rest))
    rw [write, value_object]
    by_cases here : d < v.depth
    · obtain ⟨left, refused⟩ :=
        value_write_tooDeep v d (writeMembers members rest) exact.1 ordered.2.1 here
      rw [items_refused start (by decide) (by rw [member_write, refused]; rfl)]
      exact ⟨left, rfl⟩
    · have inside := value_write v d (writeMembers members rest) exact.1 ordered.2.1
        (endsNumber_writeMembers members rest) (by omega)
      obtain ⟨left, refused⟩ :=
        moreItems_writeMembers_tooDeep members d [(name, v)] rest exact.2 ordered.2.2 (by omega)
      rw [items_first start (by decide) (by rw [member_write, inside]; rfl), refused]
      exact ⟨left, rfl⟩

/-- One item that is too deep makes all of them unreadable. -/
theorem moreItems_writeItems_tooDeep : ∀ (items : List Value) (d : Nat) (before : List Value)
    (rest : List Char), itemsExact items = true → itemsOrdered items = true →
      d < itemsDepth items →
        ∃ left, (moreItems .list (value d) before).bare (writeItems items rest) =
          .error ⟨.nestedTooDeep, left⟩
  | [], _, _, _, _, _, deep => by
    simp only [itemsDepth, Nat.not_lt_zero] at deep
  | item :: items, d, before, rest, exact, ordered, deep => by
    simp only [itemsExact, Bool.and_eq_true] at exact
    simp only [itemsOrdered, Bool.and_eq_true] at ordered
    simp only [itemsDepth] at deep
    obtain ⟨c, tail, start, another⟩ := skipBlank_write exact.1 (writeItems items rest)
    rw [writeItems]
    by_cases here : d < item.depth
    · obtain ⟨left, refused⟩ :=
        value_write_tooDeep item d (writeItems items rest) exact.1 ordered.1 here
      exact ⟨left, moreItems_refused (by decide) start another refused⟩
    · have next := value_write item d (writeItems items rest) exact.1 ordered.1
        (endsNumber_writeItems items rest) (by omega)
      rw [moreItems_comma (by decide) start another next]
      exact moreItems_writeItems_tooDeep items d (item :: before) rest exact.2 ordered.2 (by omega)

/-- One member that is too deep makes all of them unreadable. -/
theorem moreItems_writeMembers_tooDeep : ∀ (members : List (String × Value)) (d : Nat)
    (before : List (String × Value)) (rest : List Char), membersExact members = true →
      membersOrdered members = true → d < membersDepth members →
        ∃ left, (moreItems .object (member (value d)) before).bare (writeMembers members rest) =
          .error ⟨.nestedTooDeep, left⟩
  | [], _, _, _, _, _, deep => by
    simp only [membersDepth, Nat.not_lt_zero] at deep
  | (name, v) :: members, d, before, rest, exact, ordered, deep => by
    simp only [membersExact, Bool.and_eq_true] at exact
    simp only [membersOrdered, Bool.and_eq_true] at ordered
    simp only [membersDepth] at deep
    obtain ⟨tail, start⟩ := skipBlank_writeText name (':' :: v.write (writeMembers members rest))
    rw [writeMembers]
    by_cases here : d < v.depth
    · obtain ⟨left, refused⟩ :=
        value_write_tooDeep v d (writeMembers members rest) exact.1 ordered.1 here
      exact ⟨left,
        moreItems_refused (by decide) start (by decide) (by rw [member_write, refused]; rfl)⟩
    · have inside := value_write v d (writeMembers members rest) exact.1 ordered.1
        (endsNumber_writeMembers members rest) (by omega)
      rw [moreItems_comma (by decide) start (by decide) (by rw [member_write, inside]; rfl)]
      exact moreItems_writeMembers_tooDeep members d ((name, v) :: before) rest exact.2 ordered.2
        (by omega)

end

end ScriptGate.Json
