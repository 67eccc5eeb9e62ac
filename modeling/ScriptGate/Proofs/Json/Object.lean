import Mathlib.Data.List.Induction
import ScriptGate.Proofs.Json.Codec
import ScriptGate.Proofs.Json.Writing

/-!
# Objects as they stand in a text

A text can spell one and the same object in many ways: with escapes and blank space, with its members
in any order, and with several members of one name. A `WrittenMember` is one member of such a text.
Between braces and separated by commas, members are read as the object that collects them
(`Reader.value_members`), unless one of them is no JSON (`Reader.value_members_refused`); and of
several with one name the last one counts (`Members.get?_ofList`).
-/

namespace ScriptGate.Json

open Reader

/-! ## The last of several -/

namespace Members

/-- The value of the last member called `name`, among members as they are written. -/
def last? (written : List (String × Value)) (name : String) : Option Value :=
  get? written.reverse name

variable {written : List (String × Value)} {members : Members} {name other : String} {v w : Value}

theorem get?_cons_self (v : Value) (members : Members) : get? ((name, v) :: members) name = some v := by
  rw [get?, List.find?_cons_of_pos (by simp)]
  rfl

theorem get?_cons_of_ne (different : other ≠ name) (v : Value) (members : Members) :
    get? ((other, v) :: members) name = get? members name := by
  rw [get?, List.find?_cons_of_neg (by simpa using different), get?]

theorem get?_insert_self (v : Value) (members : Members) :
    get? (insert name v members) name = some v := by
  induction members with
  | nil => exact get?_cons_self v []
  | cons m members ih =>
    obtain ⟨other, w⟩ := m
    unfold insert
    split
    · exact get?_cons_self v _
    split
    · exact get?_cons_self v _
    · next different => rw [get?_cons_of_ne (Ne.symm different), ih]

theorem get?_insert_of_ne (different : other ≠ name) (v : Value) (members : Members) :
    get? (insert other v members) name = get? members name := by
  induction members with
  | nil => exact get?_cons_of_ne different v []
  | cons m members ih =>
    obtain ⟨third, w⟩ := m
    unfold insert
    split
    · exact get?_cons_of_ne different v _
    split
    · next same =>
      subst same
      rw [get?_cons_of_ne different, get?_cons_of_ne different]
    · by_cases found : third = name
      · subst found
        rw [get?_cons_self, get?_cons_self]
      · rw [get?_cons_of_ne found, get?_cons_of_ne found, ih]

/-- Of several members with one name the last one counts. -/
theorem get?_ofList (written : List (String × Value)) (name : String) :
    get? (ofList written) name = last? written name := by
  induction written using List.reverseRecOn with
  | nil => rfl
  | append_singleton written m ih =>
    obtain ⟨other, v⟩ := m
    have collected : ofList (written ++ [(other, v)]) = insert other v (ofList written) := by
      simp only [ofList, List.foldl_append, List.foldl_cons, List.foldl_nil]
    rw [collected, last?, List.reverse_append]
    change _ = get? ((other, v) :: written.reverse) name
    by_cases found : other = name
    · subst found
      rw [get?_insert_self, get?_cons_self]
    · rw [get?_insert_of_ne found, get?_cons_of_ne found, ih, last?]

section Several

variable {before after : List (String × Value)}

/-- A member of another name is not looked at. -/
theorem last?_append_cons_of_ne (different : other ≠ name) (v : Value) :
    last? (before ++ (other, v) :: after) name = last? (before ++ after) name := by
  simp [last?, get?, List.find?_append, List.find?_cons_of_neg, different]

/-- What stands behind the last member of a name is not looked at. -/
theorem last?_append_cons_self (last : ∀ m ∈ after, m.1 ≠ name) (v : Value) :
    last? (before ++ (name, v) :: after) name = some v := by
  have others : after.reverse.find? (fun m => m.1 = name) = none := by
    rw [List.find?_eq_none]
    intro m found
    simpa using last m (List.mem_reverse.mp found)
  simp [last?, get?, List.find?_append, others]

end Several

end Members

/-! ## Blank space -/

/-- Whether some characters are all blank. -/
def AreBlank (cs : List Char) : Prop := ∀ c ∈ cs, isBlank c = true

instance (cs : List Char) : Decidable (AreBlank cs) := List.decidableBAll _ cs

/-- Blank space around tokens. -/
abbrev Gap := { cs : List Char // AreBlank cs }

namespace Reader

/-- In front of what is not blank stands blank space. -/
theorem exists_split_of_skipBlank {s tail : List Char} {c : Char} (start : skipBlank s = c :: tail) :
    ∃ front, AreBlank front ∧ s = front ++ c :: tail :=
  ⟨s.takeWhile isBlank, List.all_eq_true.mp List.all_takeWhile,
    by rw [← start, skipBlank, List.takeWhile_append_dropWhile]⟩

section Blank

variable {gap rest : List Char} (blank : AreBlank gap)
include blank

theorem skipBlank_append (s : List Char) : skipBlank (gap ++ s) = skipBlank s :=
  List.dropWhile_append_of_pos blank

theorem skipBlank_of_areBlank : skipBlank gap = [] := by
  rw [← List.append_nil gap, skipBlank_append blank]
  rfl

theorem endsNumber_append (ends : EndsNumber rest) : EndsNumber (gap ++ rest) := by
  cases gap with
  | nil => exact ends
  | cons c gap =>
    refine endsNumber_cons ?_ _
    have space := blank c List.mem_cons_self
    simp only [isBlank, Bool.or_eq_true, decide_eq_true_eq] at space
    rcases space with ((rfl | rfl) | rfl) | rfl <;> decide

theorem moreItems_blank {α : Type} (b : Bracket) (item : Reader α) (before : List α)
    (s : List Char) : (moreItems b item before).bare (gap ++ s) = (moreItems b item before).bare s := by
  rw [bare_moreItems, bare_moreItems, skipBlank_append blank]

theorem colon_blank (s : List Char) : colon.bare (gap ++ s) = colon.bare s := by
  rw [bare_colon, bare_colon, skipBlank_append blank]

theorem valueWith_blank (inner : Option (Reader Value)) (s : List Char) :
    (valueWith inner).bare (gap ++ s) = (valueWith inner).bare s := by
  rw [bare_valueWith, bare_valueWith, skipBlank_append blank]

theorem value_blank (d : Nat) (s : List Char) : (value d).bare (gap ++ s) = (value d).bare s := by
  cases d with
  | zero => exact valueWith_blank blank none s
  | succ d => exact valueWith_blank blank (some (value d)) s

end Blank

/-! ## Members -/

/-- The first member of an object is read as if a comma stood in front of it. -/
theorem items_eq_moreItems {α : Type} {b : Bracket} {item : Reader α} {c : Char} {s t : List Char}
    (comma : ',' ≠ b.close) (start : skipBlank s = c :: t) (another : c ≠ b.close) :
    (items b item).bare s = (moreItems b item []).bare (',' :: s) := by
  cases first : item.bare s with
  | error failure =>
    rw [items_refused start another first, moreItems_refused comma start another first]
  | ok taken =>
    obtain ⟨x, rest⟩ := taken
    rw [items_first start another first, moreItems_comma comma start another first]

/-- A name begins with a quote. -/
theorem exists_quote_of_name {s rest : List Char} {key : String}
    (named : name.bare s = .ok (key, rest)) : ∃ t, skipBlank s = '"' :: t := by
  rw [bare_name] at named
  split at named
  · cases named
  · next c t start =>
    split at named
    · next quote => exact ⟨t, quote ▸ start⟩
    · cases named

theorem exists_quote_of_member {value : Reader Value} {s rest : List Char} {m : String × Value}
    (taken : (member value).bare s = .ok (m, rest)) : ∃ t, skipBlank s = '"' :: t := by
  rw [bare_member] at taken
  obtain ⟨⟨key, more⟩, named, -⟩ := exists_of_bind_eq_ok taken
  exact exists_quote_of_name named

end Reader

/-- A member as it stands in the text of an object: some text that the reader takes for the member, in
front of anything that cannot go on a number, and blank space. -/
structure WrittenMember (d : Nat) where
  text : List Char
  gap : Gap
  member : String × Value
  taken : ∀ rest, EndsNumber rest →
    (Reader.member (value d)).bare (text ++ rest) = .ok (member, rest)

/-- The text of a member with the blank space behind it. -/
def WrittenMember.chars {d : Nat} (m : WrittenMember d) : List Char := m.text ++ m.gap.val

/-- A member as it is written for its name and its value. -/
def WrittenMember.ofValue {d : Nat} (name : String) (v : Value) (exact : v.isExact = true)
    (ordered : v.isOrdered = true) (fits : v.depth ≤ d) : WrittenMember d where
  text := writeText name (':' :: v.write [])
  gap := ⟨[], nofun⟩
  member := (name, v)
  taken := by
    intro rest ends
    rw [← writeText_append, List.cons_append, ← Value.write_append, List.nil_append, member_write,
      value_write v d rest exact ordered ends fits]
    rfl

/-- A text that begins a member, whatever follows it. -/
def OpensMember (text : List Char) : Prop := ∀ more, ∃ t, skipBlank (text ++ more) = '"' :: t

theorem WrittenMember.opensMember {d : Nat} (m : WrittenMember d) : OpensMember m.chars := by
  intro more
  -- What the reader takes is not touched by what follows it, but it has to end a number.
  obtain ⟨t, start⟩ := exists_quote_of_member (m.taken [] endsNumber_nil)
  rw [List.append_nil] at start
  obtain ⟨front, blank, split⟩ := exists_split_of_skipBlank start
  rw [WrittenMember.chars, split, List.append_assoc, List.append_assoc, skipBlank_append blank]
  exact ⟨_, skipBlank_cons (by decide) _⟩

/-- Texts of members, each behind a comma. -/
def behindCommas (pieces : List (List Char)) : List Char := pieces.flatMap fun piece => ',' :: piece

theorem behindCommas_cons (piece : List Char) (pieces : List (List Char)) :
    behindCommas (piece :: pieces) = ',' :: (piece ++ behindCommas pieces) := rfl

/-- Between commas, all texts but the first stand behind one. -/
theorem intercalate_cons (piece : List Char) (pieces : List (List Char)) :
    [','].intercalate (piece :: pieces) = piece ++ behindCommas pieces := by
  induction pieces generalizing piece with
  | nil => simp [behindCommas]
  | cons next pieces ih =>
    rw [List.intercalate_cons_cons, ih, behindCommas_cons, List.append_assoc]
    rfl

namespace Reader

variable {d : Nat} {rest : List Char}

theorem endsNumber_behindCommas (pieces : List (List Char)) (ends : EndsNumber rest) :
    EndsNumber (behindCommas pieces ++ rest) := by
  cases pieces with
  | nil => exact ends
  | cons piece pieces => exact endsNumber_cons (by decide) _

/-- Members behind commas are taken one after the other. -/
theorem moreItems_members (members : List (WrittenMember d)) (before : List (String × Value))
    (ends : EndsNumber rest) :
    (moreItems .object (member (value d)) before).bare
        (behindCommas (members.map (·.chars)) ++ rest) =
      (moreItems .object (member (value d)) ((members.map (·.member)).reverse ++ before)).bare
        rest := by
  induction members generalizing before with
  | nil => rfl
  | cons m members ih =>
    have more := endsNumber_append m.gap.property
      (endsNumber_behindCommas (members.map (·.chars)) ends)
    have first := m.taken _ more
    obtain ⟨t, start⟩ := exists_quote_of_member first
    rw [List.map_cons, behindCommas_cons, WrittenMember.chars, List.cons_append, List.append_assoc,
      List.append_assoc, moreItems_comma (by decide) start (by decide) first,
      moreItems_blank m.gap.property, ih, List.map_cons, List.reverse_cons, List.append_assoc]
    rfl

/-- An object is read like its members behind commas. -/
theorem value_object_eq {pieces : List (List Char)} (some : pieces ≠ [])
    (opens : ∀ piece ∈ pieces.head?, OpensMember piece) :
    (value (d + 1)).bare ('\x7b' :: ([','].intercalate pieces ++ rest)) =
      ((moreItems .object (member (value d)) []).bare (behindCommas pieces ++ rest)).map
        fun (written, rest) => (.object (Members.ofList written), rest) := by
  obtain ⟨piece, pieces, rfl⟩ := List.exists_cons_of_ne_nil some
  obtain ⟨t, start⟩ := opens piece rfl (behindCommas pieces ++ rest)
  rw [intercalate_cons, behindCommas_cons, List.append_assoc, List.cons_append, List.append_assoc,
    value_object, items_eq_moreItems (by decide) start (by decide)]

/-- An object is read as the one that collects its members. -/
theorem value_members {members : List (WrittenMember d)} (some : members ≠ []) (rest : List Char) :
    (value (d + 1)).bare ('\x7b' :: ([','].intercalate (members.map (·.chars)) ++ '\x7d' :: rest)) =
      .ok (.object (Members.ofList (members.map (·.member))), rest) := by
  have opens : ∀ piece ∈ (members.map (·.chars)).head?, OpensMember piece := by
    intro piece found
    rw [List.head?_map] at found
    obtain ⟨m, -, rfl⟩ := Option.map_eq_some_iff.mp found
    exact m.opensMember
  rw [value_object_eq (by simpa using some) opens,
    moreItems_members members [] (endsNumber_cons (by decide) rest),
    moreItems_close (b := .object) (c := '\x7d') rfl (by decide), List.append_nil, List.reverse_reverse]
  rfl

/-- An object with a member that is no JSON is refused for it, whatever stands behind it. -/
theorem value_members_refused {failure : Failure} (before : List (WrittenMember d))
    {text : List Char} (opens : OpensMember text) (pieces : List (List Char))
    (refused : (member (value d)).bare (text ++ (behindCommas pieces ++ rest)) = .error failure) :
    (value (d + 1)).bare
        ('\x7b' :: ([','].intercalate (before.map (·.chars) ++ text :: pieces) ++ rest)) =
      .error failure := by
  have first : ∀ piece ∈ (before.map (·.chars) ++ text :: pieces).head?, OpensMember piece := by
    intro piece found
    cases before with
    | nil =>
      cases found
      exact opens
    | cons m before =>
      cases found
      exact m.opensMember
  have behind : behindCommas (before.map (·.chars) ++ text :: pieces) ++ rest =
      behindCommas (before.map (·.chars)) ++
        (',' :: (text ++ (behindCommas pieces ++ rest))) := by
    simp only [behindCommas, List.flatMap_append, List.flatMap_cons, List.append_assoc,
      List.cons_append]
  obtain ⟨t, start⟩ := opens (behindCommas pieces ++ rest)
  rw [value_object_eq (by simp) first, behind,
    moreItems_members before [] (endsNumber_cons (by decide) _),
    moreItems_refused (by decide) start (by decide) refused]
  rfl

end Reader

/-! ## Whole texts -/

section Whole

variable {lead trail s : List Char} {v : Value}

/-- A text is the value that is read off it, if only blank space stands around that. -/
theorem read_of_bare (before : AreBlank lead) (behind : AreBlank trail)
    (taken : (value maxDepth).bare s = .ok (v, trail)) : read (String.ofList (lead ++ s)) = .ok v := by
  rw [read, run_eq_bare, String.toList_ofList, value_blank before, taken]
  simp only [bind, Except.bind, skipBlank_of_areBlank behind]
  rfl

/-- A text is no JSON if no value can be read off it. -/
theorem read_of_bare_error {failure : Failure} (before : AreBlank lead)
    (refused : (value maxDepth).bare s = .error failure) :
    ∃ e, read (String.ofList (lead ++ s)) = .error e := by
  rw [read, run_eq_bare, String.toList_ofList, value_blank before, refused]
  exact ⟨_, rfl⟩

end Whole

end ScriptGate.Json
