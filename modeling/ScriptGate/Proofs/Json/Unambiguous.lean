import ScriptGate.Proofs.Json.RoundTrip

/-!
# No two values are written alike

What is written for a value tells the value, however deep it is nested: a text can begin with what is
written for a value in one way only, if something follows that cannot go on a number
(`Value.write_inj`, by induction over both values at once). No reader could show that, since each has a
depth at which it gives up. Where there is nothing to open, reading decides; a list and an object begin
with brackets of their own, and behind each item stands a comma or the closing bracket.
-/

namespace ScriptGate.Json

open Reader

/-- A text in quotes tells the text, and where it ends. -/
theorem writeText_inj {s s' : String} {rest rest' : List Char}
    (same : writeText s rest = writeText s' rest') : s = s' ∧ rest = rest' := by
  have inside : s.toList.flatMap escape ++ '"' :: rest = s'.toList.flatMap escape ++ '"' :: rest' :=
    (List.cons.inj same).2
  have taken := text_writeText s rest
  rw [inside, text_writeText] at taken
  obtain ⟨text, behind⟩ := Prod.mk.inj (Except.ok.inj taken)
  exact ⟨text.symm, behind.symm⟩

namespace Value

/-! ## Scalars and containers -/

/-- Whether a value is neither list nor object. -/
def isScalar : Value → Bool
  | .list _ | .object _ => false
  | _ => true

section Kinds

variable {v v' : Value} {rest rest' : List Char}

/-- A scalar is read by a reader that opens nothing. -/
theorem valueWith_scalar (scalar : v.isScalar = true) (exact : v.isExact = true)
    (ends : EndsNumber rest) : (valueWith none).bare (v.write rest) = .ok (v, rest) := by
  cases v with
  | null => exact valueWith_null none
  | boolean b => exact valueWith_boolean none b
  | number n =>
    cases n with
    | whole n => exact Numeral.valueWith_whole none n ends
    | double x => cases exact
  | text s => exact valueWith_text none s
  | list items | object members => cases scalar

theorem exists_write_list (items : List Value) (rest : List Char) :
    ∃ tail, (Value.list items).write rest = '[' :: tail := by
  cases items with
  | nil => exact ⟨_, rfl⟩
  | cons item items => exact ⟨_, rfl⟩

theorem exists_write_object (members : Members) (rest : List Char) :
    ∃ tail, (Value.object members).write rest = '\x7b' :: tail := by
  cases members with
  | nil => exact ⟨_, rfl⟩
  | cons member members => exact ⟨_, rfl⟩

/-- Lists and objects are told apart by their brackets. -/
theorem write_list_ne_object (items : List Value) (members : Members) :
    (Value.list items).write rest ≠ (Value.object members).write rest' := by
  obtain ⟨tail, list⟩ := exists_write_list items rest
  obtain ⟨tail', object⟩ := exists_write_object members rest'
  rw [list, object]
  intro same
  have bracket := (List.cons.inj same).1
  cases bracket

/-- Neither of them is read by a reader that opens nothing. -/
theorem valueWith_container (container : v.isScalar = false) (rest : List Char) :
    ∃ failure, (valueWith none).bare (v.write rest) = .error failure := by
  cases v with
  | list items =>
    obtain ⟨tail, list⟩ := exists_write_list items rest
    rw [list]
    exact ⟨_, value_zero '[' (.inl rfl) tail⟩
  | object members =>
    obtain ⟨tail, object⟩ := exists_write_object members rest
    rw [object]
    exact ⟨_, value_zero '\x7b' (.inr rfl) tail⟩
  | null | boolean b | number n | text s => cases container

/-- Nothing else is written like a scalar. -/
theorem write_inj_of_scalar (scalar : v.isScalar = true) (exact : v.isExact = true)
    (exact' : v'.isExact = true) (ends : EndsNumber rest) (ends' : EndsNumber rest')
    (same : v.write rest = v'.write rest') : v = v' ∧ rest = rest' := by
  have taken := valueWith_scalar scalar exact ends
  rw [same] at taken
  cases kind : v'.isScalar with
  | true =>
    rw [valueWith_scalar kind exact' ends'] at taken
    obtain ⟨value, behind⟩ := Prod.mk.inj (Except.ok.inj taken)
    exact ⟨value.symm, behind.symm⟩
  | false =>
    obtain ⟨failure, refused⟩ := valueWith_container kind rest'
    rw [refused] at taken
    cases taken

/-- What is written for a value does not begin like the end of a list. -/
theorem write_ne_close (exact : v.isExact = true) (tail : List Char) : v.write rest ≠ ']' :: tail := by
  intro same
  obtain ⟨c, more, start, another⟩ := skipBlank_write exact rest
  rw [same, skipBlank_cons (by decide)] at start
  exact another (List.cons.inj start).1.symm

end Kinds

/-! ## All values -/

mutual

/-- A value, and what follows it, are told by what is written. -/
theorem write_inj : ∀ (v v' : Value) {rest rest' : List Char}, v.isExact = true →
    v'.isExact = true → EndsNumber rest → EndsNumber rest' → v.write rest = v'.write rest' →
      v = v' ∧ rest = rest'
  | .null, _, _, _, exact, exact', ends, ends', same
  | .boolean _, _, _, _, exact, exact', ends, ends', same
  | .number _, _, _, _, exact, exact', ends, ends', same
  | .text _, _, _, _, exact, exact', ends, ends', same =>
    write_inj_of_scalar rfl exact exact' ends ends' same
  | .list _, .null, _, _, exact, exact', ends, ends', same
  | .list _, .boolean _, _, _, exact, exact', ends, ends', same
  | .list _, .number _, _, _, exact, exact', ends, ends', same
  | .list _, .text _, _, _, exact, exact', ends, ends', same
  | .object _, .null, _, _, exact, exact', ends, ends', same
  | .object _, .boolean _, _, _, exact, exact', ends, ends', same
  | .object _, .number _, _, _, exact, exact', ends, ends', same
  | .object _, .text _, _, _, exact, exact', ends, ends', same => by
    obtain ⟨value, behind⟩ := write_inj_of_scalar rfl exact' exact ends' ends same.symm
    exact ⟨value.symm, behind.symm⟩
  | .list items, .object members, _, _, _, _, _, _, same =>
    absurd same (write_list_ne_object items members)
  | .object members, .list items, _, _, _, _, _, _, same =>
    absurd same.symm (write_list_ne_object items members)
  | .list [], .list [], _, _, _, _, _, _, same => by
    cases same
    exact ⟨rfl, rfl⟩
  | .list [], .list (item :: _), _, _, _, exact', _, _, same => by
    simp only [isExact, itemsExact, Bool.and_eq_true] at exact'
    exact absurd (List.cons.inj same).2.symm (write_ne_close exact'.1 _)
  | .list (item :: _), .list [], _, _, exact, _, _, _, same => by
    simp only [isExact, itemsExact, Bool.and_eq_true] at exact
    exact absurd (List.cons.inj same).2 (write_ne_close exact.1 _)
  | .list (item :: items), .list (item' :: items'), _, _, exact, exact', _, _, same => by
    -- Behind the bracket stands what would stand behind a comma.
    obtain ⟨lists, behind⟩ := writeItems_inj (item :: items) (item' :: items') exact exact'
      (congrArg (',' :: ·) (List.cons.inj same).2)
    exact ⟨congrArg Value.list lists, behind⟩
  | .object [], .object [], _, _, _, _, _, _, same => by
    cases same
    exact ⟨rfl, rfl⟩
  | .object [], .object (_ :: _), _, _, _, _, _, _, same
  | .object (_ :: _), .object [], _, _, _, _, _, _, same => by
    -- A name begins with a quote.
    have quote := (List.cons.inj (List.cons.inj same).2).1
    cases quote
  | .object (member :: members), .object (member' :: members'), _, _, exact, exact', _, _, same => by
    obtain ⟨objects, behind⟩ := writeMembers_inj (member :: members) (member' :: members') exact
      exact' (congrArg (',' :: ·) (List.cons.inj same).2)
    exact ⟨congrArg Value.object objects, behind⟩

/-- So are the items behind an earlier one. -/
theorem writeItems_inj : ∀ (items items' : List Value) {rest rest' : List Char},
    itemsExact items = true → itemsExact items' = true →
      writeItems items rest = writeItems items' rest' → items = items' ∧ rest = rest'
  | [], [], _, _, _, _, same => by
    cases same
    exact ⟨rfl, rfl⟩
  | [], _ :: _, _, _, _, _, same | _ :: _, [], _, _, _, _, same => by
    have comma := (List.cons.inj same).1
    cases comma
  | item :: items, item' :: items', rest, rest', exact, exact', same => by
    simp only [itemsExact, Bool.and_eq_true] at exact exact'
    obtain ⟨rfl, others⟩ := write_inj item item' exact.1 exact'.1 (endsNumber_writeItems items rest)
      (endsNumber_writeItems items' rest') (List.cons.inj same).2
    obtain ⟨rfl, behind⟩ := writeItems_inj items items' exact.2 exact'.2 others
    exact ⟨rfl, behind⟩

/-- So are the members behind an earlier one. -/
theorem writeMembers_inj : ∀ (members members' : Members) {rest rest' : List Char},
    membersExact members = true → membersExact members' = true →
      writeMembers members rest = writeMembers members' rest' → members = members' ∧ rest = rest'
  | [], [], _, _, _, _, same => by
    cases same
    exact ⟨rfl, rfl⟩
  | [], _ :: _, _, _, _, _, same | _ :: _, [], _, _, _, _, same => by
    have comma := (List.cons.inj same).1
    cases comma
  | (name, v) :: members, (name', v') :: members', rest, rest', exact, exact', same => by
    simp only [membersExact, Bool.and_eq_true] at exact exact'
    obtain ⟨rfl, colon⟩ := writeText_inj (List.cons.inj same).2
    obtain ⟨rfl, others⟩ := write_inj v v' exact.1 exact'.1 (endsNumber_writeMembers members rest)
      (endsNumber_writeMembers members' rest') (List.cons.inj colon).2
    obtain ⟨rfl, behind⟩ := writeMembers_inj members members' exact.2 exact'.2 others
    exact ⟨rfl, behind⟩

end

end Value

/-! ## Argument lists -/

/-- Argument lists without doubles are told apart by their texts. -/
theorem renderList_inj {args args' : List Value} (exact : ∀ v ∈ args, v.isExact = true)
    (exact' : ∀ v ∈ args', v.isExact = true) (same : renderList args = renderList args') :
    args = args' := by
  have written : (Value.list args).write [] = (Value.list args').write [] :=
    String.ofList_injective same
  obtain ⟨lists, -⟩ := Value.write_inj (.list args) (.list args') (Value.itemsExact_iff.mpr exact)
    (Value.itemsExact_iff.mpr exact') endsNumber_nil endsNumber_nil written
  exact Value.list.inj lists

end ScriptGate.Json
