import ScriptGate.Proofs.Json.RoundTrip

/-!
# How written values begin and end

What is written for a value does not depend on what follows it (`Value.write_append`). Its first
character tells null from everything else: what begins like null is null to the end, also if it is
written for a double that is not finite (`Value.eq_of_write_eq_null`).
-/

namespace ScriptGate

/-! ## Ends -/

namespace Json

theorem writeText_append (s : String) (rest more : List Char) :
    writeText s (rest ++ more) = writeText s rest ++ more := by
  simp [writeText]

namespace Value

mutual

/-- What follows a value is written behind it. -/
theorem write_append : ∀ (v : Value) (rest more : List Char),
    v.write (rest ++ more) = v.write rest ++ more
  | .null, _, _ | .boolean true, _, _ | .boolean false, _, _ => rfl
  | .number n, rest, more => by rw [write, write, List.append_assoc]
  | .text s, rest, more => writeText_append s rest more
  | .list [], _, _ | .object [], _, _ => rfl
  | .list (item :: items), rest, more => by
    rw [write, write, writeItems_append, write_append, List.cons_append]
  | .object ((name, v) :: members), rest, more => by
    rw [write, write, writeMembers_append, write_append, ← List.cons_append, writeText_append,
      List.cons_append]

theorem writeItems_append : ∀ (items : List Value) (rest more : List Char),
    writeItems items (rest ++ more) = writeItems items rest ++ more
  | [], _, _ => rfl
  | item :: items, rest, more => by
    rw [writeItems, writeItems, writeItems_append, write_append, List.cons_append]

theorem writeMembers_append : ∀ (members : Members) (rest more : List Char),
    writeMembers members (rest ++ more) = writeMembers members rest ++ more
  | [], _, _ => rfl
  | (name, v) :: members, rest, more => by
    rw [writeMembers, writeMembers, writeMembers_append, write_append, ← List.cons_append,
      writeText_append, List.cons_append]

end

/-- A value and what follows it. -/
theorem write_eq_render_append (v : Value) (rest : List Char) :
    v.write rest = v.render.toList ++ rest := by
  rw [render, String.toList_ofList, ← write_append, List.nil_append]

end Value

end Json

/-! ## Beginnings -/

/-- Whether some characters begin like a numeral. -/
def OpensNumeral (cs : List Char) : Prop := ∃ c tail, cs = c :: tail ∧ (c = '-' ∨ c.isDigit = true)

namespace OpensNumeral

variable {cs : List Char}

theorem append (opens : OpensNumeral cs) (rest : List Char) : OpensNumeral (cs ++ rest) := by
  obtain ⟨c, tail, rfl, numeral⟩ := opens
  exact ⟨c, tail ++ rest, rfl, numeral⟩

theorem minus (cs : List Char) : OpensNumeral ('-' :: cs) := ⟨'-', cs, rfl, .inl rfl⟩

theorem toDigits (n : Nat) : OpensNumeral (Nat.toDigits 10 n) := by
  obtain ⟨d, ds, digits, digit⟩ := Json.toDigits_eq_cons n
  exact ⟨d, ds, digits, .inr digit⟩

/-- No other characters begin with a letter. -/
theorem ne_cons_n (opens : OpensNumeral cs) (tail : List Char) : cs ≠ 'n' :: tail := by
  obtain ⟨c, _, rfl, minus | digit⟩ := opens
  · rintro ⟨⟩
    cases minus
  · intro same
    exact Json.ne_of_isDigit digit rfl (List.cons.inj same).1

end OpensNumeral

namespace Decimal

theorem opensNumeral_positional (d : Decimal) : OpensNumeral d.positional := by
  have digits : OpensNumeral d.digits := .toDigits d.significand
  unfold positional
  split
  · exact (digits.append _).append _
  · dsimp only
    split
    · exact ⟨'0', _, rfl, .inr (by decide)⟩
    · next some =>
      obtain ⟨c, tail, same, numeral⟩ := digits
      obtain ⟨k, successor⟩ := Nat.exists_eq_succ_of_ne_zero some
      rw [successor, same]
      exact ⟨c, _, rfl, numeral⟩

theorem opensNumeral_scientific (plus : Bool) (d : Decimal) :
    OpensNumeral (d.scientific plus) := by
  have digits : OpensNumeral d.digits := .toDigits d.significand
  unfold scientific
  dsimp only
  split
  · next first second more same =>
    obtain ⟨c, tail, same', numeral⟩ := digits
    rw [same] at same'
    cases same'
    exact ⟨first, _, rfl, numeral⟩
  · exact (digits.append _).append _

end Decimal

namespace Json

/-- A double is written as a numeral, unless it is not finite. -/
theorem doubleChars_cases (x : Float) :
    doubleChars x = ['n', 'u', 'l', 'l'] ∨ OpensNumeral (doubleChars x) := by
  have signed {cs : List Char} (opens : OpensNumeral cs) :
      OpensNumeral (if x.toBits ≥ 0x8000000000000000 then '-' :: cs else cs) := by
    split
    · exact .minus cs
    · exact opens
  unfold doubleChars
  split
  · exact .inl rfl
  · refine .inr (signed ?_)
    split
    · exact ⟨'0', _, rfl, .inr (by decide)⟩
    · dsimp only
      split
      · exact Decimal.opensNumeral_positional _
      · exact Decimal.opensNumeral_scientific true _

theorem opensNumeral_intChars (i : Int) : OpensNumeral (intChars i) := by
  unfold intChars
  split
  · exact .minus _
  · exact .toDigits _

namespace Value

/-- What begins like null is null to the end. -/
theorem eq_of_write_eq_null {v : Value} {rest tail : List Char} (same : v.write rest = 'n' :: tail) :
    tail = 'u' :: 'l' :: 'l' :: rest := by
  match v, same with
  | .null, same =>
    cases same
    rfl
  | .number (.whole n), same =>
    exact absurd same (((opensNumeral_intChars n.val).append rest).ne_cons_n tail)
  | .number (.double x), same =>
    change doubleChars x ++ rest = 'n' :: tail at same
    rcases doubleChars_cases x with null | numeral
    · rw [null] at same
      cases same
      rfl
    · exact absurd same ((numeral.append rest).ne_cons_n tail)
  | .boolean true, same | .boolean false, same => cases same
  | .text _, same | .list [], same | .object [], same => cases same
  | .list (_ :: _), same | .object (_ :: _), same => cases same

end Value

end Json

end ScriptGate
