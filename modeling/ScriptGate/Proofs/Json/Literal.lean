import ScriptGate.Proofs.Json.Bare

/-!
# Written texts are read back

Inside quotes every escape stands for the one character it was written for.
-/

namespace ScriptGate.Json

open Reader

/-- Both readings of a digit below sixteen agree. -/
theorem hex?_hexDigit {n : Nat} (h : n < 16) : hex? (hexDigit n) = some n := by
  have all : ∀ n : Fin 16, hex? (hexDigit n) = some n.val := by decide
  exact all ⟨n, h⟩

theorem isLowHalf_iff {n : Nat} : isLowHalf n = true ↔ 0xdc00 ≤ n ∧ n ≤ 0xdfff := by
  rw [isLowHalf, Bool.and_eq_true, decide_eq_true_eq, decide_eq_true_eq]

theorem isHighHalf_iff {n : Nat} : isHighHalf n = true ↔ 0xd800 ≤ n ∧ n ≤ 0xdbff := by
  rw [isHighHalf, Bool.and_eq_true, decide_eq_true_eq, decide_eq_true_eq]

/-- No character is a half of a pair. -/
theorem isLowHalf_toNat (c : Char) : isLowHalf c.toNat = false := by
  have valid : c.toNat.isValidChar := c.valid
  rw [Bool.eq_false_iff, Ne, isLowHalf_iff]
  unfold Nat.isValidChar at valid
  omega

theorem isHighHalf_toNat (c : Char) : isHighHalf c.toNat = false := by
  have valid : c.toNat.isValidChar := c.valid
  rw [Bool.eq_false_iff, Ne, isHighHalf_iff]
  unfold Nat.isValidChar at valid
  omega

/-- The escape by code of a control character stands for it. -/
theorem coded_control {c : Char} (control : c.toNat < 32) (rest : List Char) :
    coded.bare ('0' :: '0' :: hexDigit (c.toNat / 16) :: hexDigit (c.toNat % 16) :: rest) =
      .ok (c, rest) := by
  have zero : hex? '0' = some 0 := by decide
  have unit : ((0 * 16 + 0) * 16 + c.toNat / 16) * 16 + c.toNat % 16 = c.toNat := by omega
  rw [bare_coded, bare_codeUnit, zero, hex?_hexDigit (by omega), hex?_hexDigit (by omega)]
  simp only [unit, bind, Except.bind, isLowHalf_toNat, isHighHalf_toNat, Char.ofNat_toNat]
  rfl

/-- A character written inside quotes is read as itself. -/
theorem quotedChars_escape (c : Char) (before rest : List Char) :
    (quotedChars before).bare (escape c ++ rest) = (quotedChars (c :: before)).bare rest := by
  have letter {letter d : Char} (unit : letter ≠ 'u') (h : lettered? letter = some d) :
      (quotedChars before).bare ('\\' :: letter :: rest) =
        (quotedChars (d :: before)).bare rest := by
    rw [bare_quotedChars, if_neg (by decide), if_pos rfl, bare_escaped, if_neg unit, h]
    rfl
  unfold escape
  split
  · next same =>
    subst same
    exact letter (by decide) rfl
  rename_i quote
  split
  · next same =>
    subst same
    exact letter (by decide) rfl
  rename_i backslash
  split
  · rename_i plain
    rw [List.singleton_append, bare_quotedChars, if_neg quote, if_neg backslash,
      if_neg (Nat.not_lt.mpr plain)]
  rename_i control
  split
  · next same =>
    subst same
    exact letter (by decide) rfl
  split
  · next same =>
    subst same
    exact letter (by decide) rfl
  split
  · next same =>
    subst same
    exact letter (by decide) rfl
  split
  · next same =>
    subst same
    exact letter (by decide) rfl
  split
  · next same =>
    subst same
    exact letter (by decide) rfl
  · simp only [List.cons_append, List.nil_append]
    rw [bare_quotedChars, if_neg (by decide), if_pos rfl, bare_escaped, if_pos rfl,
      coded_control (Nat.not_le.mp control)]
    rfl

/-- Characters written inside quotes are read back, behind those read before. -/
theorem quotedChars_flatMap_escape (cs before rest : List Char) :
    (quotedChars before).bare (cs.flatMap escape ++ '"' :: rest) =
      .ok (before.reverse ++ cs, rest) := by
  induction cs generalizing before with
  | nil =>
    rw [List.flatMap_nil, List.nil_append, List.append_nil, bare_quotedChars, if_pos rfl]
  | cons c cs ih =>
    rw [List.flatMap_cons, List.append_assoc, quotedChars_escape, ih, List.reverse_cons,
      List.append_assoc]
    rfl

/-- A written text is read back from behind its opening quote. -/
theorem text_writeText (s : String) (rest : List Char) :
    text.bare (s.toList.flatMap escape ++ '"' :: rest) = .ok (s, rest) := by
  rw [bare_text, quotedChars_flatMap_escape]
  simp only [Except.map, List.reverse_nil, List.nil_append, String.ofList_toList]

end ScriptGate.Json
