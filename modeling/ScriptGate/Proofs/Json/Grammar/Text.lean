import ScriptGate.Proofs.Json.Grammar

/-!
# Texts are read as they are spelled

Inside quotes, each reader takes just what its rule of the grammar spells and leaves the rest. These
rules end by themselves, so nothing has to be said of what follows. The whole is `text_eq_ok_iff`.
-/

namespace ScriptGate.Json

open Reader

variable {s t rest : List Char}

/-! ## Code units -/

/-- No digit comes behind the letter `f`. -/
theorem toNat_lt_of_hex? {c : Char} {n : Nat} (found : hex? c = some n) : c.toNat < 103 := by
  have upTo {last : Char} (early : last.toNat < 103) (le : c ≤ last) : c.toNat < 103 :=
    Nat.lt_of_le_of_lt le early
  unfold hex? at found
  split at found
  · next bounds => exact upTo (by decide) bounds.2
  split at found
  · next bounds => exact upTo (by decide) bounds.2
  split at found
  · next bounds => exact upTo (by decide) bounds.2
  · cases found

theorem hex?_eq_some_iff {c : Char} {n : Nat} : hex? c = some n ↔ IsHex c n := by
  constructor
  · intro found
    have looked : ∀ k : Fin 103, ∀ n ∈ hex? (Char.ofNat k),
        n < 16 ∧ (Char.ofNat k = hexDigit n ∨ Char.ofNat k = (hexDigit n).toUpper) := by
      decide +kernel
    have here := looked ⟨c.toNat, toNat_lt_of_hex? found⟩
    rw [Char.ofNat_toNat] at here
    exact here n found
  · rintro ⟨small, rfl | rfl⟩
    · exact hex?_hexDigit small
    · have all : ∀ n : Fin 16, hex? (hexDigit n).toUpper = some n.val := by decide
      exact all ⟨n, small⟩

theorem SpellsUnit.lt {n : Nat} (spelled : SpellsUnit t n) : n < 0x10000 := by
  cases spelled with
  | digits first second third fourth =>
    have := first.1
    have := second.1
    have := third.1
    have := fourth.1
    omega

theorem codeUnit_eq_ok_iff {n : Nat} :
    codeUnit.bare s = .ok (n, rest) ↔ ∃ t, SpellsUnit t n ∧ s = t ++ rest := by
  constructor
  · intro taken
    rcases s with _ | ⟨a, _ | ⟨b, _ | ⟨c, _ | ⟨d, more⟩⟩⟩⟩
    case cons.cons.cons.cons =>
      rw [bare_codeUnit] at taken
      split at taken
      · next first second third fourth =>
        cases taken
        exact ⟨_, .digits (hex?_eq_some_iff.mp first) (hex?_eq_some_iff.mp second)
          (hex?_eq_some_iff.mp third) (hex?_eq_some_iff.mp fourth), rfl⟩
      · cases taken
    all_goals cases taken
  · rintro ⟨t, ⟨first, second, third, fourth⟩, rfl⟩
    simp only [List.cons_append, List.nil_append, bare_codeUnit, hex?_eq_some_iff.mpr first,
      hex?_eq_some_iff.mpr second, hex?_eq_some_iff.mpr third, hex?_eq_some_iff.mpr fourth]

theorem bare_lowHalf (digits : List Char) :
    lowHalf.bare ('\\' :: 'u' :: digits) = (do
      let (unit, rest) ← codeUnit.bare digits
      if isLowHalf unit then return (unit, rest)
      else throw (.before .surrogateAlone rest)) := by
  simp only [bare, lowHalf]
  cases codeUnit digits with
  | error failure => rfl
  | ok first =>
    obtain ⟨unit, more, short⟩ := first
    simp only [bind, Except.bind, Except.map]
    by_cases low : isLowHalf unit = true
    · simp only [if_pos low]
      rfl
    · simp only [if_neg low]
      rfl

/-- The second half of a pair is an escape too. -/
theorem exists_of_lowHalf {n : Nat} (taken : lowHalf.bare s = .ok (n, rest)) :
    ∃ digits, s = '\\' :: 'u' :: digits ∧ codeUnit.bare digits = .ok (n, rest) ∧
      isLowHalf n = true := by
  unfold bare lowHalf at taken
  split at taken
  · cases taken
  · next digits =>
    change lowHalf.bare ('\\' :: 'u' :: digits) = _ at taken
    rw [bare_lowHalf] at taken
    obtain ⟨⟨unit, more⟩, read, taken⟩ := exists_of_bind_eq_ok taken
    dsimp only at taken
    split at taken
    · next low =>
      cases taken
      exact ⟨digits, rfl, read, low⟩
    · cases taken
  all_goals cases taken

theorem lowHalf_eq_ok_iff {n : Nat} :
    lowHalf.bare s = .ok (n, rest) ↔
      ∃ t, SpellsUnit t n ∧ (0xdc00 ≤ n ∧ n ≤ 0xdfff) ∧ s = '\\' :: 'u' :: (t ++ rest) := by
  constructor
  · intro taken
    obtain ⟨digits, rfl, read, low⟩ := exists_of_lowHalf taken
    obtain ⟨t, spelled, rfl⟩ := codeUnit_eq_ok_iff.mp read
    exact ⟨t, spelled, isLowHalf_iff.mp low, rfl⟩
  · rintro ⟨t, spelled, low, rfl⟩
    rw [bare_lowHalf, codeUnit_eq_ok_iff.mpr ⟨t, spelled, rfl⟩]
    simp only [bind, Except.bind, isLowHalf_iff.mpr low, if_true]
    rfl

/-! ## Escapes -/

theorem lettered?_eq_some_iff {c d : Char} : lettered? c = some d ↔ (c, d) ∈ escapeLetters := by
  simp only [escapeLetters, List.mem_cons, Prod.mk.injEq, List.not_mem_nil, or_false]
  constructor
  · intro found
    unfold lettered? at found
    split at found
    · next same =>
      cases found
      rcases same with rfl | rfl | rfl <;> simp
    iterate 5
      split at found
      · next same =>
        cases found
        simp [same]
    cases found
  · rintro (⟨rfl, rfl⟩ | ⟨rfl, rfl⟩ | ⟨rfl, rfl⟩ | ⟨rfl, rfl⟩ | ⟨rfl, rfl⟩ | ⟨rfl, rfl⟩ |
      ⟨rfl, rfl⟩ | ⟨rfl, rfl⟩) <;> rfl

theorem toNat_ofNat_of_isValidChar {n : Nat} (valid : n.isValidChar) : (Char.ofNat n).toNat = n := by
  rw [Char.ofNat, dif_pos valid]
  rfl

/-- A number that is no half of a pair is the code of a character. -/
theorem toNat_ofNat_of_not_half {n : Nat} (small : n < 0x10000)
    (low : ¬ (0xdc00 ≤ n ∧ n ≤ 0xdfff)) (high : ¬ (0xd800 ≤ n ∧ n ≤ 0xdbff)) :
    (Char.ofNat n).toNat = n := by
  have valid : n.isValidChar := by
    unfold Nat.isValidChar
    omega
  exact toNat_ofNat_of_isValidChar valid

theorem toNat_ofNat_of_pair {high low : Nat} (upper : 0xd800 ≤ high ∧ high ≤ 0xdbff)
    (lower : 0xdc00 ≤ low ∧ low ≤ 0xdfff) :
    (Char.ofNat (0x10000 + (high - 0xd800) * 0x400 + (low - 0xdc00))).toNat =
      0x10000 + (high - 0xd800) * 0x400 + (low - 0xdc00) := by
  have valid : (0x10000 + (high - 0xd800) * 0x400 + (low - 0xdc00)).isValidChar := by
    unfold Nat.isValidChar
    omega
  exact toNat_ofNat_of_isValidChar valid

theorem coded_eq_ok_iff {c : Char} :
    coded.bare s = .ok (c, rest) ↔ ∃ t, SpellsChar ('\\' :: 'u' :: t) c ∧ s = t ++ rest := by
  constructor
  · intro taken
    rw [bare_coded] at taken
    obtain ⟨⟨unit, more⟩, first, others⟩ := exists_of_bind_eq_ok taken
    obtain ⟨t, spelled, rfl⟩ := codeUnit_eq_ok_iff.mp first
    clear taken first
    dsimp only at others
    split at others
    · cases others
    next notLow =>
    split at others
    · next high =>
      obtain ⟨⟨low, behind⟩, second, last⟩ := exists_of_bind_eq_ok others
      obtain ⟨t', spelled', lower, rfl⟩ := lowHalf_eq_ok_iff.mp second
      obtain ⟨letter, rfl⟩ := Prod.mk.inj (Except.ok.inj last)
      have upper := isHighHalf_iff.mp high
      have code : c.toNat = 0x10000 + (unit - 0xd800) * 0x400 + (low - 0xdc00) := by
        rw [← letter, toNat_ofNat_of_pair upper lower]
      refine ⟨t ++ '\\' :: 'u' :: t', .pair spelled spelled' upper lower code, ?_⟩
      rw [List.append_assoc, List.cons_append, List.cons_append]
    · next notHigh =>
      cases others
      rw [isLowHalf_iff] at notLow
      rw [isHighHalf_iff] at notHigh
      have code := toNat_ofNat_of_not_half spelled.lt notLow notHigh
      exact ⟨t, .unit (by rwa [code]), rfl⟩
  · rintro ⟨t, spelled, rfl⟩
    rw [bare_coded]
    cases spelled with
    | letter known => exact absurd known (by simp [escapeLetters])
    | unit code =>
      rw [codeUnit_eq_ok_iff.mpr ⟨t, code, rfl⟩]
      simp only [bind, Except.bind, isLowHalf_toNat, isHighHalf_toNat, Bool.false_eq_true, if_false,
        Char.ofNat_toNat]
      rfl
    | @pair t t' high low _ first second upper lower code =>
      have notLow : isLowHalf high = false := by
        rw [Bool.eq_false_iff, Ne, isLowHalf_iff]
        omega
      have taken : lowHalf.bare ('\\' :: 'u' :: (t' ++ rest)) = .ok (low, rest) :=
        lowHalf_eq_ok_iff.mpr ⟨t', second, lower, rfl⟩
      rw [List.append_assoc, codeUnit_eq_ok_iff.mpr ⟨t, first, rfl⟩]
      simp only [bind, Except.bind, notLow, Bool.false_eq_true, if_false, isHighHalf_iff.mpr upper,
        if_true, List.cons_append, taken, ← code, Char.ofNat_toNat]
      rfl

theorem escaped_eq_ok_iff {c : Char} :
    escaped.bare s = .ok (c, rest) ↔ ∃ t, SpellsChar ('\\' :: t) c ∧ s = t ++ rest := by
  cases s with
  | nil =>
    constructor
    · intro taken
      cases taken
    · rintro ⟨t, spelled, empty⟩
      obtain ⟨rfl, rfl⟩ := List.append_eq_nil_iff.mp empty.symm
      cases spelled with
      | plain visible quote backslash => exact absurd rfl backslash
  | cons l more =>
    rw [bare_escaped]
    split
    · next same =>
      subst same
      rw [coded_eq_ok_iff]
      constructor
      · rintro ⟨t, spelled, rfl⟩
        exact ⟨'u' :: t, spelled, rfl⟩
      · rintro ⟨t, spelled, split⟩
        cases t with
        | nil =>
          cases spelled with
          | plain visible quote backslash => exact absurd rfl backslash
        | cons l t =>
          obtain ⟨rfl, rfl⟩ := List.cons.inj split
          exact ⟨t, spelled, rfl⟩
    · next other =>
      constructor
      · intro taken
        split at taken
        · next letter found =>
          cases taken
          exact ⟨[l], .letter (lettered?_eq_some_iff.mp found), rfl⟩
        · cases taken
      · rintro ⟨t, spelled, split⟩
        cases spelled with
        | plain visible quote backslash => exact absurd rfl backslash
        | letter known =>
          cases split
          rw [lettered?_eq_some_iff.mpr known]
          rfl
        | unit code => exact absurd (List.cons.inj split).1 other
        | pair first second upper lower code => exact absurd (List.cons.inj split).1 other

/-! ## Quoted characters -/

/-- A character that is spelled inside quotes is read as that character. -/
theorem quotedChars_of_spells {c : Char} (spelled : SpellsChar t c) (before rest : List Char) :
    (quotedChars before).bare (t ++ rest) = (quotedChars (c :: before)).bare rest := by
  have escape {t : List Char} (spelled : SpellsChar ('\\' :: t) c) :
      (quotedChars before).bare ('\\' :: t ++ rest) = (quotedChars (c :: before)).bare rest := by
    rw [List.cons_append, bare_quotedChars, if_neg (by decide), if_pos rfl,
      escaped_eq_ok_iff.mpr ⟨t, spelled, rfl⟩]
    rfl
  cases spelled with
  | plain visible quote backslash =>
    rw [List.singleton_append, bare_quotedChars, if_neg quote, if_neg backslash,
      if_neg (Nat.not_lt.mpr visible)]
  | letter known => exact escape (.letter known)
  | unit code => exact escape (.unit code)
  | pair first second upper lower code => exact escape (.pair first second upper lower code)

theorem exists_of_quotedChars {before cs : List Char}
    (taken : (quotedChars before).bare s = .ok (cs, rest)) :
    ∃ t more, SpellsChars t more ∧ cs = before.reverse ++ more ∧ s = t ++ '"' :: rest := by
  -- An escape is longer than one character, so the induction is on what is left of the text.
  induction length : s.length using Nat.strongRecOn generalizing before s with
  | ind n ih =>
    cases s with
    | nil =>
      rw [bare, quotedChars] at taken
      cases taken
    | cons c tail =>
      rw [bare_quotedChars] at taken
      rw [List.length_cons] at length
      -- What was read of one character goes in front of what is read of the others.
      have extend {d : Char} {u more : List Char} (spelled : SpellsChar u d)
          (split : c :: tail = u ++ more) (shorter : more.length < n)
          (others : (quotedChars (d :: before)).bare more = .ok (cs, rest)) :
          ∃ t more, SpellsChars t more ∧ cs = before.reverse ++ more ∧
            c :: tail = t ++ '"' :: rest := by
        obtain ⟨t, ds, spelled', rfl, rfl⟩ := ih more.length shorter others rfl
        refine ⟨u ++ t, d :: ds, .cons spelled spelled', by simp, ?_⟩
        rw [split, List.append_assoc]
      split at taken
      · next quote =>
        cases taken
        exact ⟨[], [], .nil, by simp, by rw [quote]; rfl⟩
      split at taken
      · next backslash =>
        obtain ⟨⟨d, more⟩, first, others⟩ := exists_of_bind_eq_ok taken
        have short := length_lt_of_bare first
        obtain ⟨t, spelled, rfl⟩ := escaped_eq_ok_iff.mp first
        exact extend spelled (by rw [backslash]; rfl) (by omega) others
      split at taken
      · cases taken
      · next quote backslash visible =>
        exact extend (.plain (Nat.not_lt.mp visible) quote backslash) rfl (by omega) taken

/-- Behind its opening quote a text is read up to the closing one, as the text that is spelled between
them. -/
theorem text_eq_ok_iff {x : String} :
    text.bare s = .ok (x, rest) ↔ ∃ t, SpellsChars t x.toList ∧ s = t ++ '"' :: rest := by
  rw [bare_text]
  constructor
  · intro taken
    obtain ⟨⟨cs, more⟩, read, same⟩ := exists_of_map_eq_ok taken
    obtain ⟨t, ds, spelled, rfl, rfl⟩ := exists_of_quotedChars read
    cases same
    exact ⟨t, by simpa using spelled, rfl⟩
  · rintro ⟨t, spelled, rfl⟩
    have taken {t cs : List Char} (spelled : SpellsChars t cs) (before : List Char) :
        (quotedChars before).bare (t ++ '"' :: rest) = .ok (before.reverse ++ cs, rest) := by
      induction spelled generalizing before with
      | nil => rw [List.nil_append, bare_quotedChars, if_pos rfl, List.append_nil]
      | cons first others ih =>
        rw [List.append_assoc, quotedChars_of_spells first, ih, List.reverse_cons, List.append_assoc]
        rfl
    rw [taken spelled []]
    simp [Except.map]

theorem text_of_spells {x : String} (spelled : SpellsChars t x.toList) (rest : List Char) :
    text.bare (t ++ '"' :: rest) = .ok (x, rest) :=
  text_eq_ok_iff.mpr ⟨t, spelled, rfl⟩

end ScriptGate.Json
