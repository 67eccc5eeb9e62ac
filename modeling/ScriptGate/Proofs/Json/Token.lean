import ScriptGate.Proofs.Json.Bare

/-!
# Number tokens

`Numeral.Written n t` says that the token `t` is written for the parts `n`: an optional minus sign,
digits without a superfluous zero in front, and then perhaps a fraction and a power of ten. The
tokens are just what the scanner takes (`Numeral.written_iff_scan`), and each is written for one numeral
only (`Numeral.Written.unique`). In front of anything that cannot go on a number (`EndsNumber`) the
reader takes a token whole and yields what its numeral stands for (`Numeral.Written.valueWith`). That is
an integer exactly if the token is how the integer is written (`Numeral.Written.eq_intChars_iff`).
-/

namespace ScriptGate.Json

open Reader

/-! ## Characters of numbers -/

/-- The value of a decimal digit. -/
theorem digit?_of_isDigit {c : Char} (h : c.isDigit = true) :
    digit? c = some (c.toNat - '0'.toNat) := by
  have bounds : '0' ≤ c ∧ c ≤ '9' := by
    simpa [Char.isDigit, Char.le_def, UInt32.le_iff_toNat_le] using h
  rw [digit?, if_pos bounds]
  rfl

theorem ne_of_isDigit {c d : Char} (digit : c.isDigit = true) (other : d.isDigit = false) : c ≠ d := by
  rintro rfl
  rw [digit] at other
  cases other

theorem isBlank_of_isDigit {c : Char} (h : c.isDigit = true) : isBlank c = false := by
  simp only [isBlank, Bool.or_eq_false_iff, decide_eq_false_iff_not]
  exact ⟨⟨⟨ne_of_isDigit h rfl, ne_of_isDigit h rfl⟩, ne_of_isDigit h rfl⟩, ne_of_isDigit h rfl⟩

/-- Whether a character can go on a number behind its digits. -/
def continuesNumber (c : Char) : Bool := (digit? c).isSome || c = '.' || c = 'e' || c = 'E'

/-- The text does not go on a number behind its digits. -/
def EndsNumber (rest : List Char) : Prop := ∀ c ∈ rest.head?, continuesNumber c = false

/-- The text does not begin with a digit. -/
def EndsDigits (rest : List Char) : Prop := ∀ c ∈ rest.head?, digit? c = none

theorem endsNumber_nil : EndsNumber [] := by
  intro c found
  cases found

theorem endsNumber_cons {c : Char} (h : continuesNumber c = false) (rest : List Char) :
    EndsNumber (c :: rest) := by
  intro d found
  cases found
  exact h

theorem endsDigits_cons {c : Char} (h : digit? c = none) (rest : List Char) :
    EndsDigits (c :: rest) := by
  intro d found
  cases found
  exact h

theorem EndsNumber.endsDigits {rest : List Char} (ends : EndsNumber rest) : EndsDigits rest := by
  intro c found
  have stops := ends c found
  simp only [continuesNumber, Bool.or_eq_false_iff] at stops
  simpa using stops.1.1.1

/-! ## Digits -/

namespace Numeral

variable {n m : Numeral} {t rest : List Char}

/-- Decimal digits, by value; there is at least one of them. -/
def AreDigits (ds : List Nat) : Prop := ds ≠ [] ∧ ∀ d ∈ ds, d < 10

/-- How digits are written. -/
def digitChars (ds : List Nat) : List Char := ds.map Nat.digitChar

/-- The digits of an integer. -/
def digitsOf (n : Nat) : List Nat := (Nat.toDigits 10 n).map fun c => c.toNat - '0'.toNat

theorem digit?_digitChar {d : Nat} (h : d < 10) : digit? d.digitChar = some d := by
  have all : ∀ d : Fin 10, digit? (Nat.digitChar d) = some d.val := by decide
  exact all ⟨d, h⟩

theorem isDigit_digitChar {d : Nat} (h : d < 10) : d.digitChar.isDigit = true := by
  have all : ∀ d : Fin 10, (Nat.digitChar d).isDigit = true := by decide
  exact all ⟨d, h⟩

theorem digitChar_toNat_sub {c : Char} (h : c.isDigit = true) :
    Nat.digitChar (c.toNat - '0'.toNat) = c ∧ c.toNat - '0'.toNat < 10 := by
  have bounds : 48 ≤ c.toNat ∧ c.toNat ≤ 57 := by
    simpa [Char.isDigit, UInt32.le_iff_toNat_le] using h
  have zero : '0'.toNat = 48 := rfl
  refine ⟨Char.toNat_inj.mp ?_, by omega⟩
  rw [Nat.toNat_digitChar_of_lt_ten (by omega)]
  omega

/-- Digits are taken up to the first character that is none. -/
theorem takeDigits_digitChars {ds : List Nat} (digits : ∀ d ∈ ds, d < 10) (ends : EndsDigits rest) :
    takeDigits (digitChars ds ++ rest) = (ds, rest) := by
  unfold digitChars
  induction ds with
  | nil =>
    cases rest with
    | nil => rfl
    | cons c rest => simp [takeDigits, ends c rfl]
  | cons d ds ih =>
    rw [List.forall_mem_cons] at digits
    rw [List.map_cons, List.cons_append, takeDigits, digit?_digitChar digits.1]
    simp only [ih digits.2]

theorem isDigit_of_mem_toDigits {n : Nat} {c : Char} (found : c ∈ Nat.toDigits 10 n) :
    c.isDigit = true :=
  Nat.isDigit_of_mem_toDigits (by decide) (by decide) found

theorem digitChars_digitsOf (n : Nat) : digitChars (digitsOf n) = Nat.toDigits 10 n := by
  have same : ∀ c ∈ Nat.toDigits 10 n,
      (Nat.digitChar ∘ fun c => c.toNat - '0'.toNat) c = id c := fun c found =>
    (digitChar_toNat_sub (isDigit_of_mem_toDigits found)).1
  rw [digitChars, digitsOf, List.map_map, List.map_congr_left same, List.map_id]

theorem areDigits_digitsOf (n : Nat) : AreDigits (digitsOf n) := by
  refine ⟨fun none => Nat.toDigits_ne_nil (List.map_eq_nil_iff.mp none), fun d found => ?_⟩
  obtain ⟨c, written, rfl⟩ := List.mem_map.mp found
  exact (digitChar_toNat_sub (isDigit_of_mem_toDigits written)).2

/-- The digits of an integer other than zero do not begin with zero. -/
theorem head_toDigits_ne_zero {n : Nat} (positive : 0 < n) :
    ∀ c ∈ (Nat.toDigits 10 n).head?, c ≠ '0' := by
  induction n using Nat.strongRecOn with
  | ind n ih =>
    by_cases small : n < 10
    · rw [Nat.toDigits_of_lt_base small]
      have all : ∀ n : Fin 10, 0 < n.val → n.val.digitChar ≠ '0' := by decide
      intro c found
      cases found
      exact all ⟨n, small⟩ positive
    · have large : 10 ≤ n := Nat.not_lt.mp small
      have front := ih (n / 10) (by omega) (by omega)
      rw [Nat.toDigits_of_base_le (by decide) large]
      cases digits : Nat.toDigits 10 (n / 10) with
      | nil => exact absurd digits Nat.toDigits_ne_nil
      | cons d ds =>
        rw [digits] at front
        exact front

theorem digitsOf_eq_of_head_zero {n : Nat} (zero : (digitsOf n).head? = some 0) :
    digitsOf n = [0] := by
  rcases Nat.eq_zero_or_pos n with rfl | positive
  · decide
  · rw [digitsOf, List.head?_map] at zero
    obtain ⟨c, first, value⟩ := Option.map_eq_some_iff.mp zero
    have same := (digitChar_toNat_sub (isDigit_of_mem_toDigits (List.mem_of_mem_head? first))).1
    rw [value] at same
    exact absurd same.symm (head_toDigits_ne_zero positive c first)

/-- The integer that digits spell. -/
theorem toDigits_foldl {ds : List Nat} (digits : ∀ d ∈ ds, d < 10) {value : Nat} (some : 0 < value) :
    Nat.toDigits 10 (ds.foldl (fun value d => value * 10 + d) value) =
      Nat.toDigits 10 value ++ digitChars ds := by
  induction ds generalizing value with
  | nil => simp [digitChars]
  | cons d ds ih =>
    rw [List.forall_mem_cons] at digits
    have step : Nat.toDigits 10 (value * 10 + d) = Nat.toDigits 10 value ++ [d.digitChar] := by
      rw [Nat.mul_comm, ← Nat.toDigits_append_toDigits (by decide) some digits.1,
        Nat.toDigits_of_lt_base digits.1]
    rw [List.foldl_cons, ih digits.2 (by omega), step, List.append_assoc]
    rfl

/-- The integer that some digits spell. -/
def spelled (ds : List Nat) : Nat := ds.foldl (fun value d => value * 10 + d) 0

theorem spelled_digitsOf (n : Nat) : spelled (digitsOf n) = n := by
  calc
    _ = Nat.ofDigitChars 10 (Nat.toDigits 10 n) 0 := by
      rw [Nat.ofDigitChars_eq_foldl, spelled, digitsOf]
      simp only [List.foldl_map, Nat.mul_comm]
    _ = n := Nat.ofDigitChars_ten_toDigits

/-- Digits without a superfluous zero in front are those of the integer that they spell. -/
theorem toDigits_spelled {ds : List Nat} (digits : AreDigits ds)
    (plain : ds.head? = some 0 → ds = [0]) : Nat.toDigits 10 (spelled ds) = digitChars ds := by
  obtain ⟨d, more, rfl⟩ := List.exists_cons_of_ne_nil digits.1
  rcases Nat.eq_zero_or_pos d with rfl | positive
  · rw [plain rfl]
    decide
  · obtain ⟨small, others⟩ := List.forall_mem_cons.mp digits.2
    have first : spelled (d :: more) = more.foldl (fun value d => value * 10 + d) d := by
      rw [spelled, List.foldl_cons, Nat.zero_mul, Nat.zero_add]
    rw [first, toDigits_foldl others positive, Nat.toDigits_of_lt_base small]
    rfl

/-! ## Tokens -/

/-- How the fraction of a numeral is written. -/
inductive WrittenFraction : Option (List Nat) → List Char → Prop
  | absent : WrittenFraction none []
  | present {ds : List Nat} (digits : AreDigits ds) :
    WrittenFraction (some ds) ('.' :: digitChars ds)

/-- How the power of ten of a numeral is written. -/
inductive WrittenPower : Option (Bool × List Nat) → List Char → Prop
  | absent : WrittenPower none []
  | bare {mark : Char} {ds : List Nat} (marked : mark = 'e' ∨ mark = 'E') (digits : AreDigits ds) :
    WrittenPower (some (false, ds)) (mark :: digitChars ds)
  | plus {mark : Char} {ds : List Nat} (marked : mark = 'e' ∨ mark = 'E') (digits : AreDigits ds) :
    WrittenPower (some (false, ds)) (mark :: '+' :: digitChars ds)
  | minus {mark : Char} {ds : List Nat} (marked : mark = 'e' ∨ mark = 'E') (digits : AreDigits ds) :
    WrittenPower (some (true, ds)) (mark :: '-' :: digitChars ds)

/-- The minus sign of a numeral, if it has one. -/
def sign (negative : Bool) : List Char := if negative then ['-'] else []

/-- Whether a token is written for the parts of a numeral: a sign, digits without a superfluous zero
in front, a fraction and a power of ten. -/
inductive Written : Numeral → List Char → Prop
  | parts {n : Numeral} {fraction power : List Char} (digits : AreDigits n.whole)
      (plain : n.whole.head? = some 0 → n.whole = [0])
      (fractional : WrittenFraction n.fraction fraction) (scaled : WrittenPower n.power power) :
    Written n (sign n.negative ++ (digitChars n.whole ++ (fraction ++ power)))

/-- What stands behind the sign of a token begins with a digit. -/
theorem exists_cons_of_areDigits {ds : List Nat} (digits : AreDigits ds) (more : List Char) :
    ∃ c tail, digitChars ds ++ more = c :: tail ∧ c.isDigit = true := by
  obtain ⟨d, others, rfl⟩ := List.exists_cons_of_ne_nil digits.1
  exact ⟨d.digitChar, _, rfl, isDigit_digitChar (digits.2 d List.mem_cons_self)⟩

/-! ## Scanning -/

section Scanning

variable {ds : List Nat} {fraction : Option (List Nat)} {power : Option (Bool × List Nat)}

theorem scanWhole_digitChars (digits : AreDigits ds) (plain : ds.head? = some 0 → ds = [0])
    (ends : EndsDigits rest) : scanWhole (digitChars ds ++ rest) = .ok (ds, rest) := by
  obtain ⟨d, more, rfl⟩ := List.exists_cons_of_ne_nil digits.1
  obtain ⟨small, others⟩ := List.forall_mem_cons.mp digits.2
  rcases Nat.eq_zero_or_pos d with rfl | positive
  · cases plain rfl
    have zero : digit? '0' = some 0 := rfl
    cases rest with
    | nil => rfl
    | cons c rest =>
      have none : digit? c = none := ends c rfl
      simp only [digitChars, List.map_cons, List.map_nil, List.cons_append, List.nil_append,
        show Nat.digitChar 0 = '0' from rfl, scanWhole, zero, none]
      rfl
  · obtain ⟨k, rfl⟩ := Nat.exists_eq_succ_of_ne_zero (Nat.ne_of_gt positive)
    have taken := takeDigits_digitChars others ends
    unfold digitChars at taken ⊢
    simp only [List.map_cons, List.cons_append, scanWhole, digit?_digitChar small, taken]

theorem takeDigits_areDigits (digits : AreDigits ds) (ends : EndsDigits rest) :
    ∃ d more, ds = d :: more ∧ takeDigits (digitChars ds ++ rest) = (d :: more, rest) := by
  obtain ⟨d, more, rfl⟩ := List.exists_cons_of_ne_nil digits.1
  exact ⟨d, more, rfl, takeDigits_digitChars digits.2 ends⟩

/-- Neither a power of ten nor the end of a number begins with a digit or a point. -/
theorem scanFraction_of_ends (stops : ∀ c ∈ rest.head?, c ≠ '.') :
    scanFraction rest = .ok (none, rest) := by
  unfold scanFraction
  split
  · exact absurd rfl (stops '.' rfl)
  · rfl

theorem scanFraction_written {text : List Char} (written : WrittenFraction fraction text)
    (ends : EndsDigits rest) (stops : ∀ c ∈ rest.head?, c ≠ '.') :
    scanFraction (text ++ rest) = .ok (fraction, rest) := by
  cases written with
  | absent => exact scanFraction_of_ends stops
  | present digits =>
    obtain ⟨d, more, rfl, taken⟩ := takeDigits_areDigits digits ends
    rw [List.cons_append, scanFraction, taken]

theorem scanPowerDigits_digitChars (negative : Bool) (digits : AreDigits ds)
    (ends : EndsDigits rest) :
    scanPowerDigits negative (digitChars ds ++ rest) = .ok (some (negative, ds), rest) := by
  obtain ⟨d, more, rfl, taken⟩ := takeDigits_areDigits digits ends
  rw [scanPowerDigits, taken]

theorem scanPower_of_ends (ends : EndsNumber rest) : scanPower rest = .ok (none, rest) := by
  cases rest with
  | nil => rfl
  | cons c rest =>
    have stops := ends c rfl
    simp only [continuesNumber, Bool.or_eq_false_iff, decide_eq_false_iff_not] at stops
    have other : ¬ (c = 'e' ∨ c = 'E') := by
      rintro (small | large)
      · exact stops.1.2 small
      · exact stops.2 large
    simp only [scanPower, if_neg other]

theorem scanPower_written {text : List Char} (written : WrittenPower power text)
    (ends : EndsNumber rest) : scanPower (text ++ rest) = .ok (power, rest) := by
  cases written with
  | absent => exact scanPower_of_ends ends
  | bare marked digits =>
    obtain ⟨c, tail, start, digit⟩ := exists_cons_of_areDigits digits rest
    have unsigned : c ≠ '+' ∧ c ≠ '-' := ⟨ne_of_isDigit digit rfl, ne_of_isDigit digit rfl⟩
    have taken := scanPowerDigits_digitChars false digits ends.endsDigits
    rw [start] at taken
    unfold scanPower
    simp only [List.cons_append, if_pos marked, start]
    split
    · next same => exact absurd (List.cons.inj same).1 unsigned.1
    · next same => exact absurd (List.cons.inj same).1 unsigned.2
    · exact taken
  | plus marked digits =>
    simp only [List.cons_append, scanPower, if_pos marked]
    exact scanPowerDigits_digitChars false digits ends.endsDigits
  | minus marked digits =>
    simp only [List.cons_append, scanPower, if_pos marked]
    exact scanPowerDigits_digitChars true digits ends.endsDigits

/-- A power of ten, or what follows where there is none, goes on neither digits nor a fraction. -/
theorem WrittenPower.ends {text : List Char} (written : WrittenPower power text)
    (ends : EndsNumber rest) :
    EndsDigits (text ++ rest) ∧ ∀ c ∈ (text ++ rest).head?, c ≠ '.' := by
  have marks {mark : Char} (marked : mark = 'e' ∨ mark = 'E') (more : List Char) :
      EndsDigits (mark :: more) ∧ ∀ c ∈ (mark :: more).head?, c ≠ '.' := by
    rcases marked with rfl | rfl
    · exact ⟨endsDigits_cons (by decide) more, by rintro _ ⟨⟩; decide⟩
    · exact ⟨endsDigits_cons (by decide) more, by rintro _ ⟨⟩; decide⟩
  cases written with
  | absent =>
    refine ⟨ends.endsDigits, fun c found => ?_⟩
    have stops := ends c found
    simp only [continuesNumber, Bool.or_eq_false_iff, decide_eq_false_iff_not] at stops
    exact stops.1.1.2
  | bare marked digits | plus marked digits | minus marked digits => exact marks marked _

theorem WrittenFraction.ends {text more : List Char} (written : WrittenFraction fraction text)
    (ends : EndsDigits more) : EndsDigits (text ++ more) := by
  cases written with
  | absent => exact ends
  | present digits => exact endsDigits_cons (by decide) _

/-! ### What is scanned is a token -/

theorem digitChar_of_digit? {c : Char} {d : Nat} (found : digit? c = some d) :
    d < 10 ∧ c = d.digitChar := by
  unfold digit? at found
  split at found
  · next bounds =>
    cases found
    have digit : c.isDigit = true := by
      simpa [Char.isDigit, Char.le_def, UInt32.le_iff_toNat_le] using bounds
    obtain ⟨same, small⟩ := digitChar_toNat_sub digit
    exact ⟨small, same.symm⟩
  · cases found

theorem eq_append_of_takeDigits {s : List Char} (taken : takeDigits s = (ds, rest)) :
    (∀ d ∈ ds, d < 10) ∧ s = digitChars ds ++ rest := by
  induction s generalizing ds with
  | nil =>
    cases taken
    exact ⟨nofun, rfl⟩
  | cons c s ih =>
    unfold takeDigits at taken
    split at taken
    · next d found =>
      obtain ⟨small, rfl⟩ := digitChar_of_digit? found
      cases others : takeDigits s with
      | mk more tail =>
        rw [others] at taken
        cases taken
        obtain ⟨digits, rfl⟩ := ih others
        exact ⟨List.forall_mem_cons.mpr ⟨small, digits⟩, rfl⟩
    · cases taken
      exact ⟨nofun, rfl⟩

theorem eq_append_of_scanWhole {s : List Char} (scanned : scanWhole s = .ok (ds, rest)) :
    AreDigits ds ∧ (ds.head? = some 0 → ds = [0]) ∧ s = digitChars ds ++ rest := by
  unfold scanWhole at scanned
  split at scanned
  · cases scanned
  · split at scanned
    · cases scanned
    · next zero =>
      obtain ⟨-, rfl⟩ := digitChar_of_digit? zero
      have single : AreDigits [0] := ⟨List.cons_ne_nil _ _, by decide⟩
      split at scanned
      · split at scanned
        · cases scanned
        · cases scanned
          exact ⟨single, fun _ => rfl, rfl⟩
      · cases scanned
        exact ⟨single, fun _ => rfl, rfl⟩
    · next c tail _ d some found =>
      obtain ⟨small, rfl⟩ := digitChar_of_digit? found
      cases taken : takeDigits tail with
      | mk more behind =>
        rw [taken] at scanned
        cases scanned
        obtain ⟨digits, rfl⟩ := eq_append_of_takeDigits taken
        refine ⟨⟨List.cons_ne_nil _ _, List.forall_mem_cons.mpr ⟨small, digits⟩⟩, fun zero => ?_, rfl⟩
        exact absurd (Option.some.inj zero) some

theorem eq_append_of_scanFraction {s : List Char} (scanned : scanFraction s = .ok (fraction, rest)) :
    ∃ text, WrittenFraction fraction text ∧ s = text ++ rest := by
  unfold scanFraction at scanned
  split at scanned
  · split at scanned
    · cases scanned
    · cases scanned
    · next some taken =>
      cases scanned
      obtain ⟨digits, rfl⟩ := eq_append_of_takeDigits taken
      exact ⟨_, .present ⟨some, digits⟩, rfl⟩
  · cases scanned
    exact ⟨[], .absent, rfl⟩

theorem eq_append_of_scanPowerDigits {negative : Bool} {s : List Char}
    (scanned : scanPowerDigits negative s = .ok (power, rest)) :
    ∃ ds, AreDigits ds ∧ power = some (negative, ds) ∧ s = digitChars ds ++ rest := by
  unfold scanPowerDigits at scanned
  split at scanned
  · cases scanned
  · cases scanned
  · next some taken =>
    cases scanned
    obtain ⟨digits, split⟩ := eq_append_of_takeDigits taken
    exact ⟨_, ⟨some, digits⟩, rfl, split⟩

theorem eq_append_of_scanPower {s : List Char} (scanned : scanPower s = .ok (power, rest)) :
    ∃ text, WrittenPower power text ∧ s = text ++ rest := by
  unfold scanPower at scanned
  split at scanned
  · cases scanned
    exact ⟨[], .absent, rfl⟩
  · split at scanned
    · next marked =>
      split at scanned
      · obtain ⟨ds, digits, rfl, rfl⟩ := eq_append_of_scanPowerDigits scanned
        exact ⟨_, .plus marked digits, rfl⟩
      · obtain ⟨ds, digits, rfl, rfl⟩ := eq_append_of_scanPowerDigits scanned
        exact ⟨_, .minus marked digits, rfl⟩
      · obtain ⟨ds, digits, rfl, rfl⟩ := eq_append_of_scanPowerDigits scanned
        exact ⟨_, .bare marked digits, rfl⟩
    · cases scanned
      exact ⟨[], .absent, rfl⟩

/-- The parts of a token are scanned one after the other. -/
theorem exists_of_scan {negative : Bool} {s : List Char} (scanned : Numeral.scan negative s = .ok (n, rest)) :
    ∃ whole fraction power afterWhole afterFraction, n = ⟨negative, whole, fraction, power⟩ ∧
      scanWhole s = .ok (whole, afterWhole) ∧ scanFraction afterWhole = .ok (fraction, afterFraction) ∧
        scanPower afterFraction = .ok (power, rest) := by
  obtain ⟨⟨whole, afterWhole⟩, first, scanned⟩ := exists_of_bind_eq_ok scanned
  obtain ⟨⟨fraction, afterFraction⟩, second, scanned⟩ := exists_of_bind_eq_ok scanned
  obtain ⟨⟨power, afterPower⟩, third, scanned⟩ := exists_of_bind_eq_ok scanned
  cases scanned
  exact ⟨whole, fraction, power, afterWhole, afterFraction, rfl, first, second, third⟩

end Scanning

/-- The parts of a token are found behind its sign. -/
theorem Written.scan (written : Written n t) (ends : EndsNumber rest) :
    ∃ more, t ++ rest = sign n.negative ++ more ∧ Numeral.scan n.negative more = .ok (n, rest) ∧
      ∃ c tail, more = c :: tail ∧ c.isDigit = true := by
  cases written with
  | @parts fraction power digits plain fractional scaled =>
    obtain ⟨endsDigits, stops⟩ := scaled.ends ends
    have whole := scanWhole_digitChars digits plain (fractional.ends endsDigits)
    have fraction' := scanFraction_written fractional endsDigits stops
    have power' := scanPower_written scaled ends
    refine ⟨digitChars n.whole ++ (fraction ++ (power ++ rest)), ?_, ?_, ?_⟩
    · simp only [List.append_assoc]
    · simp only [Numeral.scan, whole, fraction', power', bind, Except.bind, pure, Except.pure]
    · exact exists_cons_of_areDigits digits _

/-- The parts that are found in a text are those of a token in front. -/
theorem exists_written_of_scan {negative : Bool} {s : List Char}
    (scanned : Numeral.scan negative s = .ok (n, rest)) :
    ∃ t, Written n t ∧ sign negative ++ s = t ++ rest := by
  obtain ⟨_, _, _, _, _, rfl, first, second, third⟩ := exists_of_scan scanned
  obtain ⟨digits, plain, rfl⟩ := eq_append_of_scanWhole first
  obtain ⟨fractionText, fractional, rfl⟩ := eq_append_of_scanFraction second
  obtain ⟨powerText, scaled, rfl⟩ := eq_append_of_scanPower third
  refine ⟨_, .parts digits plain fractional scaled, ?_⟩
  simp only [List.append_assoc]

/-- A sign is told from the digits behind it. -/
theorem sign_append_inj {a b : Bool} {c d : Char} {cs ds : List Char} (digit : c.isDigit = true)
    (digit' : d.isDigit = true) (same : sign a ++ c :: cs = sign b ++ d :: ds) :
    a = b ∧ c :: cs = d :: ds := by
  have minus {c : Char} (digit : c.isDigit = true) : '-' ≠ c := (ne_of_isDigit digit rfl).symm
  cases a <;> cases b
  · exact ⟨rfl, same⟩
  · exact absurd (List.cons.inj same).1.symm (minus digit)
  · exact absurd (List.cons.inj same).1 (minus digit')
  · exact ⟨rfl, (List.cons.inj same).2⟩

/-- Behind its sign, a token is what the scanner takes to the end. -/
theorem written_iff_scan {s : List Char} :
    Written n (sign n.negative ++ s) ↔ Numeral.scan n.negative s = .ok (n, []) := by
  constructor
  · intro written
    obtain ⟨more, split, scanned, -⟩ := written.scan endsNumber_nil
    rw [List.append_nil] at split
    rwa [List.append_cancel_left split]
  · intro scanned
    obtain ⟨t, written, split⟩ := exists_written_of_scan scanned
    rwa [split, List.append_nil]

/-- A token is written for one numeral only. -/
theorem Written.unique (first : Written n t) (second : Written m t) : n = m := by
  obtain ⟨more, split, scanned, c, tail, rfl, digit⟩ := first.scan endsNumber_nil
  obtain ⟨more', split', scanned', c', tail', rfl, digit'⟩ := second.scan endsNumber_nil
  obtain ⟨negative, unsigned⟩ := sign_append_inj digit digit' (split.symm.trans split')
  rw [negative, unsigned, scanned'] at scanned
  cases scanned
  rfl

/-! ## Values -/

theorem double_ne_whole (n : Numeral) (w : Whole) : n.double ≠ .ok (.whole w) := by
  unfold double signed
  intro same
  dsimp only at same
  split at same
  · split at same <;> cases same
  · split at same
    · split at same <;> cases same
    · split at same <;> cases same

theorem ofInt?_eq_some_iff {i : Int} {w : Whole} : Whole.ofInt? i = some w ↔ i = w.val := by
  constructor
  · intro found
    unfold Whole.ofInt? at found
    split at found
    · cases found
      rfl
    · cases found
  · rintro rfl
    rw [Whole.ofInt?, dif_pos ⟨w.lower, w.upper⟩]

/-- Only without a fraction and a power of ten a numeral stands for an integer, and then for the one
that its digits spell: except for zero behind a minus sign, and for those out of range. -/
theorem number_eq_whole_iff {w : Whole} :
    n.number = .ok (.whole w) ↔
      n.fraction = none ∧ n.power = none ∧ ¬ (n.negative = true ∧ n.integer = 0) ∧
        n.integer = w.val := by
  unfold number
  split
  · next fraction power =>
    rw [fraction, power]
    split
    · next zero => exact ⟨fun same => absurd same (n.double_ne_whole w), fun h => absurd zero h.2.2.1⟩
    · next nonzero =>
      rw [← ofInt?_eq_some_iff]
      split
      · next found => simp [found, nonzero]
      · next outside => simp [outside, n.double_ne_whole w]
  · next other =>
    refine ⟨fun same => absurd same (n.double_ne_whole w), fun h => ?_⟩
    exact absurd h.2.1 (other h.1)

/-- The numeral that an integer is written as. -/
def ofInt (i : Int) : Numeral := ⟨decide (i < 0), digitsOf i.natAbs, none, none⟩

theorem written_ofInt (i : Int) : Written (ofInt i) (intChars i) := by
  have token : intChars i =
      sign (ofInt i).negative ++ (digitChars (ofInt i).whole ++ ([] ++ [])) := by
    simp only [ofInt, sign, decide_eq_true_eq, digitChars_digitsOf, List.append_nil, intChars]
    split <;> rfl
  rw [token]
  exact .parts (areDigits_digitsOf i.natAbs) digitsOf_eq_of_head_zero .absent .absent

theorem integer_ofInt (i : Int) : (ofInt i).integer = i := by
  change (if decide (i < 0) = true then -(spelled (digitsOf i.natAbs) : Int)
    else (spelled (digitsOf i.natAbs) : Int)) = i
  rw [spelled_digitsOf]
  split
  · next negative =>
    have below : i < 0 := of_decide_eq_true negative
    omega
  · next nonnegative =>
    have above : ¬ i < 0 := fun below => nonnegative (decide_eq_true below)
    omega

theorem integer_eq (n : Numeral) :
    n.integer = if n.negative = true then -(spelled n.whole : Int) else (spelled n.whole : Int) :=
  rfl

/-- A token without a fraction and a power of ten is the sign and the digits of an integer. -/
theorem Written.eq_of_plain (written : Written n t) (fraction : n.fraction = none)
    (power : n.power = none) : t = sign n.negative ++ Nat.toDigits 10 (spelled n.whole) := by
  cases written with
  | parts digits plain fractional scaled =>
    rw [fraction] at fractional
    rw [power] at scaled
    cases fractional
    cases scaled
    rw [toDigits_spelled digits plain, List.append_nil, List.append_nil]

/-- A token is how an integer is written exactly if it stands for the integer. -/
theorem Written.eq_intChars_iff (written : Written n t) {w : Whole} :
    t = intChars w.val ↔ n.number = .ok (.whole w) := by
  rw [number_eq_whole_iff]
  constructor
  · rintro rfl
    cases written.unique (written_ofInt w.val)
    refine ⟨rfl, rfl, ?_, integer_ofInt w.val⟩
    rintro ⟨negative, zero⟩
    rw [integer_ofInt] at zero
    have below : w.val < 0 := of_decide_eq_true negative
    omega
  · rintro ⟨fraction, power, nonzero, value⟩
    rw [written.eq_of_plain fraction power, intChars, ← value, integer_eq, sign]
    rw [integer_eq] at nonzero
    cases negative : n.negative with
    | true =>
      rw [negative] at nonzero
      simp only [if_true] at nonzero ⊢
      have below : -(spelled n.whole : Int) < 0 := by
        have some : ¬ -(spelled n.whole : Int) = 0 := fun zero => nonzero ⟨trivial, zero⟩
        omega
      rw [if_pos below, Int.natAbs_neg, Int.natAbs_natCast]
      rfl
    | false =>
      simp only [Bool.false_eq_true, if_false]
      rw [if_neg (by omega), Int.natAbs_natCast]
      rfl

/-- The token of zero behind a minus sign is not that of an integer. -/
theorem Written.eq_minusZero_iff (written : Written n t) :
    t = ['-', '0'] ↔
      n.fraction = none ∧ n.power = none ∧ n.negative = true ∧ n.integer = 0 := by
  constructor
  · rintro rfl
    have zero : Written ⟨true, [0], none, none⟩ (sign true ++ (digitChars [0] ++ ([] ++ []))) :=
      .parts ⟨List.cons_ne_nil _ _, by decide⟩ (fun _ => rfl) .absent .absent
    cases written.unique zero
    exact ⟨rfl, rfl, rfl, by decide⟩
  · rintro ⟨fraction, power, negative, zero⟩
    rw [integer_eq, if_pos negative] at zero
    have none : spelled n.whole = 0 := by omega
    rw [written.eq_of_plain fraction power, negative, none]
    rfl

/-! ## Reading -/

theorem read_of_scan {negative : Bool} {s : List Char}
    (scanned : scan negative s = .ok (n, rest)) :
    read negative s =
      match n.number with
      | .ok x => .ok (x, rest)
      | .error behind => .error ⟨.numberTooLarge, byteCount rest + behind⟩ := by
  rw [read, scanned]
  simp only [bind, Except.bind]
  cases n.number <;> rfl

/-- A value that begins with a digit or with a sign is a number. -/
theorem bare_valueWith_number (inner : Option (Reader Value)) {c : Char} (digit : c.isDigit = true)
    (negative : Bool) (tail : List Char) :
    (valueWith inner).bare (sign negative ++ c :: tail) =
      (Numeral.read negative (c :: tail)).map fun (x, rest) => (.number x, rest) := by
  cases negative with
  | true =>
    rw [sign, if_pos rfl, List.singleton_append, bare_valueWith, skipBlank_cons (by decide)]
    rfl
  | false =>
    have other {d : Char} (letter : d.isDigit = false) : c ≠ d := ne_of_isDigit digit letter
    rw [sign, if_neg (by decide), List.nil_append, bare_valueWith,
      skipBlank_cons (isBlank_of_isDigit digit)]
    simp only [if_neg (other (d := 'n') rfl), if_neg (other (d := 't') rfl),
      if_neg (other (d := 'f') rfl), if_neg (other (d := '-') rfl), digit?_of_isDigit digit,
      Option.isSome_some, if_true]

/-- A token is read as the number that it stands for, whatever follows that cannot go on a number; and
if it stands for none, because that would be too large, then it is no value. -/
theorem Written.valueWith (written : Written n t) (inner : Option (Reader Value))
    (ends : EndsNumber rest) :
    (Reader.valueWith inner).bare (t ++ rest) =
      match n.number with
      | .ok x => .ok (.number x, rest)
      | .error behind => .error ⟨.numberTooLarge, byteCount rest + behind⟩ := by
  obtain ⟨more, split, scanned, c, tail, rfl, digit⟩ := written.scan ends
  rw [split, bare_valueWith_number inner digit, read_of_scan scanned]
  cases n.number <;> rfl

/-- An integer is read back in front of anything that does not go on a number. -/
theorem valueWith_whole (inner : Option (Reader Value)) (w : Whole) (ends : EndsNumber rest) :
    (Reader.valueWith inner).bare (intChars w.val ++ rest) = .ok (.number (.whole w), rest) := by
  have written := written_ofInt w.val
  rw [written.valueWith inner ends, written.eq_intChars_iff.mp rfl]

/-- A token alone is a value if it stands for a number. -/
theorem Written.read? (written : Written n t) :
    Json.read? (String.ofList t) = n.number.toOption.map .number := by
  have taken : (value maxDepth).bare t =
      (Reader.valueWith (some (value 126))).bare (t ++ []) := by
    rw [List.append_nil]
    rfl
  rw [Json.read?, Json.read, run_eq_bare, String.toList_ofList, taken,
    written.valueWith _ endsNumber_nil]
  cases n.number <;> rfl

/-- An integer is shown as it is written. -/
theorem toString_eq_ofList_intChars (i : Int) : toString i = String.ofList (intChars i) := by
  unfold intChars
  cases i with
  | ofNat n =>
    rw [if_neg (by simp)]
    rfl
  | negSucc n =>
    rw [if_pos (Int.negSucc_lt_zero n)]
    change "-" ++ String.ofList (Nat.toDigits 10 (n + 1)) = String.ofList (['-'] ++ _)
    rw [String.ofList_append]
    rfl

end Numeral

end ScriptGate.Json
