import ScriptGate.Json.Printer

/-!
# Written values have no control characters

Inside quotes the control characters are escaped, and outside there are none: whatever a value holds,
its text stays in one line (`Value.printable_render`).
-/

namespace ScriptGate

/-- Whether there are no control characters among some characters. -/
def Printable (cs : List Char) : Prop := ∀ c ∈ cs, 32 ≤ c.toNat

namespace Printable

variable {c : Char} {cs ds : List Char}

@[simp] theorem nil_iff : Printable [] ↔ True := by simp [Printable]

@[simp] theorem cons_iff : Printable (c :: cs) ↔ 32 ≤ c.toNat ∧ Printable cs :=
  List.forall_mem_cons

@[simp] theorem append_iff : Printable (cs ++ ds) ↔ Printable cs ∧ Printable ds :=
  List.forall_mem_append

theorem of_subset (printable : Printable cs) (subset : ds ⊆ cs) : Printable ds :=
  fun c found => printable c (subset found)

/-- What is printable is in one line. -/
theorem lineFeed_not_mem (printable : Printable cs) : '\n' ∉ cs :=
  fun found => absurd (printable '\n' found) (by decide)

theorem replicate_zero (n : Nat) : Printable (List.replicate n '0') := by
  intro c found
  rw [List.eq_of_mem_replicate found]
  decide

/-- The digits of a number are printable. -/
theorem toDigits (n : Nat) : Printable (Nat.toDigits 10 n) := by
  intro c found
  have digit := Nat.isDigit_of_mem_toDigits (by decide) (by decide) found
  simp only [Char.isDigit, Bool.and_eq_true, decide_eq_true_eq, UInt32.le_iff_toNat_le] at digit
  exact Nat.le_trans (by decide) digit.1

end Printable

/-! ## Numbers -/

namespace Decimal

theorem printable_positional (d : Decimal) : Printable d.positional := by
  have digits : Printable d.digits := .toDigits d.significand
  unfold positional
  split
  · simp [digits, Printable.replicate_zero]
  · dsimp only
    split
    · simp [digits, Printable.replicate_zero]
    · have front := digits.of_subset (List.take_subset (d.digits.length - (-d.exponent).toNat) _)
      have back := digits.of_subset (List.drop_subset (d.digits.length - (-d.exponent).toNat) _)
      simp [front, back]

theorem printable_scientific (plus : Bool) (d : Decimal) : Printable (d.scientific plus) := by
  have digits : Printable d.digits := .toDigits d.significand
  have power : Printable (Nat.toDigits 10 d.leading.natAbs) := .toDigits _
  have sign : Printable (if d.leading < 0 then ['-'] else if plus then ['+'] else []) := by
    split
    · simp
    · split <;> simp
  unfold scientific
  dsimp only
  split
  · next first second more same =>
    rw [same] at digits
    simp at digits
    simp [digits, power, sign]
  · simp [digits, power, sign]

end Decimal

namespace Json

theorem printable_intChars (i : Int) : Printable (intChars i) := by
  unfold intChars
  split <;> simp [Printable.toDigits]

theorem printable_doubleChars (x : Float) : Printable (doubleChars x) := by
  have signed {cs : List Char} (printable : Printable cs) :
      Printable (if x.toBits ≥ 0x8000000000000000 then '-' :: cs else cs) := by
    split
    · simp [printable]
    · exact printable
  unfold doubleChars
  split
  · simp
  · refine signed ?_
    split
    · simp
    · dsimp only
      split
      · exact Decimal.printable_positional _
      · exact Decimal.printable_scientific true _

theorem Number.printable_chars (n : Number) : Printable n.chars := by
  cases n with
  | whole n => exact printable_intChars n.val
  | double x => exact printable_doubleChars x

/-! ## Texts -/

theorem printable_hexDigit {n : Nat} (h : n < 16) : 32 ≤ (hexDigit n).toNat := by
  have all : ∀ n : Fin 16, 32 ≤ (hexDigit n).toNat := by decide
  exact all ⟨n, h⟩

theorem printable_escape (c : Char) : Printable (escape c) := by
  unfold escape
  split
  · simp
  split
  · simp
  split
  · next plain => simp [plain]
  next control =>
  iterate 5
    split
    · simp
  have high := printable_hexDigit (n := c.toNat / 16) (by omega)
  have low := printable_hexDigit (n := c.toNat % 16) (by omega)
  simp [high, low]

theorem printable_writeText (s : String) {rest : List Char} (printable : Printable rest) :
    Printable (writeText s rest) := by
  have inside : Printable (s.toList.flatMap escape) := by
    intro d found
    obtain ⟨c, -, found⟩ := List.mem_flatMap.mp found
    exact printable_escape c d found
  simp [writeText, inside, printable]

/-! ## Values -/

namespace Value

mutual

/-- What is written for a value is printable, if what follows it is. -/
theorem printable_write : ∀ (v : Value) (rest : List Char), Printable rest →
    Printable (v.write rest)
  | .null, rest, printable => by simp [write, printable]
  | .boolean true, rest, printable => by simp [write, printable]
  | .boolean false, rest, printable => by simp [write, printable]
  | .number n, rest, printable => by simp [write, n.printable_chars, printable]
  | .text s, rest, printable => printable_writeText s printable
  | .list [], rest, printable => by simp [write, printable]
  | .list (item :: items), rest, printable => by
    have inside := printable_write item _ (printable_writeItems items rest printable)
    simp [write, inside]
  | .object [], rest, printable => by simp [write, printable]
  | .object ((name, v) :: members), rest, printable => by
    have inside := printable_write v _ (printable_writeMembers members rest printable)
    have valued : Printable (':' :: v.write (writeMembers members rest)) := by simp [inside]
    have named := printable_writeText name valued
    simp [write, named]

theorem printable_writeItems : ∀ (items : List Value) (rest : List Char), Printable rest →
    Printable (writeItems items rest)
  | [], rest, printable => by simp [writeItems, printable]
  | item :: items, rest, printable => by
    have inside := printable_write item _ (printable_writeItems items rest printable)
    simp [writeItems, inside]

theorem printable_writeMembers : ∀ (members : List (String × Value)) (rest : List Char),
    Printable rest → Printable (writeMembers members rest)
  | [], rest, printable => by simp [writeMembers, printable]
  | (name, v) :: members, rest, printable => by
    have inside := printable_write v _ (printable_writeMembers members rest printable)
    have valued : Printable (':' :: v.write (writeMembers members rest)) := by simp [inside]
    have named := printable_writeText name valued
    simp [writeMembers, named]

end

theorem printable_render (v : Value) : Printable v.render.toList := by
  rw [render, String.toList_ofList]
  exact printable_write v [] (Printable.nil_iff.mpr trivial)

end Value

end Json

end ScriptGate
