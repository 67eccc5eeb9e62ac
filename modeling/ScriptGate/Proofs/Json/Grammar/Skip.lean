import ScriptGate.Json.Skip
import ScriptGate.Proofs.Json.Grammar.Value

/-!
# Values are passed over as they are spelled

Whatever the grammar spells is passed over whole, at any depth (`bareSkip_of_spells`). Skipping goes
through one state after the other and keeps the open brackets in a list; what is shown of a value is that
behind it the list is what it was before. So nothing has to be said of the brackets around a value
when it is passed over inside a container.
-/

namespace ScriptGate.Json

open Reader

namespace Reader

variable {t rest : List Char}

/-! ## Skipping as equations -/

/-- What is left behind a value that is passed over, or behind what was begun of one. -/
def bareSkip (state : Skipping) (around : List Bool) (s : List Char) : Except Failure (List Char) :=
  (skipFrom state around s).map Subtype.val

/-- What is left behind the name of a member and its colon; in a list there are none. -/
def bareSkipName (isObject : Bool) (s : List Char) : Except Failure (List Char) :=
  (skipName isObject s).map Subtype.val

/-- What is left behind a container of which an item comes next. -/
def bareEnter (isObject : Bool) (outer : List Bool) (s : List Char) : Except Failure (List Char) := do
  let rest ← bareSkipName isObject s
  bareSkip .value (isObject :: outer) rest

/-- What is left behind a scalar that begins with a character. -/
def bareSkipScalar (c : Char) (rest : List Char) : Except Failure (List Char) :=
  (skipScalar c rest).map Subtype.val

/-- The brackets of an object or of a list. -/
def bracketOf (isObject : Bool) : Bracket := if isObject then Bracket.object else Bracket.list

theorem plain_bracketOf (isObject : Bool) : (bracketOf isObject).Plain := by
  cases isObject with
  | true => exact Bracket.plain_object
  | false => exact Bracket.plain_list

theorem bare_skipEscape (c : Char) (rest : List Char) :
    skipEscape.bare (c :: rest) =
      if c = 'u' then (codeUnit.bare rest).map fun (_, rest) => ((), rest)
      else match lettered? c with
        | some _ => .ok ((), rest)
        | none => .error (.past .escapeUnknown (c :: rest)) := by
  simp only [bare, skipEscape]
  split
  · cases codeUnit rest <;> rfl
  · cases lettered? c <;> rfl

theorem bare_skipText (c : Char) (rest : List Char) :
    skipText.bare (c :: rest) =
      if c = '"' then .ok ((), rest)
      else if c = '\\' then do
        let (_, rest) ← skipEscape.bare rest
        skipText.bare rest
      else if c.toNat < 32 then .error (.before .controlInText (c :: rest))
      else skipText.bare rest := by
  unfold bare
  rw [skipText]
  simp only
  split
  · rfl
  · split
    · cases skipEscape rest with
      | error failure => rfl
      | ok first =>
        obtain ⟨_, rest, short⟩ := first
        simp only [bind, Except.bind, Except.map]
        cases skipText rest <;> rfl
    · split
      · rfl
      · cases skipText rest <;> rfl

theorem bareSkipScalar_eq (c : Char) (rest : List Char) :
    bareSkipScalar c rest =
      if c = 'n' then bareWord ['u', 'l', 'l'] rest
      else if c = 't' then bareWord ['r', 'u', 'e'] rest
      else if c = 'f' then bareWord ['a', 'l', 's', 'e'] rest
      else if c = '-' then (skipNumber.bare rest).map Prod.snd
      else if (digit? c).isSome then (skipNumber.bare (c :: rest)).map Prod.snd
      else if c = '"' then (skipText.bare rest).map Prod.snd
      else .error (.past .valueWanted (c :: rest)) := by
  unfold bareSkipScalar skipScalar bareWord bare
  split
  · rfl
  split
  · rfl
  split
  · rfl
  split
  · cases skipNumber rest <;> rfl
  split
  · cases skipNumber (c :: rest) <;> rfl
  split
  · cases skipText rest <;> rfl
  · rfl

theorem bareSkipName_list (s : List Char) : bareSkipName false s = .ok s := rfl

theorem bareSkipName_object (s : List Char) :
    bareSkipName true s =
      match skipBlank s with
      | [] => .error (.before .endInObject [])
      | c :: rest =>
        if c = '"' then do
          let (_, rest) ← skipText.bare rest
          let (_, rest) ← colon.bare rest
          return rest
        else .error (.past .nameWanted (c :: rest)) := by
  unfold bareSkipName bare
  rw [skipName, if_pos rfl]
  split
  · next ended =>
    rw [ended]
    rfl
  · next c rest start =>
    conv =>
      rhs
      rw [start]
    dsimp only
    split
    · cases skipText rest with
      | error failure => rfl
      | ok first =>
        obtain ⟨_, rest, short⟩ := first
        simp only [bind, Except.bind, Except.map]
        cases colon rest <;> rfl
    · rfl

theorem bareSkip_value (around : List Bool) (s : List Char) :
    bareSkip .value around s =
      match skipBlank s with
      | [] => .error (.before .endInValue [])
      | c :: rest =>
        if c = '[' ∨ c = '\x7b' then bareSkip .opened ((c = '\x7b') :: around) rest
        else (do
          let rest ← bareSkipScalar c rest
          bareSkip .passed around rest) := by
  unfold bareSkip
  rw [skipFrom]
  split
  · next ended =>
    rw [ended]
    rfl
  · next c rest start =>
    conv =>
      rhs
      rw [start]
    dsimp only
    split
    · cases skipFrom .opened ((c = '\x7b') :: around) rest <;> rfl
    · unfold bareSkipScalar
      cases skipScalar c rest with
      | error failure => rfl
      | ok first =>
        obtain ⟨rest, short⟩ := first
        simp only [bind, Except.bind, Except.map]
        cases skipFrom .passed around rest <;> rfl

/-- Where no bracket is open, nothing more is passed over. -/
theorem bareSkip_passed_nil (s : List Char) : bareSkip .passed [] s = .ok s := by
  rw [bareSkip, skipFrom]
  · rfl
  · intro same
    cases same

/-- Inside a container, its end or another item comes next. -/
theorem bareSkip_inside {state : Skipping} (inside : state ≠ .value) (isObject : Bool)
    (outer : List Bool) (s : List Char) :
    bareSkip state (isObject :: outer) s =
      match skipBlank s with
      | [] => .error (.before (bracketOf isObject).ended [])
      | c :: rest =>
        if c = (bracketOf isObject).close then bareSkip .passed outer rest
        else if state = .opened then bareEnter isObject outer (c :: rest)
        else if c = ',' then bareEnter isObject outer rest
        else .error (.past (bracketOf isObject).commaWanted (c :: rest)) := by
  unfold bareEnter bareSkip bareSkipName bracketOf
  rw [skipFrom]
  swap
  · exact inside
  dsimp only
  generalize (if isObject = true then Bracket.object else Bracket.list) = b
  split
  · next ended =>
    rw [ended]
    rfl
  · next c rest start =>
    conv =>
      rhs
      rw [start]
    dsimp only
    -- The name of the next member is passed over in front of its value.
    have enter {s : List Char} {limit : Nat}
        (fits : ∀ r : { r : List Char // r.length ≤ s.length },
          ∀ r' : { r' : List Char // r'.length ≤ r.val.length }, r'.val.length ≤ limit) :
        ((do
          let r ← skipName isObject s
          let r' ← skipFrom .value (isObject :: outer) r.val
          return ⟨r'.val, fits r r'⟩ :
            Except Failure { r : List Char // r.length ≤ limit }).map Subtype.val) =
          (do
            let rest ← (skipName isObject s).map Subtype.val
            (skipFrom .value (isObject :: outer) rest).map Subtype.val) := by
      cases skipName isObject s with
      | error failure => rfl
      | ok first =>
        obtain ⟨rest, short⟩ := first
        simp only [bind, Except.bind, Except.map]
        cases skipFrom .value (isObject :: outer) rest <;> rfl
    split
    · cases skipFrom .passed outer rest <;> rfl
    split
    · exact enter _
    split
    · exact enter _
    · rfl

/-! ## Scalars -/

theorem skipText_of_spells {t cs : List Char} (spelled : SpellsChars t cs) (rest : List Char) :
    skipText.bare (t ++ '"' :: rest) = .ok ((), rest) := by
  have letter {l c : Char} (known : (l, c) ∈ escapeLetters) (more : List Char) :
      skipEscape.bare (l :: more) = .ok ((), more) := by
    have other : l ≠ 'u' := by
      rintro rfl
      exact absurd known (by simp [escapeLetters])
    rw [bare_skipEscape, if_neg other, lettered?_eq_some_iff.mpr known]
  have unit {t : List Char} {n : Nat} (code : SpellsUnit t n) (more : List Char) :
      skipEscape.bare ('u' :: (t ++ more)) = .ok ((), more) := by
    rw [bare_skipEscape, if_pos rfl, codeUnit_eq_ok_iff.mpr ⟨t, code, rfl⟩]
    rfl
  have escape {s more : List Char} (passed : skipEscape.bare s = .ok ((), more)) :
      skipText.bare ('\\' :: s) = skipText.bare more := by
    rw [bare_skipText, if_neg (by decide), if_pos rfl, passed]
    rfl
  induction spelled with
  | nil => rw [List.nil_append, bare_skipText, if_pos rfl]
  | cons first others ih =>
    rw [List.append_assoc]
    cases first with
    | plain visible quote backslash =>
      rw [List.singleton_append, bare_skipText, if_neg quote, if_neg backslash,
        if_neg (Nat.not_lt.mpr visible), ih]
    | letter known =>
      simp only [List.cons_append, List.nil_append]
      rw [escape (letter known _), ih]
    | unit code =>
      simp only [List.cons_append]
      rw [escape (unit code _), ih]
    | pair first second upper lower code =>
      -- The two halves are passed over one after the other.
      simp only [List.cons_append, List.append_assoc]
      rw [escape (unit first _), escape (unit second _), ih]

/-- The sign of a number does not change where its digits end. -/
theorem skipNumber_of_scan {n : Numeral} {negative : Bool} {s : List Char}
    (scanned : Numeral.scan negative s = .ok (n, rest)) : skipNumber.bare s = .ok ((), rest) := by
  have unsigned : ∃ n, Numeral.scan false s = .ok (n, rest) := by
    obtain ⟨whole, fraction, power, _, _, -, first, second, third⟩ := Numeral.exists_of_scan scanned
    refine ⟨⟨false, whole, fraction, power⟩, ?_⟩
    simp only [Numeral.scan, first, second, third, bind, Except.bind]
    rfl
  obtain ⟨n, scanned⟩ := unsigned
  unfold bare skipNumber
  split
  · next same =>
    rw [scanned] at same
    cases same
    rfl
  · next same =>
    rw [scanned] at same
    cases same

theorem bareSkip_of_scalar {c : Char} (visible : isBlank c = false) (scalar : ¬ (c = '[' ∨ c = '\x7b'))
    (passed : bareSkipScalar c t = .ok rest) (around : List Bool) :
    bareSkip .value around (c :: t) = bareSkip .passed around rest := by
  rw [bareSkip_value, skipBlank_cons visible]
  simp only [if_neg scalar, passed, bind, Except.bind]

/-- The token of a number is passed over, of whatever size the number is. -/
theorem bareSkip_of_written {n : Numeral} (written : n.Written t) (ends : EndsNumber rest)
    (around : List Bool) : bareSkip .value around (t ++ rest) = bareSkip .passed around rest := by
  obtain ⟨more, split, scanned, c, tail, rfl, digit⟩ := written.scan ends
  have passed := skipNumber_of_scan scanned
  have other {d : Char} (letter : d.isDigit = false) : c ≠ d := ne_of_isDigit digit letter
  rw [split, Numeral.sign]
  split
  · refine bareSkip_of_scalar (by decide) (by decide) ?_ around
    rw [bareSkipScalar_eq, if_neg (by decide), if_neg (by decide), if_neg (by decide), if_pos rfl]
    exact congrArg (Except.map Prod.snd) passed
  · refine bareSkip_of_scalar (isBlank_of_isDigit digit) ?_ ?_ around
    · exact not_or.mpr ⟨other rfl, other rfl⟩
    · rw [bareSkipScalar_eq, if_neg (other rfl), if_neg (other rfl), if_neg (other rfl),
        if_neg (other rfl), if_pos (by rw [digit?_of_isDigit digit]; rfl), passed]
      rfl

end Reader

theorem SpellsScalar.bareSkip {t rest : List Char} {v : Value} (spelled : SpellsScalar t v)
    (ends : EndsNumber rest) (around : List Bool) :
    bareSkip .value around (t ++ rest) = bareSkip .passed around rest := by
  have word {c : Char} (letters : List Char) (visible : isBlank c = false)
      (scalar : ¬ (c = '[' ∨ c = '\x7b'))
      (word : bareSkipScalar c (letters ++ rest) = bareWord letters (letters ++ rest)) :
      Reader.bareSkip .value around (c :: (letters ++ rest)) = Reader.bareSkip .passed around rest :=
    bareSkip_of_scalar visible scalar (word.trans (bareWord_append letters rest)) around
  cases spelled with
  | null => exact word ['u', 'l', 'l'] (by decide) (by decide) rfl
  | yes => exact word ['r', 'u', 'e'] (by decide) (by decide) rfl
  | no => exact word ['a', 'l', 's', 'e'] (by decide) (by decide) rfl
  | whole w => exact bareSkip_of_written (Numeral.written_ofInt w.val) ends around
  | double token other inRange => exact bareSkip_of_written token ends around
  | text spelled =>
    cases spelled with
    | @quoted t _ inside =>
      have digit : digit? '"' = none := by decide
      rw [List.cons_append, List.append_assoc]
      refine bareSkip_of_scalar (by decide) (by decide) ?_ around
      rw [bareSkipScalar_eq]
      simp [digit, skipText_of_spells inside rest, Except.map]

/-! ## Containers -/

section Containers

variable {α : Type} {Q : List Char → α → Prop} {isObject : Bool} {outer : List Bool}
  {s t rest : List Char} {x : α} {xs : List α}

theorem bareSkip_value_blank (gap : Gap) (around : List Bool) (s : List Char) :
    bareSkip .value around (gap.val ++ s) = bareSkip .value around s := by
  rw [bareSkip_value, bareSkip_value, skipBlank_append gap.property]

theorem bareSkip_inside_blank {state : Skipping} (inside : state ≠ .value) (gap : Gap) (s : List Char) :
    bareSkip state (isObject :: outer) (gap.val ++ s) = bareSkip state (isObject :: outer) s := by
  rw [bareSkip_inside inside, bareSkip_inside inside, skipBlank_append gap.property]

theorem bareEnter_blank (gap : Gap) (s : List Char) :
    bareEnter isObject outer (gap.val ++ s) = bareEnter isObject outer s := by
  unfold bareEnter
  cases isObject with
  | true => rw [bareSkipName_object, bareSkipName_object, skipBlank_append gap.property]
  | false =>
    rw [bareSkipName_list, bareSkipName_list]
    exact bareSkip_value_blank gap _ s

/-- The closing bracket takes the innermost of the open ones away. -/
theorem bareSkip_close {state : Skipping} (inside : state ≠ .value) (rest : List Char) :
    bareSkip state (isObject :: outer) ((bracketOf isObject).close :: rest) =
      bareSkip .passed outer rest := by
  rw [bareSkip_inside inside, skipBlank_cons (plain_bracketOf isObject).visible]
  simp only [if_true]

theorem bareSkip_comma (s : List Char) :
    bareSkip .passed (isObject :: outer) (',' :: s) = bareEnter isObject outer s := by
  rw [bareSkip_inside (by decide), skipBlank_cons (by decide)]
  simp only [if_neg (plain_bracketOf isObject).comma, if_true]
  rfl

/-- Whether the items that a relation tells of are passed over inside a container. -/
structure PassedIn (isObject : Bool) (Q : List Char → α → Prop) : Prop where
  passed {t rest : List Char} {x : α} (outer : List Bool) : Q t x → EndsNumber rest →
    bareEnter isObject outer (t ++ rest) = bareSkip .passed (isObject :: outer) rest
  opens {t : List Char} {x : α} : Q t x → OpensValue t

namespace PassedIn

theorem spaced (passedIn : PassedIn isObject Q) (spaced : Spaced Q t x) (ends : EndsNumber rest) :
    bareEnter isObject outer (t ++ rest) = bareSkip .passed (isObject :: outer) rest := by
  cases spaced with
  | around lead trail inside =>
    have passed := passedIn.passed outer inside (endsNumber_append trail.property ends)
    rw [List.append_assoc, List.append_assoc, bareEnter_blank, passed,
      bareSkip_inside_blank (by decide)]

theorem listed (passedIn : PassedIn isObject Q) (listed : Listed Q t xs) :
    bareEnter isObject outer (t ++ (bracketOf isObject).close :: rest) =
      bareSkip .passed outer rest := by
  have plain := plain_bracketOf isObject
  induction listed with
  | single item =>
    rw [passedIn.spaced item (endsNumber_cons plain.ends rest), bareSkip_close (by decide)]
  | more item others ih =>
    rw [List.append_assoc, List.cons_append, passedIn.spaced item (endsNumber_cons (by decide) _),
      bareSkip_comma, ih]

/-- A container whose items are passed over is passed over up to its closing bracket. -/
theorem enclosed (passedIn : PassedIn isObject Q) (enclosed : Enclosed Q t xs) :
    bareSkip .opened (isObject :: outer) (t ++ (bracketOf isObject).close :: rest) =
      bareSkip .passed outer rest := by
  cases enclosed with
  | none gap => rw [bareSkip_inside_blank (by decide), bareSkip_close (by decide)]
  | some listed =>
    obtain ⟨c, tail, start, another⟩ := listed.skipBlank passedIn.opens (plain_bracketOf isObject)
      ((bracketOf isObject).close :: rest)
    obtain ⟨front, blank, split⟩ := exists_split_of_skipBlank start
    rw [← passedIn.listed listed, bareSkip_inside (by decide), start, split,
      bareEnter_blank ⟨front, blank⟩]
    simp only [if_neg another, if_true]

end PassedIn

variable {P : List Char → Value → Prop}

/-- Whether the values that a relation tells of are passed over wherever one has to follow. -/
structure Passed (P : List Char → Value → Prop) : Prop where
  passed {t rest : List Char} {v : Value} (around : List Bool) : P t v → EndsNumber rest →
    bareSkip .value around (t ++ rest) = bareSkip .passed around rest
  opens {t : List Char} {v : Value} : P t v → OpensValue t

theorem Passed.inList (passed : Passed P) : PassedIn false P where
  passed outer spelled ends := passed.passed (false :: outer) spelled ends
  opens := passed.opens

theorem Passed.inObject (passed : Passed P) : PassedIn true (SpellsMember P) where
  passed {t rest m} outer spelled ends := by
    cases spelled with
    | @named t u key v before behind label inside =>
      cases label with
      | @quoted t _ letters =>
        simp only [List.cons_append, List.append_assoc, List.nil_append]
        rw [bareEnter, bareSkipName_object, skipBlank_cons (by decide)]
        simp only [if_true, skipText_of_spells letters, bind, Except.bind, colon_append]
        change bareSkip .value (true :: outer) (behind.val ++ (u ++ rest)) = _
        rw [bareSkip_value_blank, passed.passed _ inside ends]
  opens := SpellsMember.opens

end Containers

theorem passed_spells (d : Nat) : Passed (Spells d) := by
  induction d with
  | zero =>
    refine ⟨fun {t rest v} around spelled ends => ?_, SpellsScalar.opens⟩
    exact SpellsScalar.bareSkip spelled ends around
  | succ d ih =>
    refine ⟨fun {t rest v} around spelled ends => ?_, (recognizes_value (d + 1)).opens⟩
    cases spelled with
    | scalar spelled => exact spelled.bareSkip ends around
    | list inside =>
      rw [List.cons_append, List.append_assoc, bareSkip_value, skipBlank_cons (by decide)]
      exact ih.inList.enclosed inside
    | object spelled =>
      cases spelled with
      | braces inside =>
        rw [List.cons_append, List.append_assoc, bareSkip_value, skipBlank_cons (by decide)]
        exact ih.inObject.enclosed inside

/-- A value is passed over as it is spelled, at any depth. -/
theorem skip_of_spells {d : Nat} {t rest : List Char} {v : Value} (spelled : Spells d t v) (gap : Gap)
    (ends : EndsNumber rest) : (skip (gap.val ++ (t ++ rest))).map Subtype.val = .ok rest := by
  change bareSkip .value [] (gap.val ++ (t ++ rest)) = _
  rw [bareSkip_value_blank, (passed_spells d).passed [] spelled ends, bareSkip_passed_nil]

end ScriptGate.Json
