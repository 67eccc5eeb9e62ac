import ScriptGate.Fault.Reader
import ScriptGate.Proofs.Json.Grammar.Skip

/-!
# Reports are read member by member

A text that holds members is read as the report that these members make (`FaultReport.ofMembers?`), or
not at all if they make none (`FaultReport.read_of_holdsObject`). Member by member the reader does just
what `FaultReport.Partial.take?` says, whatever the text of the member looks like.
-/

namespace ScriptGate

open Json (Enclosed EndsNumber Failure Gap HoldsObject Listed Spaced Spells SpellsMember Value
  toOption_bind toOption_map toOption_mapError)
open Json.Reader

/-! ## What members make -/

namespace FaultReport

/-- The text of a value that can be null instead. -/
def nullableText? : Value → Option (Option String)
  | .null => some none
  | .text s => some (some s)
  | _ => none

/-- Puts a value in a place that is free, if it is one for that place. -/
def fill? {β : Type} (accept : Value → Option β) (place : Option β) (v : Value) : Option (Option β) :=
  if place.isSome then none else (accept v).map some

namespace Partial

/-- Takes a member into what has been read of a report. -/
def take? (sofar : Partial) (m : String × Value) : Option Partial :=
  if m.1 = "error_type" then
    (fill? Value.text? sofar.kind m.2).map fun kind => { sofar with kind := kind }
  else if m.1 = "message" then
    (fill? Value.text? sofar.message m.2).map fun message => { sofar with message := message }
  else if m.1 = "param" then
    (fill? nullableText? sofar.param m.2).map fun param => { sofar with param := param }
  else some sofar

/-- The report that has been read, if nothing of it is missing. -/
def report? (sofar : Partial) : Option FaultReport :=
  match sofar.kind, sofar.message with
  | some kind, some message => some ⟨kind, message, sofar.param.getD none⟩
  | _, _ => none

end Partial

/-- The report that members make, if they make one. -/
def ofMembers? (written : List (String × Value)) : Option FaultReport :=
  (written.foldlM Partial.take? ⟨none, none, none⟩).bind Partial.report?

end FaultReport

/-! ## Fields -/

namespace FaultReport

/-- What the first letter that is written for a value tells of it. -/
inductive ToldByLetter : List Char → Value → Prop
  | null : ToldByLetter ['n', 'u', 'l', 'l'] .null
  | text {t : List Char} {s : String} (inside : Json.SpellsChars t s.toList) :
    ToldByLetter ('"' :: (t ++ ['"'])) (.text s)
  | other {c : Char} {tail : List Char} {v : Value} (visible : isBlank c = false) (notNull : c ≠ 'n')
    (quote : c ≠ '"') (noText : v.text? = none) (notNullable : nullableText? v = none) :
    ToldByLetter (c :: tail) v

section Fields

variable {t rest : List Char} {v : Value} {d : Nat}

theorem toldByLetter_of_written {n : Json.Numeral} (written : n.Written t) (x : Json.Number) :
    ToldByLetter t (.number x) := by
  obtain ⟨c, tail, rfl, digit⟩ := written.exists_digit
  cases n.negative with
  | true => exact .other (by decide) (by decide) (by decide) rfl rfl
  | false =>
    have other {d : Char} (letter : d.isDigit = false) : c ≠ d := Json.ne_of_isDigit digit letter
    exact .other (Json.isBlank_of_isDigit digit) (other rfl) (other rfl) rfl rfl

theorem toldByLetter_of_scalar (spelled : Json.SpellsScalar t v) : ToldByLetter t v := by
  cases spelled with
  | null => exact .null
  | yes | no => exact .other (by decide) (by decide) (by decide) rfl rfl
  | whole w => exact toldByLetter_of_written (Json.Numeral.written_ofInt w.val) _
  | double token other inRange => exact toldByLetter_of_written token _
  | text spelled =>
    cases spelled with
    | quoted inside => exact .text inside

theorem toldByLetter_of_spells (spelled : Spells d t v) : ToldByLetter t v := by
  cases d with
  | zero => exact toldByLetter_of_scalar spelled
  | succ d =>
    cases spelled with
    | scalar spelled => exact toldByLetter_of_scalar spelled
    | list inside => exact .other (by decide) (by decide) (by decide) rfl rfl
    | object spelled =>
      cases spelled with
      | braces inside => exact .other (by decide) (by decide) (by decide) rfl rfl

theorem bare_textField (s : List Char) :
    textField.bare s =
      match skipBlank s with
      | '"' :: rest => text.bare rest
      | _ => .error (mismatch "a string" s) := by
  unfold bare textField
  split
  · next rest start =>
    simp only [start]
    cases text rest <;> rfl
  · next other =>
    split
    · next rest start => exact absurd start (other rest)
    · rfl

theorem bare_optionField (s : List Char) :
    optionField.bare s =
      match skipBlank s with
      | 'n' :: rest => (bareWord ['u', 'l', 'l'] rest).map fun rest => (none, rest)
      | _ => (textField.bare s).map fun (t, rest) => (some t, rest) := by
  unfold bare optionField bareWord
  split
  · next rest start =>
    simp only [start]
    cases word ['u', 'l', 'l'] rest <;> rfl
  · next other =>
    split
    · next rest start => exact absurd start (other rest)
    · cases textField s <;> rfl

/-- A text is taken for what it is, and nothing else is taken for a text. -/
theorem textField_of_told (told : ToldByLetter t v) (gap : Gap) (rest : List Char) :
    (textField.bare (gap.val ++ (t ++ rest))).toOption = v.text?.map fun s => (s, rest) := by
  rw [bare_textField, skipBlank_append gap.property]
  cases told with
  | null => rfl
  | @text t s inside =>
    rw [List.cons_append, List.append_assoc, skipBlank_cons (by decide)]
    change (text.bare (t ++ '"' :: rest)).toOption = _
    rw [Json.text_of_spells inside]
    rfl
  | other visible notNull quote noText =>
    rw [List.cons_append, skipBlank_cons visible, noText]
    split
    · next same => exact absurd (List.cons.inj same).1 quote
    · rfl

theorem optionField_of_told (told : ToldByLetter t v) (gap : Gap) (rest : List Char) :
    (optionField.bare (gap.val ++ (t ++ rest))).toOption = (nullableText? v).map fun p => (p, rest) := by
  have asText := textField_of_told told gap rest
  rw [bare_optionField, skipBlank_append gap.property]
  cases told with
  | null =>
    change ((bareWord ['u', 'l', 'l'] (['u', 'l', 'l'] ++ rest)).map _).toOption = _
    rw [bareWord_append]
    rfl
  | text inside =>
    rw [List.cons_append, skipBlank_cons (by decide)]
    change ((textField.bare _).map _).toOption = _
    rw [toOption_map]
    rw [List.cons_append] at asText
    rw [asText]
    rfl
  | other visible notNull quote noText notNullable =>
    rw [List.cons_append, skipBlank_cons visible, notNullable]
    split
    · next same => exact absurd (List.cons.inj same).1 notNull
    · rw [toOption_map]
      rw [List.cons_append] at asText
      rw [asText, noText]
      rfl

/-! ## Members -/

/-- What is taken of a member into what has been read of a report, and what is left behind it. -/
def bareField (sofar : Partial) (name : String) (s : List Char) :
    Except Failure (Partial × List Char) :=
  (readField sofar name s).map fun taken => (taken.1, taken.2.1)

/-- What is taken of a member for a place, unless the place is taken already. -/
def bareOnce {β : Type} (place : Option β) (field : Json.Reader β) (set : Option β → Partial)
    (repeated : Failure) (s : List Char) : Except Failure (Partial × List Char) :=
  if place.isSome then .error repeated
  else do
    let (_, rest) ← colon.bare s
    let (x, rest) ← field.bare rest
    return (set (some x), rest)

/-- A place is filled as the reader of its field tells. -/
theorem bareOnce_eq {β : Type} (place : Option β) (field : Json.Reader β) (set : Option β → Partial)
    (repeated : Failure) (s : List Char) :
    ((if place.isSome = true then throw repeated
      else do
        let (_, ⟨rest, short⟩) ← colon s
        let (filled, ⟨rest, shorter⟩) ← (do
          let (x, rest) ← field rest
          return (set (some x), rest) :
            Except Failure (Partial × { r : List Char // r.length < rest.length }))
        return (filled, ⟨rest, length_lt_trans shorter short⟩) :
      Except Failure (Partial × { rest : List Char // rest.length < s.length })).map
        fun taken => (taken.1, taken.2.1)) = bareOnce place field set repeated s := by
  unfold bareOnce bare
  split
  · rfl
  · cases colon s with
    | error failure => rfl
    | ok first =>
      obtain ⟨_, rest, short⟩ := first
      simp only [bind, Except.bind, Except.map]
      cases field rest <;> rfl

theorem bareField_eq (sofar : Partial) (name : String) (s : List Char) :
    bareField sofar name s =
      if name = "error_type" then
        bareOnce sofar.kind textField (fun kind => { sofar with kind := kind })
          (.before (.fieldRepeated name) (closing s)) s
      else if name = "message" then
        bareOnce sofar.message textField (fun message => { sofar with message := message })
          (.before (.fieldRepeated name) (closing s)) s
      else if name = "param" then
        bareOnce sofar.param optionField (fun param => { sofar with param := param })
          (.before (.fieldRepeated name) (closing s)) s
      else (do
        let (_, rest) ← colon.bare s
        let rest ← (skip rest).map Subtype.val
        return (sofar, rest)) := by
  unfold bareField readField
  dsimp only
  split
  · exact bareOnce_eq sofar.kind textField (fun kind => { sofar with kind := kind }) _ s
  split
  · exact bareOnce_eq sofar.message textField (fun message => { sofar with message := message }) _ s
  split
  · exact bareOnce_eq sofar.param optionField (fun param => { sofar with param := param }) _ s
  · unfold bare
    cases colon s with
    | error failure => rfl
    | ok first =>
      obtain ⟨_, rest, short⟩ := first
      simp only [bind, Except.bind, Except.map]
      cases skip rest <;> rfl

/-- A value is taken for a place that is free, if its reader takes it. -/
theorem bareOnce_of_field {β : Type} {field : Json.Reader β} {accept : Value → Option β}
    (before behind : Gap)
    (taken : (field.bare (behind.val ++ (t ++ rest))).toOption = (accept v).map fun x => (x, rest))
    (place : Option β) (set : Option β → Partial) (repeated : Failure) :
    (bareOnce place field set repeated (before.val ++ ':' :: (behind.val ++ (t ++ rest)))).toOption =
      (fill? accept place v).map fun x => (set x, rest) := by
  unfold bareOnce fill?
  split
  · rfl
  · rw [toOption_bind, Json.colon_append]
    change (field.bare (behind.val ++ (t ++ rest)) >>= _).toOption = _
    rw [toOption_bind, taken]
    cases accept v <;> rfl

/-- Behind its name, a member is taken into a report as it is spelled. -/
theorem bareField_of_spells (spelled : Spells d t v) (before behind : Gap) (ends : EndsNumber rest)
    (sofar : Partial) (name : String) :
    (bareField sofar name (before.val ++ ':' :: (behind.val ++ (t ++ rest)))).toOption =
      (sofar.take? (name, v)).map fun sofar => (sofar, rest) := by
  have told := toldByLetter_of_spells spelled
  have text := bareOnce_of_field before behind (textField_of_told told behind rest)
  rw [bareField_eq, Partial.take?]
  dsimp only
  split
  · rw [text, Option.map_map]
    rfl
  split
  · rw [text, Option.map_map]
    rfl
  split
  · rw [bareOnce_of_field before behind (optionField_of_told told behind rest), Option.map_map]
    rfl
  · rw [Json.colon_append]
    change ((skip (behind.val ++ (t ++ rest))).map Subtype.val >>= _).toOption = _
    rw [Json.skip_of_spells spelled behind ends]
    rfl

/-- What is taken of a member with its name. -/
def bareMember (sofar : Partial) (s : List Char) : Except Failure (Partial × List Char) := do
  let (key, rest) ← name.bare s
  bareField sofar key rest

theorem bareMember_of_spells {m : String × Value} (spelled : SpellsMember (Spells d) t m) (gap : Gap)
    (ends : EndsNumber rest) (sofar : Partial) :
    (bareMember sofar (gap.val ++ (t ++ rest))).toOption =
      (sofar.take? m).map fun sofar => (sofar, rest) := by
  cases spelled with
  | @named t u key v before behind label inside =>
    simp only [List.append_assoc, List.cons_append]
    rw [bareMember, Json.name_of_spells label]
    exact bareField_of_spells inside before behind ends sofar key

end Fields

/-! ## Objects -/

section Objects

variable {d : Nat} {t rest : List Char} {sofar : Partial} {written : List (String × Value)}

/-- The loop goes on behind a member. -/
theorem readMembers_member (sofar : Partial) (s : List Char) :
    (do
      let (key, ⟨rest, _⟩) ← name s
      let (sofar, ⟨rest, _⟩) ← readField sofar key rest
      readMembers false sofar rest) =
    (do
      let (sofar, rest) ← bareMember sofar s
      readMembers false sofar rest) := by
  unfold bareMember bareField bare
  cases name s with
  | error failure => rfl
  | ok first =>
    obtain ⟨key, rest, short⟩ := first
    simp only [bind, Except.bind, Except.map]
    cases readField sofar key rest <;> rfl

theorem readMembers_eq (first : Bool) (sofar : Partial) (s : List Char) :
    readMembers first sofar s =
      match skipBlank s with
      | [] => .error (.before .endInObject [])
      | c :: rest =>
        if c = '\x7d' then (complete sofar rest).map fun r => (r, rest)
        else if first then (do
          let (sofar, rest) ← bareMember sofar s
          readMembers false sofar rest)
        else if c = ',' then
          if (skipBlank rest).head? = some '\x7d' then .error (.past .commaAtEnd (skipBlank rest))
          else (do
            let (sofar, rest) ← bareMember sofar rest
            readMembers false sofar rest)
        else .error (.past .objectCommaWanted (c :: rest)) := by
  rw [readMembers]
  split
  · next ended =>
    rw [ended]
    rfl
  · next c rest start =>
    conv =>
      rhs
      rw [start]
    dsimp only
    split
    · cases complete sofar rest <;> rfl
    split
    · exact readMembers_member sofar s
    split
    · split
      · rfl
      · exact readMembers_member sofar rest
    · rfl

theorem readMembers_blank (sofar : Partial) (gap : Gap) (s : List Char) :
    readMembers false sofar (gap.val ++ s) = readMembers false sofar s := by
  rw [readMembers_eq, readMembers_eq, skipBlank_append gap.property]
  simp only [Bool.false_eq_true, if_false]

theorem complete_eq (sofar : Partial) (rest : List Char) :
    (complete sofar rest).toOption = sofar.report? := by
  unfold complete Partial.report?
  cases sofar.kind with
  | none => rfl
  | some kind => cases sofar.message <;> rfl

/-- At the closing brace, the report is what has been read of it. -/
theorem readMembers_close (first : Bool) (sofar : Partial) (gap : Gap) (rest : List Char) :
    (readMembers first sofar (gap.val ++ '\x7d' :: rest)).toOption =
      sofar.report?.map fun r => (r, rest) := by
  rw [readMembers_eq, skipBlank_append gap.property, skipBlank_cons (by decide)]
  simp only [if_true]
  rw [toOption_map, complete_eq]

/-- The first member is taken as if a comma stood in front of it. -/
theorem readMembers_first {s : List Char} {c : Char} {tail : List Char}
    (start : skipBlank s = c :: tail) (another : c ≠ '\x7d') (sofar : Partial) :
    readMembers true sofar s = readMembers false sofar (',' :: s) := by
  rw [readMembers_eq, readMembers_eq, skipBlank_cons (by decide), start]
  simp [another, start]

theorem readMembers_spaced {m : String × Value} (spaced : Spaced (SpellsMember (Spells d)) t m)
    (ends : EndsNumber rest) (sofar : Partial) :
    (readMembers false sofar (',' :: (t ++ rest))).toOption =
      (sofar.take? m).bind fun sofar => (readMembers false sofar rest).toOption := by
  cases spaced with
  | @around t m lead trail inside =>
    obtain ⟨c, tail, start, another⟩ :=
      inside.opens.skipBlank Bracket.plain_object lead (trail.val ++ rest)
    have another : c ≠ '\x7d' := another
    have taken := bareMember_of_spells inside lead (endsNumber_append trail.property ends) sofar
    have member : readMembers false sofar (',' :: (lead.val ++ (t ++ (trail.val ++ rest)))) =
        bareMember sofar (lead.val ++ (t ++ (trail.val ++ rest))) >>= fun (sofar, rest) =>
          readMembers false sofar rest := by
      rw [readMembers_eq, skipBlank_cons (by decide)]
      simp only [start]
      simp [another]
    rw [List.append_assoc, List.append_assoc, member, toOption_bind, taken]
    cases sofar.take? m with
    | none => rfl
    | some sofar => exact congrArg Except.toOption (readMembers_blank sofar trail rest)

/-- Members between commas are taken one after the other, and then the report is what has been read. -/
theorem readMembers_listed (listed : Listed (SpellsMember (Spells d)) t written) (sofar : Partial) :
    (readMembers false sofar (',' :: (t ++ '\x7d' :: rest))).toOption =
      ((written.foldlM Partial.take? sofar).bind Partial.report?).map fun r => (r, rest) := by
  have close (sofar : Partial) := readMembers_close false sofar ⟨[], by decide⟩ rest
  induction listed generalizing sofar with
  | @single t m item =>
    rw [readMembers_spaced item (Json.endsNumber_cons (by decide) rest), List.foldlM_cons]
    cases sofar.take? m with
    | none => rfl
    | some sofar => exact close sofar
  | @more t ts m ms item others ih =>
    rw [List.append_assoc, List.cons_append,
      readMembers_spaced item (Json.endsNumber_cons (by decide) _), List.foldlM_cons]
    cases sofar.take? m with
    | none => rfl
    | some sofar => exact ih sofar

theorem readMembers_enclosed (enclosed : Enclosed (SpellsMember (Spells d)) t written) :
    (readMembers true ⟨none, none, none⟩ (t ++ '\x7d' :: rest)).toOption =
      (ofMembers? written).map fun r => (r, rest) := by
  cases enclosed with
  | none gap => exact readMembers_close true _ gap rest
  | some listed =>
    obtain ⟨c, tail, start, another⟩ :=
      listed.skipBlank SpellsMember.opens Bracket.plain_object ('\x7d' :: rest)
    rw [readMembers_first start another]
    exact readMembers_listed listed _

end Objects

/-- A text that holds members is read as the report that they make, if they make one. -/
theorem read_of_holdsObject {d : Nat} {text : String} {written : List (String × Value)}
    (holds : HoldsObject d text written) : (read text).toOption = ofMembers? written := by
  obtain ⟨lead, trail, u, spelled, whole⟩ := Json.spaced_iff.mp holds
  cases spelled with
  | @braces t _ inside =>
    have members : (readMembers true ⟨none, none, none⟩ (t ++ '\x7d' :: trail.val)).toOption =
        (ofMembers? written).map fun r => (r, trail.val) := readMembers_enclosed inside
    have form : readForm (lead.val ++ ('\x7b' :: (t ++ ['\x7d']) ++ trail.val)) =
        readMembers true ⟨none, none, none⟩ (t ++ '\x7d' :: trail.val) := by
      rw [readForm, skipBlank_append lead.property, List.cons_append, List.append_assoc,
        skipBlank_cons (by decide)]
      rfl
    unfold read
    dsimp only
    rw [toOption_mapError, whole, form, toOption_bind, members]
    cases ofMembers? written with
    | none => rfl
    | some r =>
      simp only [Option.map_some, Option.bind_some, skipBlank_of_areBlank trail.property]
      rfl

end FaultReport

end ScriptGate
