import ScriptGate.Json.Reader

/-!
# Readers as equations

`r.bare s` is what the reader `r` does with `s`, without the promise that the rest is shorter. In
this form each reader satisfies one equation, which says what it does by means of the bare readers
of its parts; a proof about a text rewrites with these equations and never opens a reader.
-/

namespace ScriptGate.Json

/-! ## Steps that succeed -/

section Steps

variable {α β : Type}

/-- If one step after another succeeds, then so do both. -/
theorem exists_of_bind_eq_ok {ε : Type} {first : Except ε α} {next : α → Except ε β} {b : β}
    (taken : (first >>= next) = .ok b) : ∃ a, first = .ok a ∧ next a = .ok b := by
  cases first with
  | error e => cases taken
  | ok a => exact ⟨a, rfl, taken⟩

theorem exists_of_map_eq_ok {ε : Type} {first : Except ε α} {f : α → β} {b : β}
    (taken : first.map f = .ok b) : ∃ a, first = .ok a ∧ f a = b := by
  cases first with
  | error e => cases taken
  | ok a => exact ⟨a, rfl, Except.ok.inj taken⟩

theorem eq_ok_of_mapError_eq_ok {ε ε' : Type} {result : Except ε α} {f : ε → ε'} {a : α}
    (taken : result.mapError f = .ok a) : result = .ok a := by
  cases result with
  | error e => cases taken
  | ok a' => exact congrArg Except.ok (Except.ok.inj taken)

/-! What comes of a step, whatever its failure would be. -/

variable {ε ε' : Type}

theorem toOption_eq_some_iff {result : Except ε α} {a : α} :
    result.toOption = some a ↔ result = .ok a := by
  cases result <;> simp [Except.toOption]

theorem toOption_bind (first : Except ε α) (next : α → Except ε β) :
    (first >>= next).toOption = first.toOption.bind fun a => (next a).toOption := by
  cases first <;> rfl

theorem toOption_map (first : Except ε α) (f : α → β) : (first.map f).toOption = first.toOption.map f := by
  cases first <;> rfl

theorem toOption_mapError (first : Except ε α) (f : ε → ε') :
    (first.mapError f).toOption = first.toOption := by
  cases first <;> rfl

end Steps

namespace Reader

/-- What a reader takes off the front of a text and what it leaves, or its failure. -/
def bare {α : Type} (r : Reader α) (s : List Char) : Except Failure (α × List Char) :=
  (r s).map fun taken => (taken.1, taken.2.1)

/-! ## Blank space and words -/

theorem skipBlank_cons {c : Char} (h : isBlank c = false) (rest : List Char) :
    skipBlank (c :: rest) = c :: rest := by
  rw [skipBlank, List.dropWhile_cons_of_neg (by simp [h])]

/-- What is left of a text without the given letters, or the failure. -/
def bareWord (letters s : List Char) : Except Failure (List Char) :=
  (word letters s).map Subtype.val

theorem bareWord_cons (letter : Char) (letters : List Char) (c : Char) (rest : List Char) :
    bareWord (letter :: letters) (c :: rest) =
      if c = letter then bareWord letters rest else .error (.past .wordWanted (c :: rest)) := by
  unfold bareWord
  rw [word]
  split
  · cases word letters rest <;> rfl
  · rfl

/-- Letters that stand in front are taken. -/
theorem bareWord_append (letters rest : List Char) :
    bareWord letters (letters ++ rest) = .ok rest := by
  induction letters with
  | nil => rfl
  | cons letter letters ih => rw [List.cons_append, bareWord_cons, if_pos rfl, ih]

/-! ## Texts -/

theorem bare_codeUnit (a b c d : Char) (rest : List Char) :
    codeUnit.bare (a :: b :: c :: d :: rest) =
      match hex? a, hex? b, hex? c, hex? d with
      | some a, some b, some c, some d => .ok (((a * 16 + b) * 16 + c) * 16 + d, rest)
      | _, _, _, _ => .error (hexFailure (a :: b :: c :: d :: rest)) := by
  rw [bare, codeUnit]
  cases hex? a <;> cases hex? b <;> cases hex? c <;> cases hex? d <;> rfl

theorem bare_coded (s : List Char) :
    coded.bare s = do
      let (unit, rest) ← codeUnit.bare s
      if isLowHalf unit then throw (.before .surrogateAlone rest)
      else if isHighHalf unit then
        let (low, rest) ← lowHalf.bare rest
        return (Char.ofNat (0x10000 + (unit - 0xd800) * 0x400 + (low - 0xdc00)), rest)
      else return (Char.ofNat unit, rest) := by
  unfold bare coded
  cases codeUnit s with
  | error failure => rfl
  | ok first =>
    obtain ⟨unit, rest, short⟩ := first
    simp only [bind, Except.bind, Except.map]
    by_cases low : isLowHalf unit = true
    · simp only [if_pos low]
      rfl
    · simp only [if_neg low]
      by_cases high : isHighHalf unit = true
      · simp only [if_pos high]
        cases lowHalf rest <;> simp only [pure, Except.pure]
      · simp only [if_neg high]
        rfl

theorem bare_escaped (c : Char) (rest : List Char) :
    escaped.bare (c :: rest) =
      if c = 'u' then coded.bare rest
      else match lettered? c with
        | some letter => .ok (letter, rest)
        | none => .error (.past .escapeUnknown (c :: rest)) := by
  simp only [bare, escaped]
  split
  · cases coded rest <;> rfl
  · cases lettered? c <;> rfl

theorem bare_quotedChars (before : List Char) (c : Char) (rest : List Char) :
    (quotedChars before).bare (c :: rest) =
      if c = '"' then .ok (before.reverse, rest)
      else if c = '\\' then do
        let (c, rest) ← escaped.bare rest
        (quotedChars (c :: before)).bare rest
      else if c.toNat < 32 then .error (.past .controlInText (c :: rest))
      else (quotedChars (c :: before)).bare rest := by
  unfold bare
  rw [quotedChars]
  simp only
  split
  · rfl
  · split
    · cases escaped rest with
      | error failure => rfl
      | ok first =>
        obtain ⟨d, rest, short⟩ := first
        simp only [bind, Except.bind, Except.map]
        cases quotedChars (d :: before) rest <;> rfl
    · split
      · rfl
      · cases quotedChars (c :: before) rest <;> rfl

theorem bare_text (s : List Char) :
    text.bare s = ((quotedChars []).bare s).map fun (cs, rest) => (String.ofList cs, rest) := by
  unfold bare text
  cases quotedChars [] s <;> rfl

/-! ## Numbers -/

theorem bare_number (negative : Bool) (s : List Char) :
    (number negative).bare s = Numeral.read negative s := by
  unfold bare number
  split <;> simp_all [Except.map]

/-! ## Lists and objects -/

section Containers

variable {α : Type} (b : Bracket) (item : Reader α)

theorem bare_moreItems (before : List α) (s : List Char) :
    (moreItems b item before).bare s =
      match skipBlank s with
      | [] => .error (.before b.ended [])
      | c :: rest =>
        if c = b.close then .ok (before.reverse, rest)
        else if c = ',' then
          match (skipBlank rest).head? with
          | some next =>
            if next = b.close then .error (.past .commaAtEnd (skipBlank rest))
            else do
              let (x, rest) ← item.bare rest
              (moreItems b item (x :: before)).bare rest
          | none => .error (.before .endInValue [])
        else .error (.past b.commaWanted (c :: rest)) := by
  unfold bare
  rw [moreItems]
  split
  · next ended =>
    rw [ended]
    rfl
  · next c rest start =>
    conv =>
      rhs
      rw [start]
    dsimp only
    split
    · rfl
    · split
      · cases (skipBlank rest).head? with
        | none => rfl
        | some next =>
          simp only
          split
          · rfl
          · cases item rest with
            | error failure => rfl
            | ok first =>
              obtain ⟨x, rest, short⟩ := first
              simp only [bind, Except.bind, Except.map]
              cases moreItems b item (x :: before) rest <;> rfl
      · rfl

theorem bare_items (s : List Char) :
    (items b item).bare s =
      match skipBlank s with
      | [] => .error (.before b.ended [])
      | c :: rest =>
        if c = b.close then .ok ([], rest)
        else (do
          let (x, rest) ← item.bare s
          (moreItems b item [x]).bare rest) := by
  unfold bare
  rw [items]
  split
  · next ended =>
    rw [ended]
    rfl
  · next c rest start =>
    conv =>
      rhs
      rw [start]
    dsimp only
    split
    · rfl
    · cases item s with
      | error failure => rfl
      | ok first =>
        obtain ⟨x, rest, short⟩ := first
        simp only [bind, Except.bind, Except.map]
        cases moreItems b item [x] rest <;> rfl

end Containers

theorem bare_name (s : List Char) :
    name.bare s =
      match skipBlank s with
      | [] => .error (.before .endInValue [])
      | c :: rest =>
        if c = '"' then text.bare rest else .error (.past .nameWanted (c :: rest)) := by
  unfold bare
  rw [name]
  split
  · next ended =>
    rw [ended]
    rfl
  · next c rest start =>
    conv =>
      rhs
      rw [start]
    dsimp only
    split
    · cases text rest <;> rfl
    · rfl

theorem bare_colon (s : List Char) :
    colon.bare s =
      match skipBlank s with
      | [] => .error (.before .endInObject [])
      | c :: rest =>
        if c = ':' then .ok ((), rest) else .error (.past .colonWanted (c :: rest)) := by
  unfold bare
  rw [colon]
  split
  · next ended =>
    rw [ended]
    rfl
  · next c rest start =>
    conv =>
      rhs
      rw [start]
    dsimp only
    split <;> rfl

theorem bare_member {α : Type} (value : Reader α) (s : List Char) :
    (member value).bare s = do
      let (key, rest) ← name.bare s
      let (_, rest) ← colon.bare rest
      let (v, rest) ← value.bare rest
      return ((key, v), rest) := by
  unfold bare member
  cases name s with
  | error failure => rfl
  | ok first =>
    obtain ⟨key, rest, short⟩ := first
    simp only [bind, Except.bind, Except.map]
    cases colon rest with
    | error failure => rfl
    | ok second =>
      obtain ⟨_, rest, short⟩ := second
      simp only
      cases value rest <;> rfl

/-! ## Values -/

theorem bare_valueWith (inner : Option (Reader Value)) (s : List Char) :
    (valueWith inner).bare s =
      match skipBlank s with
      | [] => .error (.before .endInValue [])
      | c :: rest =>
        if c = 'n' then (bareWord ['u', 'l', 'l'] rest).map fun rest => (.null, rest)
        else if c = 't' then (bareWord ['r', 'u', 'e'] rest).map fun rest => (.boolean true, rest)
        else if c = 'f' then
          (bareWord ['a', 'l', 's', 'e'] rest).map fun rest => (.boolean false, rest)
        else if c = '-' then (Numeral.read true rest).map fun (n, rest) => (.number n, rest)
        else if (digit? c).isSome then
          (Numeral.read false (c :: rest)).map fun (n, rest) => (.number n, rest)
        else if c = '"' then (text.bare rest).map fun (t, rest) => (.text t, rest)
        else if c = '[' then
          match inner with
          | none => .error (.past .nestedTooDeep (c :: rest))
          | some inner => ((items .list inner).bare rest).map fun (xs, rest) => (.list xs, rest)
        else if c = '\x7b' then
          match inner with
          | none => .error (.past .nestedTooDeep (c :: rest))
          | some inner =>
            ((items .object (member inner)).bare rest).map fun (written, rest) =>
              (.object (Members.ofList written), rest)
        else .error (.past .valueWanted (c :: rest)) := by
  unfold bare
  rw [valueWith]
  split
  · next ended =>
    rw [ended]
    rfl
  · next c rest start =>
    conv =>
      rhs
      rw [start]
    dsimp only
    split
    · rw [bareWord]
      cases word ['u', 'l', 'l'] rest <;> rfl
    split
    · rw [bareWord]
      cases word ['r', 'u', 'e'] rest <;> rfl
    split
    · rw [bareWord]
      cases word ['a', 'l', 's', 'e'] rest <;> rfl
    split
    · rw [← bare_number, bare]
      cases number true rest <;> rfl
    split
    · rw [← bare_number, bare]
      cases number false (c :: rest) <;> rfl
    split
    · cases text rest <;> rfl
    split
    · cases inner with
      | none => rfl
      | some inner => simp only; cases items .list inner rest <;> rfl
    split
    · cases inner with
      | none => rfl
      | some inner => simp only; cases items .object (member inner) rest <;> rfl
    · rfl

/-- The reader of lists goes on like that of values, but calls anything else a mismatch. -/
theorem bare_list (d : Nat) (s : List Char) :
    (list d).bare s =
      match skipBlank s with
      | '[' :: rest => (items .list (value d)).bare rest
      | _ => .error (mismatch "a sequence" s) := by
  unfold bare list
  split
  · next rest start =>
    simp only [start]
    cases items .list (value d) rest <;> rfl
  · next other =>
    split
    · next rest start => exact absurd start (other rest)
    · rfl

/-- Reading a whole text: nothing but blank space may be left over. -/
theorem run_eq_bare {α : Type} (reader : Reader α) (text : String) :
    reader.run text =
      ((do
        let (x, rest) ← reader.bare text.toList
        match skipBlank rest with
        | [] => return x
        | other => throw (Failure.past .textAfterValue other) : Except Failure α).mapError
          (Error.ofFailure text)) := by
  unfold run bare
  cases reader text.toList <;> rfl

end Reader

end ScriptGate.Json
