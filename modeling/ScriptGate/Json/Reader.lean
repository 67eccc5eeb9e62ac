import ScriptGate.Json.Numeral

/-!
Reading JSON text.

A reader takes something off the front of a text and leaves a strictly shorter rest, so
loops over items end without counting. Lists and objects together nest at most
`Reader.maxDepth` deep: `Reader.value d` reads values whose own nesting is at most `d`. Blank space is
space, tab, line feed and carriage return, and nothing but blank space may follow the value. Of
several members with one name the last one counts.
-/

namespace ScriptGate.Json

/-- Takes an `α` off the front of a text. -/
def Reader (α : Type) : Type :=
  (s : List Char) → Except Failure (α × { rest : List Char // rest.length < s.length })

namespace Reader

/-! ## What is left over -/

theorem length_lt_cons (c : Char) (rest : List Char) : rest.length < (c :: rest).length :=
  Nat.lt_succ_self _

theorem length_lt_cons_of_lt {c : Char} {s t : List Char} (h : s.length < t.length) :
    s.length < (c :: t).length :=
  Nat.lt_succ_of_lt h

theorem length_lt_trans {s t u : List Char} (h : s.length < t.length) (h' : t.length < u.length) :
    s.length < u.length :=
  Nat.lt_trans h h'

theorem length_lt_of_le_of_lt {s t u : List Char} (h : s.length ≤ t.length)
    (h' : t.length < u.length) : s.length < u.length :=
  Nat.lt_of_le_of_lt h h'

theorem length_le_of_lt {s t : List Char} (h : s.length < t.length) : s.length ≤ t.length :=
  Nat.le_of_lt h

theorem length_le_of_le_of_lt {s t u : List Char} (h : s.length ≤ t.length)
    (h' : t.length < u.length) : s.length ≤ u.length :=
  Nat.le_of_lt (Nat.lt_of_le_of_lt h h')

theorem length_le_of_le_cons {c : Char} {s t u : List Char} (h : s.length ≤ (c :: t).length)
    (h' : t.length < u.length) : s.length ≤ u.length :=
  Nat.le_trans h h'

theorem length_le_trans {s t u : List Char} (h : s.length ≤ t.length) (h' : t.length ≤ u.length) :
    s.length ≤ u.length :=
  Nat.le_trans h h'

theorem length_le_refl (s : List Char) : s.length ≤ s.length := Nat.le_refl _

/-! ## Blank space and words -/

/-- The blank characters between tokens. -/
def isBlank (c : Char) : Bool := c = ' ' || c = '\n' || c = '\t' || c = '\r'

/-- The text from its first character that is not blank. -/
def skipBlank (s : List Char) : List Char := s.dropWhile isBlank

theorem skipBlank_length_le (s : List Char) : (skipBlank s).length ≤ s.length :=
  (List.dropWhile_suffix isBlank).length_le

theorem length_lt_of_skipBlank {s rest : List Char} {c : Char} (h : skipBlank s = c :: rest) :
    rest.length < s.length := by
  have := skipBlank_length_le s
  rw [h, List.length_cons] at this
  omega

/-- Takes the given letters off the front of a text. -/
def word : (letters s : List Char) → Except Failure { rest : List Char // rest.length ≤ s.length }
  | [], s => .ok ⟨s, length_le_refl s⟩
  | _ :: _, [] => .error (.before .endInValue [])
  | letter :: letters, c :: rest =>
    if c = letter then do
      let ⟨rest, short⟩ ← word letters rest
      return ⟨rest, by simp only [List.length_cons]; omega⟩
    else .error (.past .wordWanted (c :: rest))

/-! ## Texts -/

/-- The value of a hexadecimal digit. -/
def hex? (c : Char) : Option Nat :=
  if '0' ≤ c ∧ c ≤ '9' then some (c.toNat - 48)
  else if 'a' ≤ c ∧ c ≤ 'f' then some (c.toNat - 87)
  else if 'A' ≤ c ∧ c ≤ 'F' then some (c.toNat - 55)
  else none

/-- Why the four bytes a text starts with are not hexadecimal digits. -/
def hexFailure (s : List Char) : Failure :=
  if byteCount s < 4 then ⟨.endInText, 0⟩ else ⟨.escapeUnknown, byteCount s - 4⟩

/-- A code unit of four hexadecimal digits. -/
def codeUnit : Reader Nat
  | a :: b :: c :: d :: rest =>
    match hex? a, hex? b, hex? c, hex? d with
    | some a, some b, some c, some d =>
      .ok (((a * 16 + b) * 16 + c) * 16 + d, ⟨rest, by simp only [List.length_cons]; omega⟩)
    | _, _, _, _ => .error (hexFailure (a :: b :: c :: d :: rest))
  | s => .error (hexFailure s)

/-- Whether a code unit is the first half of a pair. -/
def isHighHalf (unit : Nat) : Bool := 0xd800 ≤ unit && unit ≤ 0xdbff

/-- Whether a code unit is the second half of a pair. -/
def isLowHalf (unit : Nat) : Bool := 0xdc00 ≤ unit && unit ≤ 0xdfff

/-- The second half of a pair, spelled as an escape of its own. -/
def lowHalf : Reader Nat
  | [] => .error (.before .endInText [])
  | '\\' :: 'u' :: digits => do
    let (unit, ⟨rest, short⟩) ← codeUnit digits
    if isLowHalf unit then
      return (unit, ⟨rest, by simp only [List.length_cons]; omega⟩)
    else throw (.before .surrogateAlone rest)
  | '\\' :: [] => .error (.before .endInText [])
  | '\\' :: other => .error (.past .surrogateUnpaired other)
  | other => .error (.past .surrogateUnpaired other)

/-- The character that an escape by code stands for, after its `u`. -/
def coded : Reader Char := fun s => do
  let (unit, ⟨rest, short⟩) ← codeUnit s
  if isLowHalf unit then throw (.before .surrogateAlone rest)
  else if isHighHalf unit then
    let (low, ⟨rest, shorter⟩) ← lowHalf rest
    return (Char.ofNat (0x10000 + (unit - 0xd800) * 0x400 + (low - 0xdc00)), ⟨rest, by omega⟩)
  else return (Char.ofNat unit, ⟨rest, short⟩)

/-- The characters with an escape of one letter. -/
def lettered? (c : Char) : Option Char :=
  if c = '"' ∨ c = '\\' ∨ c = '/' then some c
  else if c = 'b' then some '\x08'
  else if c = 'f' then some '\x0c'
  else if c = 'n' then some '\n'
  else if c = 'r' then some '\r'
  else if c = 't' then some '\t'
  else none

/-- The character that an escape stands for, after its backslash. -/
def escaped : Reader Char
  | [] => .error (.before .endInText [])
  | c :: rest =>
    if c = 'u' then do
      let (c, ⟨rest, short⟩) ← coded rest
      return (c, ⟨rest, length_lt_cons_of_lt short⟩)
    else match lettered? c with
      | some letter => .ok (letter, ⟨rest, length_lt_cons c rest⟩)
      | none => .error (.past .escapeUnknown (c :: rest))

/-- The characters up to the closing quote, put behind those read before, which are in reverse
order. -/
def quotedChars (before : List Char) : Reader (List Char) := fun s =>
  match s with
  | [] => .error (.before .endInText [])
  | c :: rest =>
    if c = '"' then .ok (before.reverse, ⟨rest, length_lt_cons c rest⟩)
    else if c = '\\' then do
      let (c, ⟨rest, short⟩) ← escaped rest
      let (cs, ⟨rest, shorter⟩) ← quotedChars (c :: before) rest
      have short := length_lt_trans shorter short
      return (cs, ⟨rest, length_lt_cons_of_lt short⟩)
    else if c.toNat < 32 then .error (.past .controlInText (c :: rest))
    else do
      let (cs, ⟨rest, short⟩) ← quotedChars (c :: before) rest
      return (cs, ⟨rest, length_lt_cons_of_lt short⟩)
termination_by s => s.length

/-- A text, after its opening quote. -/
def text : Reader String := fun s => do
  let (cs, rest) ← quotedChars [] s
  return (String.ofList cs, rest)

/-! ## Numbers -/

theorem takeDigits_length_le (s : List Char) : (takeDigits s).2.length ≤ s.length := by
  induction s with
  | nil => simp [takeDigits]
  | cons c rest ih =>
    simp only [takeDigits]
    split
    · simp only [List.length_cons]; omega
    · simp

theorem length_lt_of_scanWhole {s rest : List Char} {ds : List Nat}
    (h : Numeral.scanWhole s = .ok (ds, rest)) : rest.length < s.length := by
  unfold Numeral.scanWhole at h
  split at h
  · cases h
  · rename_i c tail
    split at h
    · cases h
    · split at h
      · split at h
        · cases h
        · cases h; simp
      · cases h; simp
    · have short := takeDigits_length_le tail
      generalize takeDigits tail = taken at h short
      cases h
      simp only [List.length_cons]; omega

theorem length_le_of_scanFraction {s rest : List Char} {ds : Option (List Nat)}
    (h : Numeral.scanFraction s = .ok (ds, rest)) : rest.length ≤ s.length := by
  unfold Numeral.scanFraction at h
  split at h
  · rename_i tail
    have := takeDigits_length_le tail
    split at h
    · cases h
    · cases h
    · rename_i eq
      cases h
      rw [eq] at this
      simp only [List.length_cons] at this ⊢; omega
  · cases h; simp

theorem length_le_of_scanPowerDigits {negative : Bool} {s rest : List Char}
    {power : Option (Bool × List Nat)}
    (h : Numeral.scanPowerDigits negative s = .ok (power, rest)) : rest.length ≤ s.length := by
  unfold Numeral.scanPowerDigits at h
  have := takeDigits_length_le s
  split at h
  · cases h
  · cases h
  · rename_i eq
    cases h
    rwa [eq] at this

theorem length_le_of_scanPower {s rest : List Char} {power : Option (Bool × List Nat)}
    (h : Numeral.scanPower s = .ok (power, rest)) : rest.length ≤ s.length := by
  unfold Numeral.scanPower at h
  split at h
  · cases h; simp
  · split at h
    · split at h
      all_goals
        have short := length_le_of_scanPowerDigits h
        simp only [List.length_cons] at *
        omega
    · cases h; simp

theorem length_lt_of_read {negative : Bool} {s rest : List Char} {n : Number}
    (h : Numeral.read negative s = .ok (n, rest)) : rest.length < s.length := by
  simp only [Numeral.read, Numeral.scan, bind, Except.bind, pure, Except.pure] at h
  cases hw : Numeral.scanWhole s with
  | error f => rw [hw] at h; cases h
  | ok w =>
    rw [hw] at h
    cases hf : Numeral.scanFraction w.2 with
    | error f => simp only [hf] at h; cases h
    | ok f =>
      simp only [hf] at h
      cases hp : Numeral.scanPower f.2 with
      | error f => simp only [hp] at h; cases h
      | ok p =>
        simp only [hp] at h
        have a := length_lt_of_scanWhole hw
        have b := length_le_of_scanFraction hf
        have c := length_le_of_scanPower hp
        split at h
        · cases h; omega
        · cases h

/-- A number, after its sign. -/
def number (negative : Bool) : Reader Number := fun s =>
  match h : Numeral.read negative s with
  | .ok (n, rest) => .ok (n, ⟨rest, length_lt_of_read h⟩)
  | .error f => .error f

/-! ## Lists and objects -/

/-- What is particular to a kind of container: its closing bracket and how it fails. -/
structure Bracket where
  close : Char
  ended : Cause
  commaWanted : Cause

/-- The brackets of a list. -/
def Bracket.list : Bracket := ⟨']', .endInList, .listCommaWanted⟩

/-- The brackets of an object. -/
def Bracket.object : Bracket := ⟨'\x7d', .endInObject, .objectCommaWanted⟩

/-- The items behind an earlier one, up to the closing bracket; `before` holds the earlier ones in
reverse order. -/
def moreItems {α : Type} (b : Bracket) (item : Reader α) (before : List α) : Reader (List α) :=
  fun s =>
    match h : skipBlank s with
    | [] => .error (.before b.ended [])
    | c :: rest =>
      have shorter := length_lt_of_skipBlank h
      if c = b.close then .ok (before.reverse, ⟨rest, shorter⟩)
      else if c = ',' then
        match (skipBlank rest).head? with
        | some next =>
          if next = b.close then .error (.past .commaAtEnd (skipBlank rest))
          else do
            let (x, ⟨rest, _⟩) ← item rest
            let (xs, ⟨rest, _⟩) ← moreItems b item (x :: before) rest
            return (xs, ⟨rest, by omega⟩)
        | none => .error (.before .endInValue [])
      else .error (.past b.commaWanted (c :: rest))
termination_by s => s.length

/-- The items of a container, after its opening bracket. -/
def items {α : Type} (b : Bracket) (item : Reader α) : Reader (List α) := fun s =>
  match h : skipBlank s with
  | [] => .error (.before b.ended [])
  | c :: rest =>
    if c = b.close then .ok ([], ⟨rest, length_lt_of_skipBlank h⟩)
    else do
      let (x, ⟨rest, _⟩) ← item s
      let (xs, ⟨rest, _⟩) ← moreItems b item [x] rest
      return (xs, ⟨rest, by omega⟩)

/-- The name of a member. -/
def name : Reader String := fun s =>
  match h : skipBlank s with
  | [] => .error (.before .endInValue [])
  | c :: rest =>
    have shorter := length_lt_of_skipBlank h
    if c = '"' then do
      let (key, ⟨rest, _⟩) ← text rest
      return (key, ⟨rest, by omega⟩)
    else .error (.past .nameWanted (c :: rest))

/-- The colon behind a name. -/
def colon : Reader Unit := fun s =>
  match h : skipBlank s with
  | [] => .error (.before .endInObject [])
  | c :: rest =>
    if c = ':' then .ok ((), ⟨rest, length_lt_of_skipBlank h⟩)
    else .error (.past .colonWanted (c :: rest))

/-- A name, a colon and a value. -/
def member {α : Type} (value : Reader α) : Reader (String × α) := fun s => do
  let (key, ⟨rest, _⟩) ← name s
  let (_, ⟨rest, _⟩) ← colon rest
  let (v, ⟨rest, _⟩) ← value rest
  return ((key, v), ⟨rest, by omega⟩)

/-! ## Values -/

/-- A value, given the reader of the values inside it, if any deeper nesting is allowed. -/
def valueWith (inner : Option (Reader Value)) : Reader Value := fun s =>
  match h : skipBlank s with
  | [] => .error (.before .endInValue [])
  | c :: rest =>
    have shorter := length_lt_of_skipBlank h
    if c = 'n' then do
      let ⟨rest, _⟩ ← word ['u', 'l', 'l'] rest
      return (.null, ⟨rest, by omega⟩)
    else if c = 't' then do
      let ⟨rest, _⟩ ← word ['r', 'u', 'e'] rest
      return (.boolean true, ⟨rest, by omega⟩)
    else if c = 'f' then do
      let ⟨rest, _⟩ ← word ['a', 'l', 's', 'e'] rest
      return (.boolean false, ⟨rest, by omega⟩)
    else if c = '-' then do
      let (n, ⟨rest, _⟩) ← number true rest
      return (.number n, ⟨rest, by omega⟩)
    else if (digit? c).isSome then do
      let (n, ⟨rest, short⟩) ← number false (c :: rest)
      return (.number n, ⟨rest, by simp only [List.length_cons] at short; omega⟩)
    else if c = '"' then do
      let (t, ⟨rest, _⟩) ← text rest
      return (.text t, ⟨rest, by omega⟩)
    else if c = '[' then
      match inner with
      | none => .error (.past .nestedTooDeep (c :: rest))
      | some inner => do
        let (xs, ⟨rest, _⟩) ← items .list inner rest
        return (.list xs, ⟨rest, by omega⟩)
    else if c = '\x7b' then
      match inner with
      | none => .error (.past .nestedTooDeep (c :: rest))
      | some inner => do
        let (written, ⟨rest, _⟩) ← items .object (member inner) rest
        return (.object (Members.ofList written), ⟨rest, by omega⟩)
    else .error (.past .valueWanted (c :: rest))

/-- A value of depth at most `d`. -/
def value : (d : Nat) → Reader Value
  | 0 => valueWith none
  | d + 1 => valueWith (some (value d))

/-- How deep lists and objects may nest in a text. -/
def maxDepth : Nat := 127

/-- Reports what stands where `wanted` was expected. A list or an object is not looked into. -/
def mismatch (wanted : String) (s : List Char) : Failure :=
  let found {α : Type} (as : α → Found) : Except Failure (α × List Char) → Failure
    | .ok (x, rest) => .before (.mismatch (as x) wanted) rest
    | .error f => f
  match skipBlank s with
  | [] => .before .endInValue []
  | c :: rest =>
    if c = 'n' then
      found (fun _ : Unit => .null) ((word ['u', 'l', 'l'] rest).map fun r => ((), r.1))
    else if c = 't' then
      found .boolean ((word ['r', 'u', 'e'] rest).map fun r => (true, r.1))
    else if c = 'f' then
      found .boolean ((word ['a', 'l', 's', 'e'] rest).map fun r => (false, r.1))
    else if c = '-' then found .number (Numeral.read true rest)
    else if (digit? c).isSome then found .number (Numeral.read false (c :: rest))
    else if c = '"' then found .text ((text rest).map fun (t, r) => (t, r.1))
    else if c = '[' then .before (.mismatch .list wanted) (c :: rest)
    else if c = '\x7b' then .before (.mismatch .object wanted) (c :: rest)
    else .past .valueWanted (c :: rest)

/-- A list of values, each of depth at most `d`. -/
def list (d : Nat) : Reader (List Value) := fun s =>
  match h : skipBlank s with
  | '[' :: rest => do
    let (xs, ⟨rest, _⟩) ← items .list (value d) rest
    return (xs, ⟨rest, by have := length_lt_of_skipBlank h; omega⟩)
  | _ => .error (mismatch "a sequence" s)

/-- Reads a whole text: nothing but blank space may be left over. -/
def run {α : Type} (reader : Reader α) (text : String) : Except Error α :=
  let result := do
    let (x, ⟨rest, _⟩) ← reader text.toList
    match skipBlank rest with
    | [] => return x
    | other => throw (Failure.past .textAfterValue other)
  result.mapError (Error.ofFailure text)

end Reader

/-- Reads the one JSON value that a text holds. -/
def read (text : String) : Except Error Value := (Reader.value Reader.maxDepth).run text

/-- The JSON value that a text holds, if it holds one. -/
def read? (text : String) : Option Value := (read text).toOption

/-- Reads a text that holds a list. -/
def readList (text : String) : Except Error (List Value) :=
  (Reader.list (Reader.maxDepth - 1)).run text

end ScriptGate.Json
