import ScriptGate.Json.Reader

/-!
Passing over a JSON value nobody asked for.

Skipping checks the shape of the text but builds nothing: it knows no nesting limit, takes
numbers of any size and does not pair up surrogates. It keeps the brackets that are still
open in a list of its own.
-/

namespace ScriptGate.Json.Reader

/-- Passes over an escape, after its backslash. -/
def skipEscape : Reader Unit
  | [] => .error (.before .endInText [])
  | c :: rest =>
    if c = 'u' then do
      let (_, ⟨rest, short⟩) ← codeUnit rest
      return ((), ⟨rest, length_lt_cons_of_lt short⟩)
    else match lettered? c with
      | some _ => .ok ((), ⟨rest, length_lt_cons c rest⟩)
      | none => .error (.past .escapeUnknown (c :: rest))

/-- Passes over a text, after its opening quote. -/
def skipText : Reader Unit := fun s =>
  match s with
  | [] => .error (.before .endInText [])
  | c :: rest =>
    if c = '"' then .ok ((), ⟨rest, length_lt_cons c rest⟩)
    else if c = '\\' then do
      let (_, ⟨rest, short⟩) ← skipEscape rest
      let (_, ⟨rest, shorter⟩) ← skipText rest
      have short := length_lt_trans shorter short
      return ((), ⟨rest, length_lt_cons_of_lt short⟩)
    else if c.toNat < 32 then .error (.before .controlInText (c :: rest))
    else do
      let (_, ⟨rest, short⟩) ← skipText rest
      return ((), ⟨rest, length_lt_cons_of_lt short⟩)
termination_by s => s.length

theorem length_lt_of_scan {negative : Bool} {s rest : List Char} {n : Numeral}
    (h : Numeral.scan negative s = .ok (n, rest)) : rest.length < s.length := by
  simp only [Numeral.scan, bind, Except.bind, pure, Except.pure] at h
  cases hw : Numeral.scanWhole s with
  | error f => rw [hw] at h; cases h
  | ok w =>
    rw [hw] at h
    cases hf : Numeral.scanFraction w.2 with
    | error f => simp only [hf] at h; cases h
    | ok f =>
      simp only [hf] at h
      cases hp : Numeral.scanPower f.2 with
      | error f => simp only [hp] at h; cases h
      | ok p =>
        simp only [hp] at h
        have a := length_lt_of_scanWhole hw
        have b := length_le_of_scanFraction hf
        have c := length_le_of_scanPower hp
        cases h
        omega

/-- Passes over a number, after its sign. -/
def skipNumber : Reader Unit := fun s =>
  match h : Numeral.scan false s with
  | .ok (_, rest) => .ok ((), ⟨rest, length_lt_of_scan h⟩)
  | .error f => .error { f with cause := .numberMalformed }

/-- Passes over a value that is neither list nor object, if one stands here. -/
def skipScalar (c : Char) (rest : List Char) :
    Except Failure { r : List Char // r.length ≤ rest.length } :=
  if c = 'n' then word ['u', 'l', 'l'] rest
  else if c = 't' then word ['r', 'u', 'e'] rest
  else if c = 'f' then word ['a', 'l', 's', 'e'] rest
  else if c = '-' then do
    let (_, ⟨rest, _⟩) ← skipNumber rest
    return ⟨rest, by omega⟩
  else if (digit? c).isSome then do
    let (_, ⟨rest, short⟩) ← skipNumber (c :: rest)
    return ⟨rest, by simp only [List.length_cons] at short; omega⟩
  else if c = '"' then do
    let (_, ⟨rest, _⟩) ← skipText rest
    return ⟨rest, by omega⟩
  else throw (.past .valueWanted (c :: rest))

/-- Where skipping stands. -/
inductive Skipping where
  /-- A value has to follow. -/
  | value
  /-- A bracket was just opened. -/
  | opened
  /-- A value was just passed. -/
  | passed
deriving DecidableEq

/-- How many steps may pass before the next character is taken. -/
def Skipping.delay : Skipping → Nat
  | .opened => 1
  | _ => 0

/-- Passes over the name and the colon of a member; in a list there are none. -/
def skipName (isObject : Bool) (s : List Char) :
    Except Failure { rest : List Char // rest.length ≤ s.length } :=
  if isObject then
    match h : skipBlank s with
    | [] => .error (.before .endInObject [])
    | c :: rest =>
      have shorter := length_lt_of_skipBlank h
      if c = '"' then do
        let (_, ⟨rest, short⟩) ← skipText rest
        have short := length_lt_trans short shorter
        let (_, ⟨rest, shorter⟩) ← colon rest
        have short := length_lt_trans shorter short
        return ⟨rest, length_le_of_lt short⟩
      else .error (.past .nameWanted (c :: rest))
  else .ok ⟨s, length_le_refl s⟩

/-- Passes over what is left of a value when the brackets around it are `around`, the
innermost first; each tells whether it is that of an object. -/
def skipFrom (state : Skipping) (around : List Bool) (s : List Char) :
    Except Failure { rest : List Char // rest.length ≤ s.length } :=
  match state, around with
  | .value, around =>
    match h : skipBlank s with
    | [] => .error (.before .endInValue [])
    | c :: rest => do
      have shorter := length_lt_of_skipBlank h
      if c = '[' ∨ c = '\x7b' then
        let ⟨rest, short⟩ ← skipFrom .opened ((c = '\x7b') :: around) rest
        return ⟨rest, length_le_of_le_of_lt short shorter⟩
      else
        let ⟨rest, short⟩ ← skipScalar c rest
        have shorter := length_lt_of_le_of_lt short shorter
        let ⟨rest, short⟩ ← skipFrom .passed around rest
        return ⟨rest, length_le_of_le_of_lt short shorter⟩
  | _, [] => .ok ⟨s, length_le_refl s⟩
  | state, isObject :: outer =>
    let b := if isObject then Bracket.object else Bracket.list
    match h : skipBlank s with
    | [] => .error (.before b.ended [])
    | c :: rest => do
      have shorter := length_lt_of_skipBlank h
      if c = b.close then
        let ⟨rest, short⟩ ← skipFrom .passed outer rest
        return ⟨rest, length_le_of_le_of_lt short shorter⟩
      else if state = .opened then
        let ⟨rest, short⟩ ← skipName isObject (c :: rest)
        have short := length_le_of_le_cons short shorter
        let ⟨rest, shorter⟩ ← skipFrom .value (isObject :: outer) rest
        return ⟨rest, length_le_trans shorter short⟩
      else if c = ',' then
        let ⟨rest, short⟩ ← skipName isObject rest
        have shorter := length_lt_of_le_of_lt short shorter
        let ⟨rest, short⟩ ← skipFrom .value (isObject :: outer) rest
        return ⟨rest, length_le_of_le_of_lt short shorter⟩
      else throw (.past b.commaWanted (c :: rest))
termination_by 2 * s.length + state.delay
decreasing_by
  all_goals first
    | simp only [Skipping.delay]; omega
    | simp only [*, Skipping.delay]; omega

/-- Passes over one value. -/
def skip (s : List Char) : Except Failure { rest : List Char // rest.length ≤ s.length } :=
  skipFrom .value [] s

end ScriptGate.Json.Reader
