import ScriptGate.Fault.Basic
import ScriptGate.Json.Skip

/-!
Reading back the report of a fault.

A report is an object in which `error_type` and `message` stand once, each with a text,
and `param` at most once, with a text or null; other members are passed over. A
list of these three in order is taken too. Everything is judged in the order of the text, so
the first thing wrong is the one reported.
-/

namespace ScriptGate

open Json (Cause Failure Value)
open Json.Reader

namespace FaultReport

/-- How a diagnostic names a report. -/
def shape : String := "struct ErrorInfo"

/-! ## Fields -/

/-- A member that must be a text. -/
def textField : Json.Reader String := fun s =>
  match h : skipBlank s with
  | '"' :: rest => do
    let (t, ⟨rest, _⟩) ← text rest
    return (t, ⟨rest, by have := length_lt_of_skipBlank h; omega⟩)
  | _ => .error (mismatch "a string" s)

/-- A member that must be a text or null. -/
def optionField : Json.Reader (Option String) := fun s =>
  match h : skipBlank s with
  | 'n' :: rest => do
    let ⟨rest, _⟩ ← word ['u', 'l', 'l'] rest
    return (none, ⟨rest, by have := length_lt_of_skipBlank h; omega⟩)
  | _ => do
    let (t, rest) ← textField s
    return (some t, rest)

/-- What has been read of a report. -/
structure Partial where
  kind : Option String
  message : Option String
  param : Option (Option String)

/-- The rest behind the closing brace, if that is what comes next; diagnostics about the
whole report refer to this place. -/
def closing (s : List Char) : List Char :=
  match skipBlank s with
  | '\x7d' :: rest => rest
  | rest => rest

/-- Reads the value of one member into a report; `rest` starts behind the member's name. -/
def readField (sofar : Partial) (name : String) (s : List Char) :
    Except Failure (Partial × { rest : List Char // rest.length < s.length }) :=
  let once (seen : Bool) (read : Json.Reader Partial) :
      Except Failure (Partial × { rest : List Char // rest.length < s.length }) :=
    if seen then throw (.before (.fieldRepeated name) (closing s))
    else do
      let (_, ⟨rest, short⟩) ← colon s
      let (filled, ⟨rest, shorter⟩) ← read rest
      return (filled, ⟨rest, length_lt_trans shorter short⟩)
  if name = "error_type" then
    once sofar.kind.isSome fun s => do
      let (t, rest) ← textField s
      return ({ sofar with kind := some t }, rest)
  else if name = "message" then
    once sofar.message.isSome fun s => do
      let (t, rest) ← textField s
      return ({ sofar with message := some t }, rest)
  else if name = "param" then
    once sofar.param.isSome fun s => do
      let (t, rest) ← optionField s
      return ({ sofar with param := some t }, rest)
  else do
    let (_, ⟨rest, short⟩) ← colon s
    let ⟨rest, shorter⟩ ← skip rest
    return (sofar, ⟨rest, length_lt_of_le_of_lt shorter short⟩)

/-- The report, once the closing brace has been seen in front of `rest`. -/
def complete (sofar : Partial) (rest : List Char) : Except Failure FaultReport :=
  match sofar.kind, sofar.message with
  | none, _ => throw (.before (.fieldMissing "error_type") rest)
  | _, none => throw (.before (.fieldMissing "message") rest)
  | some kind, some message => return ⟨kind, message, sofar.param.getD none⟩

/-! ## The two forms -/

/-- The members of a report up to the closing brace. `first` holds in front of the first one. -/
def readMembers (first : Bool) (sofar : Partial) (s : List Char) :
    Except Failure (FaultReport × List Char) :=
  match h : skipBlank s with
  | [] => throw (.before .endInObject [])
  | c :: rest =>
    have := length_lt_of_skipBlank h
    if c = '\x7d' then do
      let r ← complete sofar rest
      return (r, rest)
    else if first then do
      let (key, ⟨rest, _⟩) ← name s
      let (sofar, ⟨rest, _⟩) ← readField sofar key rest
      readMembers false sofar rest
    else if c = ',' then
      if (skipBlank rest).head? = some '\x7d' then throw (.past .commaAtEnd (skipBlank rest))
      else do
        let (key, ⟨rest, _⟩) ← name rest
        let (sofar, ⟨rest, _⟩) ← readField sofar key rest
        readMembers false sofar rest
    else throw (.past .objectCommaWanted (c :: rest))
termination_by s.length

/-- The next item of a list of fields, the one with the given index. -/
def nextItem {α : Type} (index : Nat) (field : Json.Reader α) (s : List Char) :
    Except Failure (α × List Char) :=
  let read (s : List Char) := (field s).map fun (x, rest) => (x, rest.1)
  match skipBlank s with
  | [] => throw (.before .endInList [])
  | c :: rest =>
    if c = ']' then
      throw (.before (.lengthWrong index (shape ++ " with 3 elements")) rest)
    else if index = 0 then read s
    else if c = ',' then
      if (skipBlank rest).head? = some ']' then throw (.past .commaAtEnd (skipBlank rest))
      else read rest
    else throw (.past .listCommaWanted (c :: rest))

/-- A report written as a list, after the opening bracket. -/
def readItems (s : List Char) : Except Failure (FaultReport × List Char) := do
  let (kind, rest) ← nextItem 0 textField s
  let (message, rest) ← nextItem 1 textField rest
  let (param, rest) ← nextItem 2 optionField rest
  match skipBlank rest with
  | [] => throw (.before .endInList [])
  | c :: rest =>
    if c = ']' then return (⟨kind, message, param⟩, rest)
    else if c = ',' then
      if (skipBlank rest).head? = some ']' then throw (.past .commaAtEnd (skipBlank rest))
      else throw (.past .textAfterValue (skipBlank rest))
    else throw (.past .textAfterValue (c :: rest))

/-- A report in either form, and the rest behind it. -/
def readForm (s : List Char) : Except Failure (FaultReport × List Char) :=
  match skipBlank s with
  | '[' :: rest => readItems rest
  | '\x7b' :: rest => readMembers true ⟨none, none, none⟩ rest
  | _ => throw (mismatch shape s)

/-- Reads the report that a text holds. -/
def read (text : String) : Except Json.Error FaultReport :=
  let result := do
    let (r, rest) ← readForm text.toList
    match skipBlank rest with
    | [] => return r
    | other => throw (Failure.past .textAfterValue other)
  result.mapError (Json.Error.ofFailure text)

end FaultReport

end ScriptGate
