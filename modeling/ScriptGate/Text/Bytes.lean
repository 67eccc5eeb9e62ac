/-!
The text that bytes stand for in UTF-8.

Bytes that are no text are replaced: each longest stretch that could have begun a character but does not go
on as one becomes a single replacement character.
-/

namespace ScriptGate.Text

namespace Bytes

/-- A character of which some bytes are still missing. -/
structure Pending where
  /-- How many bytes are missing. -/
  missing : Nat
  /-- The code so far. -/
  code : Nat
  /-- The least value that the next byte may have. -/
  least : UInt8
  /-- The greatest value that the next byte may have. -/
  greatest : UInt8

/-- Stands for bytes that are no text. -/
def replacement : Char := '\uFFFD'

/-- What the first byte of a character makes known: the characters that are complete, and what is
pending. -/
def first (b : UInt8) : List Char × Option Pending :=
  let n := b.toNat
  if b < 0x80 then ([Char.ofNat n], none)
  else if b < 0xC2 then ([replacement], none)
  else if b < 0xE0 then ([], some ⟨1, n - 0xC0, 0x80, 0xBF⟩)
  else if b < 0xF0 then
    ([], some ⟨2, n - 0xE0, if b = 0xE0 then 0xA0 else 0x80, if b = 0xED then 0x9F else 0xBF⟩)
  else if b < 0xF5 then
    ([], some ⟨3, n - 0xF0, if b = 0xF0 then 0x90 else 0x80, if b = 0xF4 then 0x8F else 0xBF⟩)
  else ([replacement], none)

/-- The characters of bytes, behind a character that is pending. -/
def characters : Option Pending → List UInt8 → List Char
  | none, [] => []
  | some _, [] => [replacement]
  | none, b :: rest =>
    let (complete, pending) := first b
    complete ++ characters pending rest
  | some p, b :: rest =>
    if p.least ≤ b ∧ b ≤ p.greatest then
      let code := p.code * 64 + (b.toNat - 0x80)
      if p.missing ≤ 1 then Char.ofNat code :: characters none rest
      else characters (some ⟨p.missing - 1, code, 0x80, 0xBF⟩) rest
    else
      let (complete, pending) := first b
      replacement :: complete ++ characters pending rest

end Bytes

/-- The text of bytes. -/
def ofBytes (bytes : List UInt8) : String := String.ofList (Bytes.characters none bytes)

end ScriptGate.Text
