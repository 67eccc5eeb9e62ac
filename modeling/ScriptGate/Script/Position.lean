/-!
Places in a source text: lines and columns, both counted from one. A column counts
characters, and a line feed is the last character of its line. Neither is counted beyond sixteen bits.
-/

namespace ScriptGate.Script

structure Position where
  line : Nat
  column : Nat
deriving DecidableEq, Repr

namespace Position

/-- Where a text begins. -/
def start : Position := ⟨1, 1⟩

/-- The last line and the last column that are told apart from those after them. -/
def last : Nat := 65535

/-- The first place of the next line. -/
def nextLine (p : Position) : Position :=
  if p.line < last then ⟨p.line + 1, 1⟩ else ⟨p.line, min (p.column + 1) last⟩

/-- The place after a character. -/
def after (p : Position) (c : Char) : Position :=
  if c = '\n' then p.nextLine else ⟨p.line, min (p.column + 1) last⟩

/-- How a place is told to a reader. -/
def render (p : Position) : String :=
  "line " ++ toString p.line ++ ", position " ++ toString p.column

end Position

/-- The end of a diagnostic: the place in brackets, or nothing for a diagnostic without one. -/
def placeSuffix : Option Position → String
  | some p => " (" ++ p.render ++ ")"
  | none => ""

end ScriptGate.Script
