/-!
Lines of a stream of bytes.

A line ends at a line feed, and a carriage return just before it belongs to the end. What follows the last
line feed is a line of its own unless it is empty.
-/

namespace ScriptGate.Text

/-- A line without the carriage return at its end. -/
def chomp (line : List UInt8) : List UInt8 :=
  if line.getLast? = some 13 then line.dropLast else line

/-- The lines of some bytes; `line` is what was read of the current one, in reverse order. -/
def linesFrom (line : List UInt8) : List UInt8 → List (List UInt8)
  | [] => if line.isEmpty then [] else [line.reverse]
  | 10 :: rest => chomp line.reverse :: linesFrom [] rest
  | b :: rest => linesFrom (b :: line) rest

/-- The lines of some bytes. -/
def lines (bytes : List UInt8) : List (List UInt8) := linesFrom [] bytes

/-- The text that some bytes stand for in UTF-8. -/
def ofUtf8? (bytes : List UInt8) : Option String := String.fromUTF8? ⟨bytes.toArray⟩

end ScriptGate.Text
