import ScriptGate.Json.Printer
import ScriptGate.Text.Quoted

/-!
Why a text is not the JSON that was wanted, and where.

While reading, a failure remembers how many bytes of the text lie after it;
`Failure.locate` turns that into a line, which starts at one, and a column, the
number of bytes since the last line feed.
-/

namespace ScriptGate.Json

/-- What stood where something else was wanted. -/
inductive Found where
  | null
  | boolean (b : Bool)
  | number (n : Number)
  | text (s : String)
  | list
  | object

/-- What is wrong with a text. -/
inductive Cause where
  | endInValue
  | endInList
  | endInObject
  | endInText
  | colonWanted
  | listCommaWanted
  | objectCommaWanted
  | wordWanted
  | valueWanted
  | escapeUnknown
  | numberMalformed
  | numberTooLarge
  | controlInText
  | nameWanted
  | surrogateAlone
  | surrogateUnpaired
  | commaAtEnd
  | textAfterValue
  | nestedTooDeep
  | mismatch (found : Found) (wanted : String)
  | fieldMissing (name : String)
  | fieldRepeated (name : String)
  | lengthWrong (length : Nat) (wanted : String)

/-- How a diagnostic names what it found. -/
def Found.describe : Found → String
  | .null => "null"
  | .boolean b => "boolean \x60" ++ (if b then "true" else "false") ++ "\x60"
  | .number (.whole n) => "integer \x60" ++ String.ofList (intChars n.val) ++ "\x60"
  | .number (.double x) => "floating point \x60" ++ String.ofList (doubleChars x) ++ "\x60"
  | .text s => "string " ++ Text.quoted s
  | .list => "sequence"
  | .object => "map"

/-- The wording of a cause. -/
def Cause.describe : Cause → String
  | .endInValue => "EOF while parsing a value"
  | .endInList => "EOF while parsing a list"
  | .endInObject => "EOF while parsing an object"
  | .endInText => "EOF while parsing a string"
  | .colonWanted => "expected \x60:\x60"
  | .listCommaWanted => "expected \x60,\x60 or \x60]\x60"
  | .objectCommaWanted => "expected \x60,\x60 or \x60\x7d\x60"
  | .wordWanted => "expected ident"
  | .valueWanted => "expected value"
  | .escapeUnknown => "invalid escape"
  | .numberMalformed => "invalid number"
  | .numberTooLarge => "number out of range"
  | .controlInText =>
    "control character (\\u0000-\\u001F) found while parsing a string"
  | .nameWanted => "key must be a string"
  | .surrogateAlone => "lone leading surrogate in hex escape"
  | .surrogateUnpaired => "unexpected end of hex escape"
  | .commaAtEnd => "trailing comma"
  | .textAfterValue => "trailing characters"
  | .nestedTooDeep => "recursion limit exceeded"
  | .mismatch found wanted => "invalid type: " ++ found.describe ++ ", expected " ++ wanted
  | .fieldMissing name => "missing field \x60" ++ name ++ "\x60"
  | .fieldRepeated name => "duplicate field \x60" ++ name ++ "\x60"
  | .lengthWrong length wanted =>
    "invalid length " ++ toString length ++ ", expected " ++ wanted

/-- A cause, with the number of bytes that follow the place it refers to. -/
structure Failure where
  cause : Cause
  bytesLeft : Nat

/-- The bytes that characters take in UTF-8. -/
def byteCount (cs : List Char) : Nat := cs.foldr (fun c n => c.utf8Size + n) 0

namespace Failure

/-- A failure in front of `rest`. -/
def before (cause : Cause) (rest : List Char) : Failure := ⟨cause, byteCount rest⟩

/-- A failure just past the first byte of `rest`, or at the end of the text. -/
def past (cause : Cause) (rest : List Char) : Failure := ⟨cause, byteCount rest - 1⟩

end Failure

/-- What is wrong with a text and where. -/
structure Error where
  cause : Cause
  line : Nat
  column : Nat

namespace Error

/-- The line and the column behind some bytes. -/
def position (bytes : List UInt8) : Nat × Nat :=
  bytes.foldl
    (fun (place : Nat × Nat) b =>
      if b = 10 then (place.1 + 1, 0) else (place.1, place.2 + 1))
    (1, 0)

/-- A failure placed in the text it arose in. -/
def ofFailure (text : String) (failure : Failure) : Error :=
  let bytes := text.toUTF8.toList
  let (line, column) := position (bytes.take (bytes.length - failure.bytesLeft))
  ⟨failure.cause, line, column⟩

/-- The wording of an error with its place. -/
def message (e : Error) : String :=
  e.cause.describe ++ " at line " ++ toString e.line ++ " column " ++ toString e.column

end Error

end ScriptGate.Json
