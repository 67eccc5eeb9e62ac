import ScriptGate.Decimal.Nearest
import ScriptGate.Script.Token
import ScriptGate.Text.Blank
import ScriptGate.Text.Numeral

/-!
Tokens of a source text.

The source is read as a list of characters that know their places. Every step takes at
least one character, so the length of the source bounds their number. A minus sign directly before a
digit belongs to the number unless the token before it ends an operand. Where no token
can be read there stands a fault, and reading goes on behind it.
-/

namespace ScriptGate.Script

/-- A character and its place. -/
abbrev Spot := Char × Position

namespace Lexer

/-- The characters of a text with their places, behind those seen before, which are in reverse order;
and the place after the last. -/
def spots (p : Position) (seen : List Spot) : List Char → List Spot × Position
  | [] => (seen.reverse, p)
  | c :: rest => spots (p.after c) ((c, p) :: seen) rest

/-! ## Blank space and comments -/

/-- Whether a character between tokens means nothing. -/
def isSpace (c : Char) : Bool := c = ' ' || c = '\t' || c = '\n' || c = '\r' || c = '\x0c'

/-- What follows the line that a comment is on, and the place after the last character, which was `stop`. A comment
also ends at a carriage return, which begins a new line then. -/
def skipLine (stop : Position) : List Spot → List Spot × Position
  | [] => ([], stop)
  | ('\n', _) :: rest => (rest, stop)
  | ('\r', _) :: ('\n', _) :: rest => (rest, stop)
  | ('\r', p) :: rest => spots p.nextLine [] (rest.map Prod.fst)
  | _ :: rest => skipLine stop rest

/-- What follows a block comment that is `depth + 1` deep; block comments nest. -/
def skipBlock : (depth : Nat) → List Spot → List Spot
  | depth, ('/', _) :: ('*', _) :: rest => skipBlock (depth + 1) rest
  | 0, ('*', _) :: ('/', _) :: rest => rest
  | depth + 1, ('*', _) :: ('/', _) :: rest => skipBlock depth rest
  | depth, _ :: rest => skipBlock depth rest
  | _, [] => []

/-! ## Quoted texts -/

/-- The value of a hexadecimal digit. -/
def hexDigit? (c : Char) : Option Nat :=
  if c.isDigit then some (c.toNat - 48)
  else if 'a' ≤ c ∧ c ≤ 'f' then some (c.toNat - 87)
  else if 'A' ≤ c ∧ c ≤ 'F' then some (c.toNat - 55)
  else none

/-- What a step inside quotes yields: what follows, or a fault at a place. -/
abbrev Quoted (α : Type) := Except (LexFault × Position) α × List Spot

/-- The character whose code has `count` more hexadecimal digits; `shown` is the escape so far and
`last` the place of its last character. -/
def codePoint (shown : List Char) (value : Nat) (last : Position) :
    (count : Nat) → List Spot → Quoted Char
  | 0, rest =>
    if value.isValidChar then (.ok (Char.ofNat value), rest)
    else (.error (.malformedEscape (String.ofList shown), last), rest)
  | _ + 1, [] => (.error (.malformedEscape (String.ofList shown), last), [])
  | count + 1, (c, p) :: rest =>
    let shown := shown ++ [c]
    match hexDigit? c with
    | some digit => codePoint shown (value * 16 + digit) p count rest
    | none => (.error (.malformedEscape (String.ofList shown), p), rest)

/-- The character that an escape stands for, or none for a line that goes on below. -/
def escape (close : Char) (goesOn : Bool) (slash : Position) : List Spot → Quoted (Option Char)
  | [] => (.ok none, [])
  | (c, p) :: rest =>
    let coded (count : Nat) : Quoted (Option Char) :=
      let (result, rest) := codePoint ['\\', c] 0 p count rest
      (result.map some, rest)
    if c = '\\' ∨ c = close then (.ok (some c), rest)
    else if c = 't' then (.ok (some '\t'), rest)
    else if c = 'n' then (.ok (some '\n'), rest)
    else if c = 'r' then (.ok (some '\r'), rest)
    else if c = 'x' then coded 2
    else if c = 'u' then coded 4
    else if c = 'U' then coded 8
    else if c = '\n' ∧ goesOn then (.ok none, rest)
    else if c = '\n' then (.error (.unterminatedText, slash), rest)
    else (.error (.malformedEscape (String.ofList ['\\', c]), p), rest)

/-- How a quoted text is delimited. -/
structure Quote where
  close : Char
  /-- Where the opening quote stands. -/
  opened : Position
  /-- Bytes a text may have; zero for any number. -/
  limit : Nat
  /-- Whether a backslash at the end of a line lets the text go on in the next one. -/
  goesOn : Bool

/-- The text up to the closing quote. `seen` holds what was read, in reverse order, and `size` its
bytes; blanks before the column `skip` belong to a line that goes on. -/
def quoted (q : Quote) :
    (fuel size : Nat) → (seen : List Char) → (skip : Nat) → List Spot → Quoted String
  | 0, _, _, _, rest => (.error (.unterminatedText, q.opened), rest)
  | fuel + 1, size, seen, skip, rest =>
    if 0 < q.limit ∧ q.limit < size then (.error (.textTooLong q.limit, q.opened), rest)
    else match rest with
      | [] => (.error (.unterminatedText, q.opened), [])
      | (c, p) :: rest =>
        let push (c : Char) (rest : List Spot) : Quoted String :=
          quoted q fuel (size + c.utf8Size) (c :: seen) 0 rest
        if c = q.close then
          match rest with
          | (d, _) :: more => if d = q.close then push c more else (.ok (String.ofList seen.reverse), rest)
          | [] => (.ok (String.ofList seen.reverse), [])
        else if c = '\r' ∧ (rest.head?.map Prod.fst) = some '\n' then
          quoted q fuel size seen skip rest
        else if c = '\\' then
          let rest := match rest with
            | ('\r', _) :: ('\n', p) :: more => ('\n', p) :: more
            | rest => rest
          match escape q.close q.goesOn q.opened rest with
          | (.ok (some c), more) => push c more
          | (.ok none, more) => quoted q fuel size seen (q.opened.column + 1) more
          | (.error e, more) => (.error e, more)
        else if c = '\n' then (.error (.unterminatedText, q.opened), rest)
        else if Text.isBlank c ∧ p.column < skip then quoted q fuel size seen skip rest
        else push c rest

/-- A text in double quotes, after the opening one. -/
def text (limit : Nat) (opened : Position) (rest : List Spot) : Lexeme × List Spot :=
  match quoted ⟨'"', opened, limit, true⟩ (rest.length + 1) 0 [] 0 rest with
  | (.ok s, rest) => ((.text s, opened), rest)
  | (.error (fault, p), rest) => ((.fault fault, p), rest)

/-- A character in single quotes, after the opening one. -/
def character (limit : Nat) (opened : Position) : List Spot → Lexeme × List Spot
  | ('\'', _) :: rest => ((.fault (.malformedCharacter ""), opened), rest)
  | rest =>
    match quoted ⟨'\'', opened, limit, false⟩ (rest.length + 1) 0 [] 0 rest with
    | (.ok s, rest) =>
      match s.toList with
      | [c] => ((.character c, opened), rest)
      | _ => ((.fault (.malformedCharacter s), opened), rest)
    | (.error (fault, p), rest) => ((.fault fault, p), rest)

/-! ## Numbers -/

/-- The characters of a decimal numeral behind those seen before, which are in reverse order:
digits, underscores, which do not count, at most one point and at most one power of ten. -/
def decimalChars (hasPoint hasPower : Bool) (seen : List Char) : List Spot → List Char × List Spot
  | [] => (seen.reverse, [])
  | [(c, p)] =>
    if c = '_' then (seen.reverse, [])
    else if c.isDigit then ((c :: seen).reverse, [])
    else (seen.reverse, [(c, p)])
  | (c, p) :: (next, q) :: rest =>
    if c = '_' then decimalChars hasPoint hasPower seen ((next, q) :: rest)
    else if c.isDigit then decimalChars hasPoint hasPower (c :: seen) ((next, q) :: rest)
    else if c = '.' ∧ !hasPoint then
      if next.isDigit then decimalChars true hasPower (c :: seen) ((next, q) :: rest)
      else if next = '_' ∨ next = '.' ∨ next.isAlpha then
        (seen.reverse, (c, p) :: (next, q) :: rest)
      else decimalChars true hasPower ('0' :: c :: seen) ((next, q) :: rest)
    else if (c = 'e' ∨ c = 'E') ∧ !hasPower then
      if next.isDigit then decimalChars true true (c :: seen) ((next, q) :: rest)
      else if next = '+' ∨ next = '-' then decimalChars true true (next :: c :: seen) rest
      else (seen.reverse, (c, p) :: (next, q) :: rest)
    else (seen.reverse, (c, p) :: (next, q) :: rest)

/-- The digits of a numeral in a base of its own; underscores do not count. -/
def baseChars (base : Nat) (seen : List Char) : List Spot → List Char × List Spot
  | [] => (seen.reverse, [])
  | (c, p) :: rest =>
    if c = '_' then baseChars base seen rest
    else if (hexDigit? c).any (· < base) then baseChars base (c :: seen) rest
    else (seen.reverse, (c, p) :: rest)

/-- The base that a letter after a leading zero announces. -/
def base? (c : Char) : Option Nat :=
  if c = 'x' ∨ c = 'X' then some 16
  else if c = 'o' ∨ c = 'O' then some 8
  else if c = 'b' ∨ c = 'B' then some 2
  else none

/-- The token of an integer: what does not fit 64 bits is a double. -/
def ofInt (i : Int) : Token :=
  if -0x8000000000000000 ≤ i ∧ i < 0x8000000000000000 then .integer (Int64.ofInt i)
  else
    let magnitude := Decimal.toFloat ⟨i.natAbs, 0⟩
    .double (if i < 0 then -magnitude else magnitude)

/-- The token of a decimal numeral. -/
def ofDecimal (negative : Bool) (chars : List Char) : Token :=
  if chars.all Char.isDigit then
    let n : Int := Decimal.ofDigits 0 chars
    if negative ∧ n = 0 then .integer 0 else ofInt (if negative then -n else n)
  else match Decimal.parse? chars with
    | some d => .double (if negative then -d.toFloat else d.toFloat)
    | none => .fault (.malformedNumber (String.ofList ((if negative then ['-'] else []) ++ chars)))

/-- The token of a numeral in a base of its own: 64 bits, read as a signed number. Such a numeral has no
sign; one that has is shown from the letter of its base on. -/
def ofBase (negative : Bool) (mark : Char) (base : Nat) (chars : List Char) : Token :=
  if negative then .fault (.malformedNumber (String.ofList (mark :: chars)))
  else match Text.digits base 0xffffffffffffffff .tooLarge chars with
    | .ok n => .integer (Int64.ofInt n)
    | .error _ => .fault (.malformedNumber (String.ofList chars))

/-- A number, from its first digit. -/
def number (negative : Bool) (first : Char) (rest : List Spot) : Token × List Spot :=
  let decimal : Token × List Spot :=
    let (chars, rest) := decimalChars false false [first] rest
    (ofDecimal negative chars, rest)
  match rest.dropWhile fun spot => spot.1 = '_' with
  | (mark, _) :: more =>
    if first = '0' then
      match base? mark with
      | some base =>
        let (chars, rest) := baseChars base [] more
        (ofBase negative mark base chars, rest)
      | none => decimal
    else decimal
  | [] => decimal

/-! ## Words and signs -/

/-- The token of a word. -/
def ofWord (s : String) : Token :=
  if s = "_" then .sign .underscore
  else match Keyword.all.find? fun k => k.text = s with
    | some k => .keyword k
    | none =>
      if s ∈ reservedWords ∨ s ∈ reservedCalls then .reserved s
      else if isNameShaped s then .name s
      else .fault (.malformedName s)

/-- The token of a reserved sign. -/
def ofReservedSign (s : String) : Token :=
  match signHint? s with
  | some (sign, hint) => .fault (.improperSign sign hint)
  | none => .reserved s

/-- Whether a text begins with the given letters. -/
def beginsWith (letters : String) (s : List Spot) : Bool :=
  letters.toList.isPrefixOf (s.map Prod.fst |>.take letters.length)

/-- The longest sign that a text begins with, and its length. -/
def sign? (s : List Spot) : Option (Token × Nat) :=
  let used := (Sign.bySize.find? fun sign => beginsWith sign.text s).map fun sign =>
    (Token.sign sign, sign.text.length)
  let unused := (reservedSigns.find? fun sign => beginsWith sign s).map fun sign =>
    (ofReservedSign sign, sign.length)
  match used, unused with
  | some a, some b => if a.2 < b.2 then some b else some a
  | some a, none => some a
  | none, b => b

/-! ## The whole source -/

/-- The token that a text begins with, which is neither blank nor a comment. -/
def next (limit : Nat) (operand : Bool) (c : Char) (p : Position) (rest : List Spot) :
    Lexeme × List Spot :=
  if c.isDigit then
    let (token, rest) := number false c rest
    ((token, p), rest)
  else if isWordStart c then
    let word := c :: (rest.takeWhile fun spot => isWordPart spot.1).map Prod.fst
    ((ofWord (String.ofList word), p), rest.dropWhile fun spot => isWordPart spot.1)
  else if c = '"' then text limit p rest
  else if c = '\'' then character limit p rest
  else
    let ofSign : Lexeme × List Spot :=
      match sign? ((c, p) :: rest) with
      | some (token, length) => ((token, p), rest.drop (length - 1))
      | none => ((.fault (.unexpectedInput c.toString), p), rest)
    match c, rest with
    | '-', (d, _) :: more =>
      if d.isDigit ∧ operand then
        let (token, rest) := number true d more
        ((token, p), rest)
      else ofSign
    | '!', ('i', _) :: ('n', _) :: more =>
      if more.head?.any fun spot => isWordPart spot.1 then ofSign else ((.sign .notIn, p), more)
    | _, _ => ofSign

/-- The tokens of a text behind those seen before, which are in reverse order, and the place where it ends, which
is `stop` as far as is known. `operand` tells whether a number with a sign may come next. -/
def scanFrom (limit : Nat) :
    (fuel : Nat) → (operand : Bool) → (stop : Position) → (seen : List Lexeme) → List Spot →
      List Lexeme × Position
  | 0, _, stop, seen, _ => (seen.reverse, stop)
  | _, _, stop, seen, [] => (seen.reverse, stop)
  | fuel + 1, operand, stop, seen, (c, p) :: rest =>
    if isSpace c then scanFrom limit fuel operand stop seen rest
    else match c, rest with
      | '/', ('/', _) :: rest =>
        let (rest, stop) := skipLine stop rest
        scanFrom limit fuel operand stop seen rest
      | '/', ('*', _) :: rest => scanFrom limit fuel operand stop seen (skipBlock 0 rest)
      | c, rest =>
        let (lexeme, rest) := next limit operand c p rest
        scanFrom limit fuel lexeme.1.beginsOperand stop (lexeme :: seen) rest

end Lexer

/-- The tokens of a source text, and the place where it ends. A text between quotes may have `limit`
bytes, or any number if that is zero. -/
def Token.scan (limit : Nat) (source : String) : List Lexeme × Position :=
  let (spots, stop) := Lexer.spots .start [] source.toList
  Lexer.scanFrom limit (spots.length + 1) true stop [] spots

end ScriptGate.Script
