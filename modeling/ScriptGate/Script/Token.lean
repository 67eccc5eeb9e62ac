import ScriptGate.Script.Position

/-!
The tokens of the script language.

Words that a script may not use as names are keywords, which the grammar uses, or
reserved words, which nothing uses. Signs are likewise either part of the grammar
or reserved. A place where no token can be read is a token of its own, so
that a fault is only reported once the parser gets there.
-/

namespace ScriptGate.Script

/-- Why no token can be read. -/
inductive LexFault where
  | unexpectedInput (text : String)
  | unterminatedText
  | textTooLong (limit : Nat)
  /-- The text is the escape as far as it was read. -/
  | malformedEscape (text : String)
  | malformedNumber (text : String)
  | malformedCharacter (text : String)
  | malformedName (text : String)
  /-- A sign or a word that has no place here, with a hint. -/
  | improperSign (sign hint : String)
  /-- A sign that stands where another one may have been meant. -/
  | signMistaken (sign : String)
deriving DecidableEq, Repr

/-- The words of the grammar. -/
inductive Keyword where
  | let_ | const | if_ | else_ | switch | while_ | loop | do_ | until_ | for_ | in_ | fn | private_
  | return_ | throw_ | try_ | catch_ | break_ | continue_ | import_ | export_ | as_
  | true_ | false_
deriving DecidableEq, Repr

/-- The signs of the grammar. -/
inductive Sign where
  | leftBrace | rightBrace | leftParen | rightParen | leftBracket | rightBracket
  | objectStart | unit | comma | semicolon | colon | doubleColon | doubleArrow | underscore
  | period | elvis | questionBracket | exclusiveRange | inclusiveRange | doubleQuestion
  | plus | minus | times | divide | modulo | power | shiftLeft | shiftRight
  | equal | notEqual | less | lessEqual | greater | greaterEqual | notIn
  | bang | both | either | ampersand | pipe | caret
  | assign | plusAssign | minusAssign | timesAssign | divideAssign | moduloAssign | powerAssign
  | shiftLeftAssign | shiftRightAssign | andAssign | orAssign | xorAssign
deriving DecidableEq, Repr

inductive Token where
  | integer (n : Int64)
  | double (x : Float)
  | character (c : Char)
  | text (s : String)
  | name (s : String)
  | keyword (k : Keyword)
  | sign (s : Sign)
  /-- A word or a sign that nothing uses. -/
  | reserved (s : String)
  | fault (f : LexFault)
  /-- The end of the source. -/
  | finish

/-- A token and the place where it begins. -/
abbrev Lexeme := Token × Position

/-! ## Spelling -/

/-- How a keyword is spelled. -/
def Keyword.text : Keyword → String
  | .let_ => "let" | .const => "const" | .if_ => "if" | .else_ => "else" | .switch => "switch"
  | .while_ => "while" | .loop => "loop" | .do_ => "do" | .until_ => "until" | .for_ => "for"
  | .in_ => "in" | .fn => "fn" | .private_ => "private" | .return_ => "return"
  | .throw_ => "throw" | .try_ => "try" | .catch_ => "catch" | .break_ => "break"
  | .continue_ => "continue" | .import_ => "import" | .export_ => "export" | .as_ => "as"
  | .true_ => "true" | .false_ => "false"

/-- All keywords. -/
def Keyword.all : List Keyword :=
  [.let_, .const, .if_, .else_, .switch, .while_, .loop, .do_, .until_, .for_, .in_, .fn, .private_,
    .return_, .throw_, .try_, .catch_, .break_, .continue_, .import_, .export_, .as_, .true_, .false_]

/-- How a sign is spelled. -/
def Sign.text : Sign → String
  | .leftBrace => "\x7b" | .rightBrace => "\x7d" | .leftParen => "(" | .rightParen => ")"
  | .leftBracket => "[" | .rightBracket => "]" | .objectStart => "#\x7b" | .unit => "()"
  | .comma => "," | .semicolon => ";" | .colon => ":" | .doubleColon => "::"
  | .doubleArrow => "=>" | .underscore => "_" | .period => "." | .elvis => "?."
  | .questionBracket => "?[" | .exclusiveRange => ".." | .inclusiveRange => "..="
  | .doubleQuestion => "??" | .plus => "+" | .minus => "-" | .times => "*" | .divide => "/"
  | .modulo => "%" | .power => "**" | .shiftLeft => "<<" | .shiftRight => ">>"
  | .equal => "==" | .notEqual => "!=" | .less => "<" | .lessEqual => "<=" | .greater => ">"
  | .greaterEqual => ">=" | .notIn => "!in" | .bang => "!" | .both => "&&" | .either => "||"
  | .ampersand => "&" | .pipe => "|" | .caret => "^" | .assign => "=" | .plusAssign => "+="
  | .minusAssign => "-=" | .timesAssign => "*=" | .divideAssign => "/=" | .moduloAssign => "%="
  | .powerAssign => "**=" | .shiftLeftAssign => "<<=" | .shiftRightAssign => ">>="
  | .andAssign => "&=" | .orAssign => "|=" | .xorAssign => "^="

/-- The signs that are read character by character, a longer one before its own beginning. -/
def Sign.bySize : List Sign :=
  [.powerAssign, .shiftLeftAssign, .shiftRightAssign, .inclusiveRange,
    .objectStart, .unit, .doubleColon, .doubleArrow, .elvis, .questionBracket, .exclusiveRange,
    .doubleQuestion, .power, .shiftLeft, .shiftRight, .equal, .notEqual, .lessEqual, .greaterEqual,
    .both, .either, .plusAssign, .minusAssign, .timesAssign, .divideAssign, .moduloAssign,
    .andAssign, .orAssign, .xorAssign,
    .leftBrace, .rightBrace, .leftParen, .rightParen, .leftBracket, .rightBracket, .comma,
    .semicolon, .colon, .period, .plus, .minus, .times, .divide, .modulo, .less, .greater, .bang,
    .ampersand, .pipe, .caret, .assign]

/-! ## What may follow -/

/-- Whether a minus sign after this token is the sign of a number. -/
def Sign.beginsOperand : Sign → Bool
  | .semicolon | .colon | .comma | .exclusiveRange | .inclusiveRange | .leftBrace | .leftParen
  | .leftBracket | .objectStart | .plus | .plusAssign | .minus | .minusAssign | .times | .timesAssign
  | .divide | .divideAssign | .modulo | .moduloAssign | .power | .powerAssign | .shiftLeft
  | .shiftRight | .shiftLeftAssign | .shiftRightAssign | .assign | .equal | .notEqual | .less
  | .greater | .bang | .lessEqual | .greaterEqual | .pipe | .ampersand | .notIn | .both | .either
  | .andAssign | .orAssign | .xorAssign | .caret => true
  | _ => false

/-- Whether a minus sign after this token is the sign of a number. -/
def Token.beginsOperand : Token → Bool
  | .sign s => s.beginsOperand
  | .keyword k => k ∈ [.if_, .while_, .until_, .in_, .return_, .throw_]
  | _ => false

/-! ## Names -/

/-- Whether a character can begin a word. -/
def isWordStart (c : Char) : Bool := c.isAlpha || c = '_'

/-- Whether a character can go on a word. -/
def isWordPart (c : Char) : Bool := c.isAlphanum || c = '_'

/-- Whether a word can be a name: the first character that is no underscore is a letter. -/
def isNameShaped (s : String) : Bool :=
  match s.toList.dropWhile (· = '_') with
  | c :: _ => c.isAlpha && s.toList.all isWordPart
  | [] => false

/-- Words that are no names although they are no keywords, apart from those that name a function. -/
def reservedWords : List String :=
  ["public", "protected", "super", "new", "use", "module", "package", "var", "static", "shared",
    "with", "is", "this", "goto", "match", "case", "default", "void", "null", "nil", "spawn", "thread",
    "go", "sync", "async", "await", "yield"]

/-- Words that are no names but may be called. -/
def reservedCalls : List String :=
  ["print", "debug", "type_of", "eval", "Fn", "call", "curry", "is_def_fn", "is_def_var", "is_shared"]

/-- Signs that nothing uses, a longer one before its own beginning. -/
def reservedSigns : List String :=
  ["===", "!==", "::<", "...", "# \x7b", "#!", ":=", ":;", "!.", "<-", "<|", "|>", "++", "--", "->", "*)",
    "(*", "~", "@", "#", "$", "?"]

/-- Whether a text is a word or a sign with a meaning of its own, so that no function can have it for its
name. -/
def isReservedText (s : String) : Bool :=
  Keyword.all.any (·.text = s) || Sign.bySize.any (·.text = s) || s = Sign.underscore.text ||
    reservedWords.contains s || reservedCalls.contains s || reservedSigns.contains s

/-- What is said about a reserved sign that another language uses: the sign, as it is quoted, and the
words behind it. -/
def signHint? : String → Option (String × String)
  | "===" => some ("===", " is not a valid operator. This is not JavaScript! Should it be '=='?")
  | "!==" => some ("!==", " is not a valid operator. This is not JavaScript! Should it be '!='?")
  | "->" => some ("->", " is not a valid symbol. This is not C or C++!")
  | "<-" => some ("<-", " is not a valid symbol. This is not Go! Should it be '<='?")
  | ":=" =>
    some (":=", " is not a valid assignment operator. This is not Go or Pascal! " ++
      "Should it be simply '='?")
  | ":;" => some (":;", " is not a valid symbol. Should it be '::'?")
  | "::<" => some ("::<>", " is not a valid symbol. This is not Rust! Should it be '::'?")
  | "(*" | "*)" =>
    some ("(* .. *)", " is not a valid comment format. This is not Pascal! " ++
      "Should it be '/* .. */'?")
  | "# \x7b" => some ("#", " is not a valid symbol. Should it be '#\x7b'?")
  | _ => none

/-- How a token is named in a diagnostic. -/
def Token.describe : Token → String
  | .integer n => toString n
  | .double _ => "number"
  | .character c => c.toString
  | .text s => s
  | .name s => s
  | .keyword k => k.text
  | .sign s => s.text
  | .reserved s => s
  | .fault _ => "fault"
  | .finish => "\x7bEOF\x7d"

end ScriptGate.Script
