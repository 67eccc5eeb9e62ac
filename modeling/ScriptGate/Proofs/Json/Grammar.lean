import ScriptGate.Proofs.Json.Object

/-!
# A grammar of JSON texts

`Spells d t v` says that the characters `t` are written for the value `v`, with at most `d` lists and
objects around each other. It says nothing of how a text is read: each rule puts the text of a whole
together from the texts of its parts. A value has many texts, since blank space is free, a character can
be escaped in several ways, and of several members with one name the last one counts.

The rules for containers (`Spaced`, `Listed`, `Enclosed`, `SpellsMember`) are those of any relation
between texts and items. A value of depth `d + 1` is a scalar, or a container with items of depth `d`.
-/

namespace ScriptGate.Json

/-! ## Texts -/

/-- A hexadecimal digit and its value; letters may be of either case. -/
def IsHex (c : Char) (n : Nat) : Prop := n < 16 ∧ (c = hexDigit n ∨ c = (hexDigit n).toUpper)

/-- Four hexadecimal digits and the code unit that they spell. -/
inductive SpellsUnit : List Char → Nat → Prop
  | digits {a b c d : Char} {w x y z : Nat} (first : IsHex a w) (second : IsHex b x)
    (third : IsHex c y) (fourth : IsHex d z) :
    SpellsUnit [a, b, c, d] (((w * 16 + x) * 16 + y) * 16 + z)

/-- The letters that can stand behind a backslash, each with the character that it stands for there. -/
def escapeLetters : List (Char × Char) :=
  [('"', '"'), ('\\', '\\'), ('/', '/'), ('b', '\x08'), ('f', '\x0c'), ('n', '\n'), ('r', '\r'),
    ('t', '\t')]

/-- How a character is spelled inside quotes: as itself, by a letter, by its code unit, or by the two
halves of a pair. Halves are no characters, so neither of them can stand alone. -/
inductive SpellsChar : List Char → Char → Prop
  | plain {c : Char} (visible : 32 ≤ c.toNat) (quote : c ≠ '"') (backslash : c ≠ '\\') :
    SpellsChar [c] c
  | letter {l c : Char} (known : (l, c) ∈ escapeLetters) : SpellsChar ['\\', l] c
  | unit {t : List Char} {c : Char} (code : SpellsUnit t c.toNat) : SpellsChar ('\\' :: 'u' :: t) c
  | pair {t t' : List Char} {high low : Nat} {c : Char} (first : SpellsUnit t high)
    (second : SpellsUnit t' low) (upper : 0xd800 ≤ high ∧ high ≤ 0xdbff)
    (lower : 0xdc00 ≤ low ∧ low ≤ 0xdfff)
    (code : c.toNat = 0x10000 + (high - 0xd800) * 0x400 + (low - 0xdc00)) :
    SpellsChar ('\\' :: 'u' :: (t ++ '\\' :: 'u' :: t')) c

/-- How characters are spelled inside quotes, one behind the other. -/
inductive SpellsChars : List Char → List Char → Prop
  | nil : SpellsChars [] []
  | cons {t ts : List Char} {c : Char} {cs : List Char} (first : SpellsChar t c)
    (others : SpellsChars ts cs) : SpellsChars (t ++ ts) (c :: cs)

/-- How a text is spelled: between quotes. -/
inductive SpellsText : List Char → String → Prop
  | quoted {t : List Char} {s : String} (inside : SpellsChars t s.toList) :
    SpellsText ('"' :: (t ++ ['"'])) s

/-! ## Scalars -/

/-- How a value is spelled that is neither list nor object. An integer that is kept exactly has one
token; every other token is a double, if it is not too large for one. -/
inductive SpellsScalar : List Char → Value → Prop
  | null : SpellsScalar ['n', 'u', 'l', 'l'] .null
  | yes : SpellsScalar ['t', 'r', 'u', 'e'] (.boolean true)
  | no : SpellsScalar ['f', 'a', 'l', 's', 'e'] (.boolean false)
  | whole (w : Whole) : SpellsScalar (intChars w.val) (.number (.whole w))
  | double {n : Numeral} {t : List Char} {x : Float} (token : n.Written t)
    (other : ∀ w : Whole, t ≠ intChars w.val) (inRange : n.double = .ok (.double x)) :
    SpellsScalar t (.number (.double x))
  | text {t : List Char} {s : String} (spelled : SpellsText t s) : SpellsScalar t (.text s)

/-! ## Containers -/

section Containers

variable {α : Type}

/-- What a relation says of a text, with blank space around the text. -/
inductive Spaced (P : List Char → α → Prop) : List Char → α → Prop
  | around {t : List Char} {x : α} (lead trail : Gap) (inside : P t x) :
    Spaced P (lead.val ++ (t ++ trail.val)) x

/-- Some items, at least one, with commas between them. -/
inductive Listed (P : List Char → α → Prop) : List Char → List α → Prop
  | single {t : List Char} {x : α} (item : Spaced P t x) : Listed P t [x]
  | more {t ts : List Char} {x : α} {xs : List α} (item : Spaced P t x) (others : Listed P ts xs) :
    Listed P (t ++ ',' :: ts) (x :: xs)

/-- What stands between the brackets of a container: items, or nothing but blank space. -/
inductive Enclosed (P : List Char → α → Prop) : List Char → List α → Prop
  | none (gap : Gap) : Enclosed P gap.val []
  | some {t : List Char} {xs : List α} (items : Listed P t xs) : Enclosed P t xs

/-- A name, a colon and a value. -/
inductive SpellsMember (P : List Char → α → Prop) : List Char → String × α → Prop
  | named {t u : List Char} {name : String} {x : α} (before behind : Gap) (label : SpellsText t name)
    (inside : P u x) :
    SpellsMember P (t ++ (before.val ++ ':' :: (behind.val ++ u))) (name, x)

end Containers

/-- An object by its members as they are written, in their order and with all that have one name. -/
inductive SpellsObject (P : List Char → Value → Prop) : List Char → List (String × Value) → Prop
  | braces {t : List Char} {written : List (String × Value)}
    (inside : Enclosed (SpellsMember P) t written) :
    SpellsObject P ('\x7b' :: (t ++ ['\x7d'])) written

/-! ## Values -/

/-- How a value is spelled, given how the values inside it are. -/
inductive SpellsAround (P : List Char → Value → Prop) : List Char → Value → Prop
  | scalar {t : List Char} {v : Value} (spelled : SpellsScalar t v) : SpellsAround P t v
  | list {t : List Char} {items : List Value} (inside : Enclosed P t items) :
    SpellsAround P ('[' :: (t ++ [']'])) (.list items)
  | object {t : List Char} {written : List (String × Value)} (spelled : SpellsObject P t written) :
    SpellsAround P t (.object (Members.ofList written))

/-- How a value is spelled with at most `d` lists and objects around each other. -/
def Spells : (d : Nat) → List Char → Value → Prop
  | 0 => SpellsScalar
  | d + 1 => SpellsAround (Spells d)

/-- Whether a text holds an object, with these members as they are written, whose values are spelled
with at most `d` lists and objects around each other. -/
def HoldsObject (d : Nat) (text : String) (written : List (String × Value)) : Prop :=
  Spaced (SpellsObject (Spells d)) text.toList written

/-- Whether a text holds a value, spelled with at most `d` lists and objects around each other, and
nothing else. -/
def HoldsValue (d : Nat) (text : String) (v : Value) : Prop := Spaced (Spells d) text.toList v

end ScriptGate.Json
