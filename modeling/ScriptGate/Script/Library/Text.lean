import ScriptGate.Script.Library.Basic
import ScriptGate.Text.Blank
import ScriptGate.Text.LetterCase

/-!
Functions of texts. Lengths and indexes count characters.
-/

namespace ScriptGate.Script.Library

/-! ## Searching and splitting -/

/-- Where a text stands in another one for the first time, from an index on. -/
def find? (part : List Char) : (start : Nat) → List Char → Option Nat
  | start, [] => if part.isEmpty then some start else none
  | start, c :: rest =>
    if part.isPrefixOf (c :: rest) then some start else find? part (start + 1) rest

/-- The pieces of a text between the places where another one stands in it, which is not empty;
`piece` is what was read of the current piece, in reverse order. -/
def pieces (part : List Char) : (fuel : Nat) → (piece : List Char) → List Char → List (List Char)
  | 0, piece, s => [piece.reverse ++ s]
  | _, piece, [] => [piece.reverse]
  | fuel + 1, piece, c :: rest =>
    if part.isPrefixOf (c :: rest) then
      piece.reverse :: pieces part fuel [] ((c :: rest).drop part.length)
    else pieces part fuel (c :: piece) rest

/-- The pieces of a text between the places where another one stands in it. The empty text stands
before and behind every character. -/
def splitText (s part : String) : List String :=
  if part = "" then "" :: (s.toList.map Char.toString ++ [""])
  else (pieces part.toList (s.length + 1) [] s.toList).map String.ofList

/-- The pieces of a text between the places where another one stands in it, but no more than so many; the last
one is all that is left. -/
def splitFew (s part : String) (count : Int64) : List String :=
  let pieces := splitText s part
  let before := (max count 1).toInt.toNat - 1
  if pieces.length ≤ before + 1 then pieces
  else pieces.take before ++ [part.intercalate (pieces.drop before)]

/-- The words of a text. -/
def words (s : String) : List String :=
  let (word, seen) := s.toList.foldl
    (fun ((word, seen) : List Char × List (List Char)) c =>
      if Text.isBlank c then ([], if word.isEmpty then seen else word :: seen)
      else (c :: word, seen)) ([], [])
  ((if word.isEmpty then seen else word :: seen).reverse).map fun w => String.ofList w.reverse

/-- A text with every occurrence of another one replaced. -/
def replaceAll (s part new : String) : String := new.intercalate (splitText s part)

/-- An array of texts. -/
def texts (parts : List String) : Value := .array (parts.map .text)

/-! ## Parts -/

/-- The part of a text that begins at an index and has at most so many characters. -/
def subText (s : String) (start length : Int64) : String :=
  let cs := s.toList
  if start.toInt ≥ cs.length ∨ length ≤ 0 then ""
  else String.ofList ((cs.drop (position cs.length start)).take length.toInt.toNat)

/-- A text cut in two at an index; zero is the end, and a negative one counts from there. -/
def cutAt (s : String) (i : Int64) : List String :=
  let cs := s.toList
  let n := if i = 0 then cs.length else position cs.length i
  [String.ofList (cs.take n), String.ofList (cs.drop n)]

/-- Where a text stands in another one, from an index on, or minus one. There is nothing behind the last character,
not even the empty text. -/
def indexOf (s part : String) (start : Int64) : Int :=
  let cs := s.toList
  let origin := position cs.length start
  if cs.length ≤ origin then -1
  else match find? part.toList origin (cs.drop origin) with
  | some i => i
  | none => -1

/-! ## The functions -/

/-- The functions of one text. -/
def onText? (name s : String) : Option Effect :=
  match name with
  | "len" => some (.count s.length)
  | "is_empty" => some (.truth (s = ""))
  | "bytes" => some (.count s.utf8ByteSize)
  | "chars" => some (.value (.array (s.toList.map .character)))
  | "to_chars" => some (.value (.array (s.toList.map .character)))
  | "to_upper" => some (.text (Text.upper s))
  | "to_lower" => some (.text (Text.lower s))
  | "make_upper" => some (.become (.text (Text.upper s)))
  | "make_lower" => some (.become (.text (Text.lower s)))
  | "trim" => some (.become (.text (Text.trim s)))
  | "clear" => some (.become (.text ""))
  | "split" => some (.value (texts (if s = "" then [""] else words s)))
  | "pop" =>
    match s.toList.getLast? with
    | some c => some (.change (.text (String.ofList s.toList.dropLast)) (.ok (.character c)))
    | none => some (.change (.text "") (.ok .unit))
  | _ => none

/-- The functions of a text and another argument. -/
def onTextAnd? (name s : String) (arg : Value) : Option Effect :=
  let part? := match arg with
    | .text t => some t
    | .character c => some c.toString
    | _ => none
  match name, arg, part? with
  | "contains", _, some part => some (.truth (find? part.toList 0 s.toList).isSome)
  | "starts_with", .text part, _ => some (.truth (part.toList.isPrefixOf s.toList))
  | "ends_with", .text part, _ => some (.truth (part.toList.isSuffixOf s.toList))
  | "index_of", _, some part => some (.count (indexOf s part 0))
  | "split", _, some part => some (.value (texts (splitText s part)))
  | "split", .integer i, _ => some (.value (texts (cutAt s i)))
  | "remove", _, some part => some (.become (.text (replaceAll s part "")))
  | "append", _, some part => some (.become (.text (s ++ part)))
  | "sub_string", .integer start, _ => some (.text (subText s start (Int64.ofNat s.length)))
  | "sub_string", .range first last inclusive, _ =>
    let (start, length) := stretch s.length first last inclusive
    some (.text (String.ofList ((s.toList.drop start).take length)))
  | "truncate", .integer n, _ =>
    some (.become (.text (String.ofList (s.toList.take n.toInt.toNat))))
  | "pop", .integer n, _ =>
    let kept := s.length - n.toInt.toNat
    some (.change (.text (String.ofList (s.toList.take kept)))
      (.ok (.text (String.ofList (s.toList.drop kept)))))
  | "get", .integer i, _ =>
    some (.value (((index? s.length i).bind fun i => s.toList[i]?).map Value.character |>.getD .unit))
  | _, _, _ => none

/-- The functions of texts. -/
def onTexts? (name : String) (args : List Value) : Option Effect :=
  match name, args with
  | name, [.text s] => onText? name s
  | name, [.text s, arg] => onTextAnd? name s arg
  | "sub_string", [.text s, .integer start, .integer length] =>
    some (.text (subText s start length))
  | "index_of", [.text s, .text part, .integer start] => some (.count (indexOf s part start))
  | "index_of", [.text s, .character c, .integer start] =>
    some (.count (indexOf s c.toString start))
  | "split", [.text s, .text part, .integer count] =>
    some (.value (texts (splitFew s part count)))
  | "split", [.text s, .character c, .integer count] =>
    some (.value (texts (splitFew s c.toString count)))
  | "replace", [.text s, .text part, .text new] => some (.become (.text (replaceAll s part new)))
  | "to_upper", [.character c] =>
    some (.value (match (Text.upper c.toString).toList with
      | [d] => .character d
      | _ => .character c))
  | "to_lower", [.character c] =>
    some (.value (match (Text.lower c.toString).toList with
      | [d] => .character d
      | _ => .character c))
  | _, _ => none

end ScriptGate.Script.Library
