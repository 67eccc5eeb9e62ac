import Mathlib.Data.List.TakeWhile
import ScriptGate.Text.Blank
import ScriptGate.Text.Lines

/-!
# Lines of a stream

The lines of some bytes are the pieces between their line feeds: each piece in front of a line feed
without the carriage return at its end, and the last piece as it is, unless it is empty
(`Text.lines_eq_ofPieces`). So the lines of what ends in a line feed stay the same whatever follows
(`Text.lines_append`).
-/

namespace ScriptGate.Text

/-! ## Pieces -/

/-- The lines that the pieces between line feeds make. -/
def ofPieces (pieces : List (List UInt8)) : List (List UInt8) :=
  pieces.dropLast.map chomp ++ pieces.getLast?.toList.filter (· ≠ [])

theorem ofPieces_cons (piece : List UInt8) {pieces : List (List UInt8)} (more : pieces ≠ []) :
    ofPieces (piece :: pieces) = chomp piece :: ofPieces pieces := by
  obtain ⟨next, rest, rfl⟩ := List.exists_cons_of_ne_nil more
  simp [ofPieces]

/-- What was read of a line belongs to the first piece of what follows. -/
theorem linesFrom_eq_ofPieces (line bytes : List UInt8) :
    linesFrom line bytes = ofPieces ((bytes.splitOn 10).modifyHead (line.reverse ++ ·)) := by
  -- The bytes of the current line move to `line` one by one, so that has to vary.
  induction bytes generalizing line with
  | nil =>
    cases line with
    | nil => rfl
    | cons b line => simp [linesFrom, ofPieces]
  | cons b rest ih =>
    rw [List.splitOn_cons_eq_if_modifyHead]
    by_cases ended : b = 10
    · subst ended
      have start : (rest.splitOn 10).modifyHead (([] : List UInt8).reverse ++ ·) =
          rest.splitOn 10 := by
        cases rest.splitOn 10 <;> rfl
      rw [linesFrom, ih, start, if_pos (by decide), List.modifyHead_cons, List.append_nil,
        ofPieces_cons _ (List.splitOn_ne_nil 10 rest)]
    · have goesOn : linesFrom line (b :: rest) = linesFrom (b :: line) rest := by
        rw [linesFrom]
        exact ended
      rw [goesOn, ih, if_neg (by simpa using ended), List.modifyHead_modifyHead]
      simp only [Function.comp_def, List.reverse_cons, List.append_assoc, List.singleton_append]

/-- The lines of some bytes are made by the pieces between their line feeds. -/
theorem lines_eq_ofPieces (bytes : List UInt8) : lines bytes = ofPieces (bytes.splitOn 10) := by
  rw [lines, linesFrom_eq_ofPieces]
  cases bytes.splitOn 10 <;> rfl

theorem linesFrom_append (line front rest : List UInt8) :
    linesFrom line (front ++ 10 :: rest) = linesFrom line (front ++ [10]) ++ lines rest := by
  induction front generalizing line with
  | nil => rfl
  | cons b front ih =>
    by_cases ended : b = 10
    · subst ended
      simp only [List.cons_append, linesFrom, ih]
    · have goesOn (more : List UInt8) :
          linesFrom line (b :: more) = linesFrom (b :: line) more := by
        rw [linesFrom]
        exact ended
      rw [List.cons_append, List.cons_append, goesOn, goesOn, ih]

/-- Whether some bytes end where a line does. -/
def EndsLine (bytes : List UInt8) : Prop := bytes = [] ∨ bytes.getLast? = some 10

/-- What ends where a line does has the same lines whatever follows. -/
theorem lines_append {front : List UInt8} (ends : EndsLine front) (rest : List UInt8) :
    lines (front ++ rest) = lines front ++ lines rest := by
  rcases ends with rfl | ends
  · rfl
  · obtain ⟨before, rfl⟩ := List.getLast?_eq_some_iff.mp ends
    rw [List.append_assoc, List.singleton_append]
    exact linesFrom_append [] before rest

/-! ## Texts and blank lines -/

theorem allBlank_iff {s : String} : allBlank s = true ↔ ∀ c ∈ s.toList, isBlank c = true :=
  List.all_eq_true

/-- A text is trimmed to nothing if there is nothing but white space in it. -/
theorem trim_eq_empty_iff {s : String} : trim s = "" ↔ allBlank s = true := by
  rw [trim, allBlank_iff, ← String.ofList_nil, String.ofList_inj, List.reverse_eq_nil_iff,
    List.dropWhile_eq_nil_iff]
  constructor
  · intro blank
    have nothing : s.toList.dropWhile isBlank = [] := by
      cases rest : s.toList.dropWhile isBlank with
      | nil => rfl
      | cons c tail =>
        -- The front is trimmed first, so what is left of it would begin with a visible character.
        have visible := List.head?_dropWhile_not isBlank s.toList
        rw [rest] at visible blank
        have invisible := blank c (List.mem_reverse.mpr List.mem_cons_self)
        exact absurd invisible (Bool.eq_false_iff.mp visible)
    exact List.dropWhile_eq_nil_iff.mp nothing
  · intro blank c found
    exact blank c ((List.dropWhile_suffix isBlank).subset (List.mem_reverse.mp found))

/-- The texts of the lines before the first one that is no text. -/
def readable (lines : List (List UInt8)) : List String :=
  ((lines.map ofUtf8?).takeWhile Option.isSome).filterMap id

/-- The texts of the lines before the first one that is no text, without the blank ones. -/
def requests (lines : List (List UInt8)) : List String :=
  (readable lines).filter fun text => trim text ≠ ""

/-- Whether a line is a text that is blank. -/
def isBlankLine (line : List UInt8) : Bool := (ofUtf8? line).any fun text => trim text = ""

section Requests

variable {line : List UInt8} {lines : List (List UInt8)} {text : String}

theorem requests_cons_none (unreadable : ofUtf8? line = none) : requests (line :: lines) = [] := by
  simp [requests, readable, unreadable]

theorem requests_cons_blank (found : ofUtf8? line = some text) (blank : allBlank text = true) :
    requests (line :: lines) = requests lines := by
  simp [requests, readable, found, trim_eq_empty_iff.mpr blank]

theorem requests_cons_some (found : ofUtf8? line = some text) (visible : allBlank text ≠ true) :
    requests (line :: lines) = text :: requests lines := by
  have notEmpty : trim text ≠ "" := fun empty => visible (trim_eq_empty_iff.mp empty)
  simp [requests, readable, found, notEmpty]

/-- Blank lines make no requests, wherever they are. -/
theorem requests_filter (lines : List (List UInt8)) :
    requests (lines.filter fun line => !isBlankLine line) = requests lines := by
  induction lines with
  | nil => rfl
  | cons line rest ih =>
    cases found : ofUtf8? line with
    | none =>
      have kept : isBlankLine line = false := by rw [isBlankLine, found]; rfl
      rw [List.filter_cons_of_pos (by rw [kept]; rfl), requests_cons_none found,
        requests_cons_none found]
    | some text =>
      by_cases blank : allBlank text = true
      · have dropped : isBlankLine line = true := by
          rw [isBlankLine, found]
          exact decide_eq_true (trim_eq_empty_iff.mpr blank)
        rw [List.filter_cons_of_neg (by rw [dropped]; decide), requests_cons_blank found blank, ih]
      · have kept : isBlankLine line = false := by
          rw [isBlankLine, found]
          exact decide_eq_false fun empty => blank (trim_eq_empty_iff.mp empty)
        rw [List.filter_cons_of_pos (by rw [kept]; rfl), requests_cons_some found blank,
          requests_cons_some found blank, ih]

/-- What lines ask for they ask for whatever follows. -/
theorem requests_prefix (front rest : List (List UInt8)) :
    requests front <+: requests (front ++ rest) := by
  induction front with
  | nil => exact List.nil_prefix
  | cons line front ih =>
    rw [List.cons_append]
    cases found : ofUtf8? line with
    | none =>
      rw [requests_cons_none found]
      exact List.nil_prefix
    | some text =>
      by_cases blank : allBlank text = true
      · rw [requests_cons_blank found blank, requests_cons_blank found blank]
        exact ih
      · rw [requests_cons_some found blank, requests_cons_some found blank]
        exact List.prefix_cons_inj text |>.mpr ih

end Requests

end ScriptGate.Text
