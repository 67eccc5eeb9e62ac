import ScriptGate.CommandLine.Program
import ScriptGate.Host.Recording
import ScriptGate.Proofs.Json.Printable
import ScriptGate.Proofs.Text.Lines

/-!
# Serving an input

The service answers, in order, each line of its input that is not blank, up to the first line that is
no text: each by the reply to that line on the bridge that the lines before it have left
(`Bridge.replies`). A reply holds no line feed, whatever a script says in it, so each is one line of
the output. `CommandLine.serveInput_transcribed` puts that together, with what it means for blank lines
and for an input that goes on.
-/

namespace ScriptGate

open Text (EndsLine isBlankLine ofUtf8? requests)

/-- A reply is printable, whatever it tells. -/
theorem Reply.printable_render (r : Reply) : Printable r.render.toList :=
  r.toJson.printable_render

namespace Bridge

variable {H : Type} [Host H]

/-! ## Replies -/

/-- The bridge after it has dealt with some lines. -/
def afterLines : List String → Bridge H → Bridge H
  | [], b => b
  | line :: rest, b => afterLines rest (b.handleLine line).state

/-- The replies to some lines: each tells the result of its line on the bridge that the lines before
it have left. -/
def replies (lines : List String) (b : Bridge H) : List String :=
  lines.mapIdx fun i line =>
    (Reply.ofResult ((b.afterLines (lines.take i)).handleLine line).answer).render

theorem replies_cons (line : String) (rest : List String) (b : Bridge H) :
    b.replies (line :: rest) =
      (b.answerLine line).answer :: (b.answerLine line).state.replies rest := by
  rw [replies, List.mapIdx_cons]
  rfl

theorem replies_append (front rest : List String) (b : Bridge H) :
    b.replies (front ++ rest) = b.replies front ++ (b.afterLines front).replies rest := by
  induction front generalizing b with
  | nil => rfl
  | cons line front ih =>
    rw [List.cons_append, replies_cons, replies_cons, ih]
    rfl

theorem length_replies (lines : List String) (b : Bridge H) :
    (b.replies lines).length = lines.length := by
  rw [replies, List.length_mapIdx]

theorem lineFeed_not_mem_replies {lines : List String} {b : Bridge H} {reply : String}
    (found : reply ∈ b.replies lines) : '\n' ∉ reply.toList := by
  obtain ⟨i, -, rfl⟩ := List.mem_mapIdx.mp found
  exact (Reply.printable_render _).lineFeed_not_mem

/-! ## Serving lines -/

section Serving

variable {line : List UInt8} {lines : List (List UInt8)} {text : String} {b : Bridge H}

theorem serve_cons_none (unreadable : ofUtf8? line = none) :
    (b.serve (line :: lines)).answer = ⟨[], true⟩ := by
  rw [serve, unreadable]

theorem serve_cons_blank (found : ofUtf8? line = some text) (blank : Text.allBlank text = true) :
    b.serve (line :: lines) = b.serve lines := by
  rw [serve, found]
  exact if_pos blank

theorem serve_cons_some (found : ofUtf8? line = some text) (visible : Text.allBlank text ≠ true) :
    (b.serve (line :: lines)).answer =
      ⟨(b.answerLine text).answer :: ((b.answerLine text).state.serve lines).answer.replies,
        ((b.answerLine text).state.serve lines).answer.unreadable⟩ := by
  rw [serve, found]
  simp only [if_neg visible]

end Serving

/-- Serving lines yields the replies to those that ask for something. -/
theorem serve_replies (lines : List (List UInt8)) (b : Bridge H) :
    (b.serve lines).answer.replies = b.replies (requests lines) := by
  induction lines generalizing b with
  | nil => rfl
  | cons line rest ih =>
    cases found : ofUtf8? line with
    | none =>
      rw [serve_cons_none found, Text.requests_cons_none found]
      rfl
    | some text =>
      by_cases blank : Text.allBlank text = true
      · rw [serve_cons_blank found blank, Text.requests_cons_blank found blank, ih]
      · rw [serve_cons_some found blank, Text.requests_cons_some found blank, replies_cons, ih]

/-- Serving lines fails at a line that is no text, and at nothing else. -/
theorem serve_unreadable_iff (lines : List (List UInt8)) (b : Bridge H) :
    (b.serve lines).answer.unreadable = true ↔ ∃ line ∈ lines, ofUtf8? line = none := by
  induction lines generalizing b with
  | nil => simp [serve, Turn.quiet]
  | cons line rest ih =>
    simp only [List.mem_cons, exists_eq_or_imp]
    cases found : ofUtf8? line with
    | none => simp [serve_cons_none found]
    | some text =>
      by_cases blank : Text.allBlank text = true
      · simp [serve_cons_blank found blank, ih]
      · simp [serve_cons_some found blank, ih]

end Bridge

namespace CommandLine

variable {H : Type} [Host H]

/-! ## The output -/

/-- Replies, each ended by a line feed. -/
def inLines (replies : List String) : String := String.join (replies.map (· ++ "\n"))

theorem inLines_append (front rest : List String) :
    inLines (front ++ rest) = inLines front ++ inLines rest := by
  rw [inLines, List.map_append, String.join_append]
  rfl

/-- There are as many lines as replies, if none of these has a line feed of its own. -/
theorem count_inLines {replies : List String} (oneLine : ∀ r ∈ replies, '\n' ∉ r.toList) :
    (inLines replies).toList.count '\n' = replies.length := by
  induction replies with
  | nil => rfl
  | cons reply rest ih =>
    rw [List.forall_mem_cons] at oneLine
    have split : inLines (reply :: rest) = reply ++ "\n" ++ inLines rest := by
      rw [inLines, List.map_cons, String.join_cons]
      rfl
    have none : reply.toList.count '\n' = 0 := List.count_eq_zero.mpr oneLine.1
    have one : "\n".toList.count '\n' = 1 := by decide
    rw [split, String.toList_append, String.toList_append, List.count_append, List.count_append,
      none, one, ih oneLine.2, List.length_cons]
    omega

/-- How a run that serves an input on a bridge has to end. -/
structure Transcribed (input : List UInt8) (b : Bridge H) (ending : Ending) : Prop where
  /-- The input is split at its line feeds. -/
  split : Text.lines input = Text.ofPieces (input.splitOn 10)
  /-- The output is the replies to what the lines ask for, each in a line. -/
  output : ending.output = inLines (b.replies (requests (Text.lines input)))
  oneLine : ∀ reply ∈ b.replies (requests (Text.lines input)), '\n' ∉ reply.toList
  count : ending.output.toList.count '\n' = (requests (Text.lines input)).length
  /-- The run fails exactly if a line is no text. -/
  failed : ending.code = 1 ↔ ∃ line ∈ Text.lines input, ofUtf8? line = none
  succeeded : ending.code = 0 ↔ ∀ line ∈ Text.lines input, ofUtf8? line ≠ none

section Finish

variable (verbose : Bool) (told : List Note) (input : List UInt8) (b : Bridge H)

theorem output_finish_serveInput :
    (finish verbose told (serveInput input b)).output =
      inLines (b.replies (requests (Text.lines input))) := by
  rw [← Bridge.serve_replies]
  rfl

theorem code_finish (main : Turn (Bridge H) Done) :
    (finish verbose told main).code = 1 ↔ main.answer.failed = true := by
  cases failed : main.answer.failed <;> simp [finish, failed]

theorem code_finish_eq_zero (main : Turn (Bridge H) Done) :
    (finish verbose told main).code = 0 ↔ main.answer.failed ≠ true := by
  cases failed : main.answer.failed <;> simp [finish, failed]

theorem transcribed_finish : Transcribed input b (finish verbose told (serveInput input b)) where
  split := Text.lines_eq_ofPieces input
  output := output_finish_serveInput verbose told input b
  oneLine _ found := Bridge.lineFeed_not_mem_replies found
  count := by
    rw [output_finish_serveInput, count_inLines fun _ found => Bridge.lineFeed_not_mem_replies found,
      Bridge.length_replies]
  failed := by
    rw [code_finish]
    exact Bridge.serve_unreadable_iff (Text.lines input) b
  succeeded := by
    have fails := Bridge.serve_unreadable_iff (Text.lines input) b
    rw [code_finish_eq_zero]
    refine (not_congr fails).trans ?_
    simp only [not_exists, not_and, ne_eq]

end Finish

/-- Serving an input answers each of its lines that asks for something, in order and in one line, and
does so whatever blank lines stand between them and whatever comes after them. -/
theorem serveInput_transcribed (verbose : Bool) (told : List Note) (input : List UInt8)
    (b : Bridge H) :
    Transcribed input b (finish verbose told (serveInput input b)) ∧
      (∀ other : List UInt8,
        (Text.lines other).filter (fun line => !isBlankLine line) =
            (Text.lines input).filter (fun line => !isBlankLine line) →
          (finish verbose told (serveInput other b)).output =
            (finish verbose told (serveInput input b)).output) ∧
      (EndsLine input → ∀ rest : List UInt8, ∃ more : String,
        (finish verbose told (serveInput (input ++ rest) b)).output =
          (finish verbose told (serveInput input b)).output ++ more) := by
  refine ⟨transcribed_finish verbose told input b, fun other same => ?_, fun ends rest => ?_⟩
  · rw [output_finish_serveInput, output_finish_serveInput, ← Text.requests_filter, same,
      Text.requests_filter]
  · obtain ⟨more, goesOn⟩ := Text.requests_prefix (Text.lines input) (Text.lines rest)
    rw [output_finish_serveInput, output_finish_serveInput, Text.lines_append ends, ← goesOn,
      Bridge.replies_append, inLines_append]
    exact ⟨_, rfl⟩

/-- A line that is no request, and one that is no text: the run answers the first in one line and fails
at the second, with blank lines among them as without, and whatever comes after them. -/
theorem serveInput_transcribed_amid_blank_lines :
    ∃ ending : Ending,
      ending = finish false [] (serveInput [120, 13, 10, 255, 10] (.ofHost RecordingHost.empty)) ∧
      Transcribed [120, 13, 10, 255, 10] (.ofHost RecordingHost.empty) ending ∧
      ending.code = 1 ∧ ending.output.toList.count '\n' = 1 ∧
      (finish false []
        (serveInput [10, 120, 10, 9, 32, 10, 255, 10] (.ofHost RecordingHost.empty))).output =
          ending.output ∧
      ∀ rest : List UInt8, ∃ more : String,
        (finish false []
          (serveInput ([120, 13, 10, 255, 10] ++ rest) (.ofHost RecordingHost.empty))).output =
            ending.output ++ more := by
  have same : (Text.lines [10, 120, 10, 9, 32, 10, 255, 10]).filter (fun line => !isBlankLine line) =
      (Text.lines [120, 13, 10, 255, 10]).filter (fun line => !isBlankLine line) := by decide
  have ends : EndsLine [120, 13, 10, 255, 10] := .inr rfl
  have noText : ∃ line ∈ Text.lines [120, 13, 10, 255, 10], ofUtf8? line = none := by decide
  have asked : requests (Text.lines [120, 13, 10, 255, 10]) = ["x"] := by decide
  obtain ⟨transcribed, amidBlanks, goesOn⟩ :=
    serveInput_transcribed false [] [120, 13, 10, 255, 10] (.ofHost RecordingHost.empty)
  refine ⟨_, rfl, transcribed, transcribed.failed.mpr noText, ?_, amidBlanks _ same, goesOn ends⟩
  rw [transcribed.count, asked]
  rfl

end CommandLine

end ScriptGate
