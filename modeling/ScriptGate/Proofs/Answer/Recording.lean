import ScriptGate.Host.Recording
import ScriptGate.Proofs.Answer.Diagnostic
import ScriptGate.Proofs.Answer.Value

/-!
# What a host that runs no scripts gives back

A call without a prepared answer is answered with the text of its first argument. The host reads the whole
list for that, so the first argument comes back exactly if none of the arguments is nested too deep
for the reader, and otherwise the reader's complaint comes as a fault (`Bridge.invoke_echoed`). On the
way back the first argument is classified like any other answer: it is a text in quotes where it reads
like the sentinel, and it is null only where it was null.
-/

namespace ScriptGate

open Json (Value)

/-! ## Answers without preparation -/

section Echo

variable {v : Value} {args rest : List Value}

/-- The complaint about a list that is too deep is no value. -/
theorem Outcome.classify_nestedTooDeep (line column : Nat) :
    classify (Json.Error.message ⟨.nestedTooDeep, line, column⟩) =
      .fault (Json.Error.message ⟨.nestedTooDeep, line, column⟩) := by
  apply classify_of_opensFault
  -- The words of the complaint come first, and the place behind them.
  iterate 4 apply opensFault_append
  exact opensFault_words (by decide)

namespace RecordingHost

theorem echo_renderList_nil : echo (Json.renderList []) = noValue := by
  have listed : Json.readList (Json.renderList []) = .ok [] :=
    Json.readList_renderList nofun nofun nofun
  rw [echo, listed]

theorem echo_renderList_cons (exact : ∀ w ∈ v :: rest, w.isExact = true)
    (ordered : ∀ w ∈ v :: rest, w.isOrdered = true) (fits : ∀ w ∈ v :: rest, w.depth ≤ 126) :
    echo (Json.renderList (v :: rest)) = v.render := by
  have listed : Json.readList (Json.renderList (v :: rest)) = .ok (v :: rest) :=
    Json.readList_renderList exact ordered fits
  rw [echo, listed]

theorem echo_renderList_tooDeep (exact : ∀ w ∈ args, w.isExact = true)
    (ordered : ∀ w ∈ args, w.isOrdered = true) (deep : ∃ w ∈ args, 126 < w.depth) :
    ∃ line column,
      Json.readList (Json.renderList args) = .error ⟨.nestedTooDeep, line, column⟩ ∧
        echo (Json.renderList args) = Json.Error.message ⟨.nestedTooDeep, line, column⟩ := by
  obtain ⟨line, column, refused⟩ := Json.readList_renderList_tooDeep exact ordered deep
  refine ⟨line, column, refused, ?_⟩
  rw [echo, refused]

end RecordingHost

end Echo

/-! ## From a requester and back -/

/-- What a requester is told who calls a host that gives back the first of the arguments. -/
structure Echoed (args : List Value) (answer : Except Fault Value) : Prop where
  /-- Without arguments there is no value. -/
  empty : args = [] → answer = .ok .null
  /-- The first argument comes back exactly if no argument is nested too deep beside the others. -/
  first : ∀ v rest, args = v :: rest → (answer = .ok v ↔ ∀ w ∈ args, w.depth ≤ 126)
  /-- If one is, the reader's complaint about the written list is the text of a fault. -/
  tooDeep : (∃ w ∈ args, 126 < w.depth) →
    ∃ line column,
      Json.readList (Json.renderList args) = .error ⟨.nestedTooDeep, line, column⟩ ∧
        answer = .error (.script (Json.Error.message ⟨.nestedTooDeep, line, column⟩))

theorem echoed_classify {args : List Value} (exact : ∀ w ∈ args, w.isExact = true)
    (ordered : ∀ w ∈ args, w.isOrdered = true) :
    Echoed args (Outcome.classify (RecordingHost.echo (Json.renderList args))).result := by
  have tooDeep : (∃ w ∈ args, 126 < w.depth) →
      ∃ line column,
        Json.readList (Json.renderList args) = .error ⟨.nestedTooDeep, line, column⟩ ∧
          (Outcome.classify (RecordingHost.echo (Json.renderList args))).result =
            .error (.script (Json.Error.message ⟨.nestedTooDeep, line, column⟩)) := by
    intro deep
    obtain ⟨line, column, refused, told⟩ :=
      RecordingHost.echo_renderList_tooDeep exact ordered deep
    refine ⟨line, column, refused, ?_⟩
    rw [told, Outcome.classify_nestedTooDeep]
    rfl
  constructor
  case empty =>
    rintro rfl
    rw [RecordingHost.echo_renderList_nil, Outcome.classify, if_pos rfl]
    rfl
  case first =>
    rintro v rest rfl
    constructor
    · intro comesBack w found
      refine Nat.not_lt.mp fun deep => ?_
      obtain ⟨line, column, -, fault⟩ := tooDeep ⟨w, found, deep⟩
      rw [fault] at comesBack
      cases comesBack
    · intro fits
      have shallow : v.depth ≤ 126 := fits v List.mem_cons_self
      have classified : Outcome.classify v.render = .value v :=
        Outcome.classify_render (exact v List.mem_cons_self) (ordered v List.mem_cons_self)
          (Nat.le_succ_of_le shallow)
      rw [RecordingHost.echo_renderList_cons exact ordered fits, classified]
      rfl
  case tooDeep => exact tooDeep

/-- A call for which nothing is prepared is noted with its name and the text of its arguments, and
answered with the first of them, unless one of them is nested more than 126 deep. -/
theorem Bridge.invoke_echoed {b : Bridge RecordingHost} {name : String} {args : List Value}
    (unprepared : b.host.responses.lookup (name, Json.renderList args) = none)
    (exact : ∀ v ∈ args, v.isExact = true) (ordered : ∀ v ∈ args, v.isOrdered = true) :
    Echoed args (b.invoke name args).answer ∧
      (b.invoke name args).state.host.invocations =
        b.host.invocations ++ [(name, Json.renderList args)] := by
  have answered : (b.invoke name args).answer =
      (Outcome.classify (b.host.answerCall name (Json.renderList args))).result := rfl
  refine ⟨?_, rfl⟩
  rw [answered, RecordingHost.answerCall, unprepared]
  exact echoed_classify exact ordered

/-- The sentinel in quotes comes back beside the deepest argument that there can be, null comes back as
itself, and a level more is too much, also behind an argument that is flat. -/
theorem Bridge.invoke_echoed_at_limit :
    let b := Bridge.ofHost (RecordingHost.empty.respondInvoke "f" "[null, null]" "1")
    (b.invoke "f" [.text noValue, .nested 126]).answer = .ok (.text noValue) ∧
      (b.invoke "f" [.null]).answer = .ok .null ∧
      (b.invoke "f" []).answer = .ok .null ∧
      ∃ line column, (b.invoke "f" [.text noValue, .nested 127]).answer =
        .error (.script (Json.Error.message ⟨.nestedTooDeep, line, column⟩)) := by
  intro b
  have echoed (args : List Value)
      (plain : args.all (fun v => v.isExact && v.isOrdered) = true)
      (unprepared : b.host.responses.lookup ("f", Json.renderList args) = none) :
      Echoed args (b.invoke "f" args).answer := by
    simp only [List.all_eq_true, Bool.and_eq_true] at plain
    exact (Bridge.invoke_echoed unprepared (fun v found => (plain v found).1)
      fun v found => (plain v found).2).1
  refine ⟨?_, ?_, ?_, ?_⟩
  · exact ((echoed _ (by decide +kernel) (by decide +kernel)).first _ _ rfl).mpr
      (by decide +kernel)
  · exact ((echoed _ (by decide +kernel) (by decide +kernel)).first _ _ rfl).mpr
      (by decide +kernel)
  · exact (echoed _ (by decide +kernel) (by decide +kernel)).empty rfl
  · obtain ⟨line, column, -, fault⟩ :=
      (echoed [.text noValue, .nested 127] (by decide +kernel) (by decide +kernel)).tooDeep
        ⟨.nested 127, List.mem_cons_of_mem _ List.mem_cons_self, by decide +kernel⟩
    exact ⟨line, column, fault⟩

end ScriptGate
