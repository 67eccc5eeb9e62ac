import ScriptGate.Proofs.Answer.Value
import ScriptGate.Proofs.Json.Yield
import ScriptGate.Proofs.Line.Request

/-!
# Reading replies back

A reply lays one object around the value that it tells. A bridge answers values that were read within
the depth of the reader, and those that reach that depth have no room left for the object: their reply
is no JSON for the reader, while every other reply is read back as the result that it tells
(`Bridge.readBack_answerLine`). A script can end in such a value (`Bridge.deep_reply_is_unreadable`).
-/

namespace ScriptGate

open Json (Members Value)
open Json.Reader (Bounded)

/-! ## Values that are answered -/

theorem Outcome.bounded_of_result {text : String} {v : Value}
    (answered : (classify text).result = .ok v) : Bounded Json.Reader.maxDepth v := by
  unfold classify at answered
  split at answered
  · cases answered
    exact .scalar rfl rfl
  · split at answered
    · next w found =>
      cases answered
      exact Json.bounded_of_read (Json.read?_eq_some_iff.mp found)
    · cases answered

/-- A request is only ever answered with a value that is in order and within the depth of the
reader. -/
theorem Request.CarriedOut.bounded {request : Request} {call : HostCall} {v : Value}
    (carriedOut : request.CarriedOut call (.ok v)) : Bounded Json.Reader.maxDepth v := by
  generalize answered : Except.ok v = result at carriedOut
  cases carriedOut with
  | evaluate source answer => exact Outcome.bounded_of_result answered.symm
  | invoke name args answer => exact Outcome.bounded_of_result answered.symm
  | started port =>
    cases answered
    exact .scalar rfl rfl
  | stopped =>
    cases answered
    exact .scalar rfl rfl
  | failed port => cases answered

namespace Bridge

variable {H : Type} [Host H]

theorem dispatch_bounded {r : Request} {b : Bridge H} {v : Value}
    (answered : (b.dispatch r).answer = .ok v) : Bounded Json.Reader.maxDepth v := by
  rcases dispatch_cases r b with
    ⟨port, current, -, -, -, rejected⟩ | ⟨-, call, -, carriedOut⟩
  · rw [rejected] at answered
    cases answered
  · rw [answered] at carriedOut
    exact carriedOut.bounded

theorem handleLine_bounded {line : String} {b : Bridge H} {v : Value}
    (answered : (b.handleLine line).answer = .ok v) : Bounded Json.Reader.maxDepth v := by
  rw [handleLine_eq] at answered
  split at answered
  · exact dispatch_bounded answered
  · cases answered

end Bridge

/-! ## Reading replies -/

/-- The report of a fault is flat, and all in it is text. -/
theorem FaultReport.toJson_spec (report : FaultReport) :
    report.toJson.isExact = true ∧ report.toJson.isOrdered = true ∧ report.toJson.depth = 1 := by
  obtain ⟨kind, message, param⟩ := report
  have ascending : ["error_type", "message", "param"].Pairwise (· < ·) := by decide
  cases param with
  | none =>
    refine ⟨rfl, Json.Value.isOrdered_object_iff.mpr ⟨?_, ?_⟩, rfl⟩
    · exact Json.Members.ascending_of_names rfl
        (ascending.sublist (List.sublist_append_left _ ["param"]))
    · simp [Value.isOrdered]
  | some param =>
    refine ⟨rfl, Json.Value.isOrdered_object_iff.mpr ⟨?_, ?_⟩, rfl⟩
    · exact Json.Members.ascending_of_names rfl ascending
    · simp [Value.isOrdered]

/-- How the text of a reply is read: the object that tells the result, unless its value is as deep as
a value can be. -/
structure ReadBack (result : Except Fault Value) (text : String) : Prop where
  /-- A value is read back, and nothing beside it, if it leaves a level for the object around it. -/
  value : ∀ v, result = .ok v → v.isExact = true →
    (Json.read? text = some (.object [("value", v)]) ↔ v.depth ≤ 126)
  /-- A value that leaves none is as deep as the reader goes, and its reply is no JSON for it. -/
  tooDeep : ∀ v, result = .ok v → v.isExact = true → 126 < v.depth →
    v.depth = 127 ∧ Json.read? text = none
  /-- A fault is always read back, as its report beside null. -/
  fault : ∀ fault, result = .error fault →
    Json.read? text = some (.object [("error", fault.report.toJson), ("value", .null)])

namespace Reply

section Values

variable {v : Value}

theorem isExact_toJson_value (exact : v.isExact = true) :
    (Reply.ofResult (.ok v)).toJson.isExact = true := by
  simp [ofResult, toJson, Value.isExact, Value.membersExact, exact]

theorem isOrdered_toJson_value (ordered : v.isOrdered = true) :
    (Reply.ofResult (.ok v)).toJson.isOrdered = true :=
  Value.isOrdered_object_iff.mpr
    ⟨List.pairwise_singleton _ _, List.forall_mem_singleton.mpr ordered⟩

theorem depth_toJson_value : (Reply.ofResult (.ok v)).toJson.depth = v.depth + 1 := by
  simp [ofResult, toJson, Value.depth, Value.membersDepth]

theorem read?_render_value (exact : v.isExact = true) (ordered : v.isOrdered = true)
    (fits : v.depth ≤ 126) :
    Json.read? (Reply.ofResult (.ok v)).render = some (.object [("value", v)]) :=
  Json.read?_render (isExact_toJson_value exact) (isOrdered_toJson_value ordered)
    (by rw [depth_toJson_value]; exact Nat.succ_le_succ fits)

theorem read?_render_value_tooDeep (exact : v.isExact = true) (ordered : v.isOrdered = true)
    (deep : 126 < v.depth) : Json.read? (Reply.ofResult (.ok v)).render = none :=
  Json.read?_render_tooDeep (isExact_toJson_value exact) (isOrdered_toJson_value ordered)
    (by rw [depth_toJson_value]; exact Nat.succ_lt_succ deep)

end Values

/-- The reply of a fault tells null first, but reading puts the members of an object in order. -/
theorem read?_render_fault (fault : Fault) :
    Json.read? (Reply.ofResult (.error fault)).render =
      some (.object [("error", fault.report.toJson), ("value", .null)]) := by
  obtain ⟨exact, ordered, flat⟩ := fault.report.toJson_spec
  have reply : (Reply.ofResult (.error fault)).toJson =
      .object [("value", .null), ("error", fault.report.toJson)] := rfl
  rw [render, reply]
  exact Json.read?_eq_some_iff.mpr <|
    Json.read_render_object (by simp [Value.isExact, Value.membersExact, exact])
      (by simp [Value.isOrdered, ordered])
      (by simp [Value.depth, Value.membersDepth, flat, Json.Reader.maxDepth])

end Reply

/-- The text that answers a line is read back as the result of the line, unless that is a value as
deep as a value can be. -/
theorem Bridge.readBack_answerLine {H : Type} [Host H] (line : String) (b : Bridge H) :
    ReadBack (b.handleLine line).answer (b.answerLine line).answer := by
  change ReadBack _ (Reply.ofResult (b.handleLine line).answer).render
  generalize result_eq : (b.handleLine line).answer = result
  constructor
  case value =>
    rintro v rfl exact
    have bounded := handleLine_bounded result_eq
    refine ⟨fun found => ?_, Reply.read?_render_value exact bounded.isOrdered⟩
    refine Nat.not_lt.mp fun deep => ?_
    rw [Reply.read?_render_value_tooDeep exact bounded.isOrdered deep] at found
    cases found
  case tooDeep =>
    rintro v rfl exact deep
    have bounded := handleLine_bounded result_eq
    exact ⟨Nat.le_antisymm bounded.depth_le deep,
      Reply.read?_render_value_tooDeep exact bounded.isOrdered deep⟩
  case fault =>
    rintro fault rfl
    exact Reply.read?_render_fault fault

/-- A source that ends in a value within the depth of the reader is answered with its JSON form. -/
theorem Bridge.dispatch_evaluate_of_run {b : Bridge ScriptHost} {source : String}
    {x : Script.Value} {j : Value} (ends : (b.host.run source).answer = .ok x)
    (notUnit : x.isUnit = false) (form : x.toJson = .ok j) (exact : j.isExact = true)
    (fits : j.depth ≤ 127) : (b.dispatch (.evaluate source)).answer = .ok j := by
  have told : (b.dispatch (.evaluate source)).answer =
      (Outcome.classify (ScriptHost.answerText (b.host.run source).answer)).result := rfl
  rw [told, ends]
  exact ((delivered_classify x).value j notUnit form exact).mpr fits

/-- A script that ends in a list inside 126 others is answered with that list, in a reply that is no
JSON for the reader. -/
theorem Bridge.deep_reply_is_unreadable :
    ∃ j, ((Bridge.ofHost (ScriptHost.new .standard .versionFour)).handleLine
          (Request.evaluate "let a = []; for i in 0..126 \x7b a = [a]; \x7d a").line).answer =
        .ok j ∧ j.isExact = true ∧ j.depth = 127 ∧
      Json.read? ((Bridge.ofHost (ScriptHost.new .standard .versionFour)).answerLine
        (Request.evaluate "let a = []; for i in 0..126 \x7b a = [a]; \x7d a").line).answer =
          none := by
  obtain ⟨x, j, value, notUnit, form, exact, deep⟩ := exists_of_computed
    ((ScriptHost.new .standard .versionFour).run
      "let a = []; for i in 0..126 \x7b a = [a]; \x7d a").answer 127 (by decide +kernel)
  -- From here on only what the script came to matters, and it must not be run again.
  generalize script : "let a = []; for i in 0..126 \x7b a = [a]; \x7d a" = source at *
  generalize first : Bridge.ofHost (ScriptHost.new .standard .versionFour) = b at *
  have ends : (b.host.run source).answer = .ok x := by
    rw [← first]
    exact value
  have made := dealtAs_of_ofLine
    ((Request.evaluate source).ofLine_line nofun nofun (show (1 : Nat) ≤ 127 by omega)) b
  have answered : (b.handleLine (Request.evaluate source).line).answer = .ok j := by
    rw [made.turn]
    exact dispatch_evaluate_of_run ends notUnit form exact (by omega)
  have readBack := readBack_answerLine (Request.evaluate source).line b
  exact ⟨j, answered, exact, deep, (readBack.tooDeep j answered exact (by omega)).2⟩

end ScriptGate
