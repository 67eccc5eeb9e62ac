import ScriptGate.CommandLine.Program
import ScriptGate.Proofs.Json.Writing
import ScriptGate.Proofs.Line.Reply
import ScriptGate.Proofs.Request.Checks

/-!
# One source, from the command line and in a line

A source can be evaluated by itself or be carried by a line of the protocol. Both ways come to one
evaluation on the bridge; what is told of it is a value or the fault of a script, by itself in the one
case and inside a reply in the other. The two forms determine each other
(`CommandLine.evalOnce_as_line`): nothing that is no value can stand where a reply tells one
(`Reply.render_value_ne_fault`), and replies to different faults are different texts.
-/

namespace ScriptGate

open Json (Members Value)

/-! ## What replies look like -/

/-- Reports that are the same object are the same. -/
theorem FaultReport.eq_of_toJson_eq {r r' : FaultReport} (same : r.toJson = r'.toJson) : r = r' := by
  obtain ⟨kind, message, param⟩ := r
  obtain ⟨kind', message', param'⟩ := r'
  cases param <;> cases param' <;> simp_all [toJson]

section Replies

variable {v : Value} {f g : Fault}

namespace Reply

/-- The reply that tells a value has its text behind the name. -/
theorem render_value (v : Value) :
    (ofResult (.ok v)).render = "\x7b\"value\":" ++ v.render ++ "\x7d" := by
  have written : (ofResult (.ok v)).toJson.write [] =
      "\x7b\"value\":".toList ++ v.write "\x7d".toList := rfl
  rw [render, Value.render, written, Value.write_eq_render_append, ← List.append_assoc]
  simp only [String.ofList_append, String.ofList_toList]

/-- The reply that tells a fault has the text of its report behind the name, and null before it. -/
theorem render_fault (f : Fault) :
    (ofResult (.error f)).render =
      "\x7b\"value\":null,\"error\":" ++ f.report.render ++ "\x7d" := by
  have written : (ofResult (.error f)).toJson.write [] =
      "\x7b\"value\":null,\"error\":".toList ++ f.report.toJson.write "\x7d".toList := rfl
  rw [render, Value.render, written, Value.write_eq_render_append, ← List.append_assoc]
  simp only [String.ofList_append, String.ofList_toList]
  rfl

/-- The reply that tells a fault does not tell a value. -/
theorem render_value_ne_fault (v : Value) (f : Fault) :
    (ofResult (.ok v)).render ≠ (ofResult (.error f)).render := by
  rw [render_value, render_fault]
  intro same
  have chars := congrArg String.toList same
  simp only [String.toList_append, List.append_assoc] at chars
  change "\x7b\"value\":".toList ++ (v.render.toList ++ "\x7d".toList) =
    "\x7b\"value\":".toList ++
      ("null,\"error\":".toList ++ (f.report.render.toList ++ "\x7d".toList)) at chars
  have behind := List.append_cancel_left chars
  rw [← Value.write_eq_render_append] at behind
  have null := Value.eq_of_write_eq_null behind
  cases null

/-- Replies that are the same text tell the same report. -/
theorem report_eq_of_render_eq
    (same : (ofResult (.error f)).render = (ofResult (.error g)).render) : f.report = g.report := by
  have back := read?_render_fault f
  rw [same, read?_render_fault g] at back
  simp only [Option.some.injEq, Value.object.injEq, List.cons.injEq, Prod.mk.injEq] at back
  exact FaultReport.eq_of_toJson_eq back.1.2.symm

end Reply

end Replies

/-! ## Sources in lines -/

/-- Whether a line asks for the evaluation of a source, whatever else there is in it. -/
def Carries (line source : String) : Prop :=
  ∃ params, Json.read? line = some params ∧ params.member? "op" = some (.text "evaluate") ∧
    params.member? "source" = some (.text source)

instance (line source : String) : Decidable (Carries line source) :=
  decidable_of_iff
    (((Json.read? line).any fun params =>
      decide ((params.member? "op").bind Value.text? = some "evaluate" ∧
        (params.member? "source").bind Value.text? = some source)) = true) <| by
    simp only [Option.any_eq_true, decide_eq_true_eq, Option.bind_eq_some_iff,
      Json.Value.text?_eq_some_iff, exists_eq_right, Carries]

theorem ofLine_of_carries {line source : String} (carries : Carries line source) :
    Request.ofLine line = .ok (.evaluate source) := by
  obtain ⟨params, found, named, carried⟩ := carries
  have op : (params.member? "op").bind Value.text? = some "evaluate" := by
    rw [named]
    rfl
  rw [Request.ofLine_of_read (Json.read?_eq_some_iff.mp found) op]
  refine Request.ofParams_eq_ok_iff.mpr ⟨?_, rfl, carried⟩
  cases params with
  | object fields => rfl
  | null | boolean | number | text | list => cases named

/-- The line of an evaluation carries its source. -/
theorem carries_line (source : String) : Carries (Request.evaluate source).line source := by
  refine ⟨(Request.evaluate source).toJson, ?_, rfl, rfl⟩
  exact Json.read?_render (Request.isExact_toJson _ nofun) (Request.isOrdered_toJson _ nofun)
    (show (1 : Nat) ≤ 127 by omega)

namespace CommandLine

variable {H : Type} [Host H] {source : String} {b : Bridge H} {v : Value} {m : String}

theorem evalOnce_of_ok (answered : (b.evaluate source).answer = .ok v) :
    (evalOnce source b).answer = ⟨v.render ++ "\n", none, false⟩ := by
  rw [evalOnce, Turn.map, answered]

theorem evalOnce_of_fault (answered : (b.evaluate source).answer = .error (.script m)) :
    (evalOnce source b).answer = ⟨"", some m, true⟩ := by
  rw [evalOnce, Turn.map, answered]
  rfl

/-- An evaluation comes to a value or to the fault of a script. -/
theorem evaluate_cases (source : String) (b : Bridge H) :
    (∃ v, (b.evaluate source).answer = .ok v) ∨
      ∃ m, (b.evaluate source).answer = .error (.script m) := by
  cases answered : (b.evaluate source).answer with
  | ok v => exact .inl ⟨v, rfl⟩
  | error fault =>
    have script : fault = .script (Host.evaluate source b.host).answer :=
      Outcome.eq_script_of_result answered
    exact .inr ⟨_, congrArg Except.error script⟩

/-- What a source tells by itself, and what the reply to a line tells of it. -/
structure ToldAlike (source line : String) (b : Bridge H) : Prop where
  /-- A text is printed exactly if it is that of a value, and the reply tells that value. -/
  value : ∀ text, (evalOnce source b).answer = ⟨text ++ "\n", none, false⟩ ↔
    (∃ v : Value, text = v.render) ∧
      (b.answerLine line).answer = "\x7b\"value\":" ++ text ++ "\x7d"
  /-- A message is complained of exactly if the reply reports it as that of a script's fault. -/
  fault : ∀ m, (evalOnce source b).answer = ⟨"", some m, true⟩ ↔
    ∃ report : FaultReport, report.kind = "script" ∧ report.param = none ∧ report.message = m ∧
      (b.answerLine line).answer =
        "\x7b\"value\":null,\"error\":" ++ report.render ++ "\x7d"
  /-- One of the two happens. -/
  either : (∃ text, (evalOnce source b).answer = ⟨text ++ "\n", none, false⟩) ∨
    ∃ m, (evalOnce source b).answer = ⟨"", some m, true⟩
  /-- The bridge and its host end alike. -/
  state : (evalOnce source b).state = (b.answerLine line).state
  /-- Both report the same events. -/
  events : (evalOnce source b).events = (b.answerLine line).events

section Evaluations

variable {line : String} (made : b.handleLine line = b.evaluate source)

include made

theorem answerLine_answer :
    (b.answerLine line).answer = (Reply.ofResult (b.evaluate source).answer).render := by
  rw [Bridge.answerLine, made, Turn.map]

theorem evalOnce_state : (evalOnce source b).state = (b.answerLine line).state := by
  rw [evalOnce, Bridge.answerLine, made]
  rfl

theorem evalOnce_events : (evalOnce source b).events = (b.answerLine line).events := by
  rw [evalOnce, Bridge.answerLine, made]
  rfl

/-- A source that ends in a value is told alike. -/
theorem toldAlike_of_ok (answered : (b.evaluate source).answer = .ok v) : ToldAlike source line b := by
  have printed := evalOnce_of_ok answered
  have reply := answerLine_answer made
  rw [answered] at reply
  constructor
  case value =>
    intro text
    rw [printed, reply, Reply.render_value]
    simp only [Done.mk.injEq, and_true, String.append_left_inj, String.append_right_inj]
    exact ⟨fun same => ⟨⟨v, same.symm⟩, same⟩, fun told => told.2⟩
  case fault =>
    intro m
    rw [printed]
    constructor
    · intro same
      cases congrArg Done.failed same
    · rintro ⟨⟨kind, message, param⟩, rfl, rfl, rfl, told⟩
      rw [reply] at told
      exact absurd (told.trans (Reply.render_fault (.script message)).symm)
        (Reply.render_value_ne_fault v _)
  case either => exact .inl ⟨v.render, printed⟩
  case state => exact evalOnce_state made
  case events => exact evalOnce_events made

/-- A source that ends in a fault is told alike. -/
theorem toldAlike_of_fault (answered : (b.evaluate source).answer = .error (.script m)) :
    ToldAlike source line b := by
  have complained := evalOnce_of_fault answered
  have reply := answerLine_answer made
  rw [answered] at reply
  constructor
  case value =>
    intro text
    rw [complained]
    constructor
    · intro same
      cases congrArg Done.failed same
    · rintro ⟨⟨w, rfl⟩, told⟩
      rw [reply] at told
      exact absurd ((Reply.render_value w).trans told.symm) (Reply.render_value_ne_fault w _)
  case fault =>
    intro m'
    rw [complained, reply]
    constructor
    · rintro ⟨⟩
      exact ⟨(Fault.script m).report, rfl, rfl, rfl, Reply.render_fault (.script m)⟩
    · rintro ⟨⟨kind, message, param⟩, rfl, rfl, rfl, told⟩
      have report : (Fault.script m).report = (Fault.script message).report :=
        Reply.report_eq_of_render_eq (told.trans (Reply.render_fault (.script message)).symm)
      rw [show m = message from congrArg FaultReport.message report]
  case either => exact .inr ⟨m, complained⟩
  case state => exact evalOnce_state made
  case events => exact evalOnce_events made

end Evaluations

/-- On every bridge a source tells the same by itself and in a line that carries it; and there is such
a line for each source. -/
theorem evalOnce_as_line (source : String) :
    Carries (Request.evaluate source).line source ∧
      ∀ line, Carries line source → ∀ {H : Type} [Host H] (b : Bridge H),
        ToldAlike source line b := by
  refine ⟨carries_line source, fun line carries H _ b => ?_⟩
  have made : b.handleLine line = b.evaluate source := by
    rw [Bridge.handleLine_eq, ofLine_of_carries carries]
    rfl
  rcases evaluate_cases source b with ⟨v, answered⟩ | ⟨m, answered⟩
  · exact toldAlike_of_ok made answered
  · exact toldAlike_of_fault made answered

/-- A line that carries a source behind another, spelled with escapes, among members that no
evaluation reads. -/
def strewnLine : String :=
  " \x7b\"source\":0, \"port\":[[]],\"\\u006fp\":\"evaluate\" ,\"source\":\"\\u0022\\n\"\x7d"

/-- A host may answer anything that looks like a reply; it is told as the fault that it is. -/
theorem evalOnce_as_line_strewn :
    let misleading := "null,\"error\":\x7b\x7d"
    let b := Bridge.ofHost (RecordingHost.empty.respond "\"\n" misleading)
    Carries strewnLine "\"\n" ∧ ToldAlike "\"\n" strewnLine b ∧
      (evalOnce "\"\n" b).answer = ⟨"", some misleading, true⟩ := by
  intro misleading b
  have carries : Carries strewnLine "\"\n" := by decide +kernel
  exact ⟨carries, (evalOnce_as_line "\"\n").2 strewnLine carries b, by decide +kernel⟩

end CommandLine

end ScriptGate
