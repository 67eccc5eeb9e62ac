import ScriptGate.Host.Script
import ScriptGate.Proofs.Json.Yield
import ScriptGate.Proofs.Line.Request
import ScriptGate.Proofs.Request.Checks

/-!
# Calls that are asked for in lines

The arguments of a call are read three times: as a part of its line, from what the bridge writes for
the host, and as the values of a script. A line holds nothing beyond the depth of the reader, and
its arguments lie inside the object of the line, so the list that is written anew for the host is
nested less deep than the line was. It is read back as the arguments of the line
(`Request.readList_of_ofLine`), and so the function gets these (`Bridge.invoke_line_arrives`).
-/

namespace ScriptGate

open Json (Members Value)
open Json.Reader (Bounded)

namespace Request

section Lines

variable {fields : Members} {line op name : String} {args : List Value}

/-- A line that asks for a call holds an object with the name and the arguments of the call. -/
theorem fields_of_ofLine_invoke (made : ofLine line = .ok (.invoke name args)) :
    ∃ fields, Json.read line = .ok (.object fields) ∧
      Members.get? fields "name" = some (.text name) ∧
        Members.get? fields "args" = some (.list args) := by
  obtain ⟨params, op, found, named, valid⟩ := exists_of_ofLine_eq_ok made
  cases params with
  | object fields =>
    exact ⟨fields, Json.read?_eq_some_iff.mp found, (ofParams_eq_ok_iff.mp valid).2.2⟩
  | null | boolean | number | text | list => cases named

/-- What a member of an object is bounded by. -/
theorem bounded_of_get? {d : Nat} {field : String} {v : Value}
    (bounded : Bounded (d + 1) (.object fields)) (found : Members.get? fields field = some v) :
    Bounded d v := by
  obtain ⟨member, here, rfl⟩ := Option.map_eq_some_iff.mp found
  have inside := List.mem_of_find?_eq_some here
  have depth_le := bounded.depth_le
  rw [Value.depth] at depth_le
  exact ⟨(Value.isOrdered_object_iff.mp bounded.isOrdered).2 member inside,
    Value.membersDepth_le_iff.mp (Nat.le_of_succ_le_succ depth_le) member inside⟩

/-- The arguments of a line, written anew for the host, are read back as they are. -/
theorem read_of_ofLine_invoke (made : ofLine line = .ok (.invoke name args))
    (exact : ∀ v ∈ args, v.isExact = true) :
    Json.read (Json.renderList args) = .ok (.list args) := by
  obtain ⟨fields, found, -, listed⟩ := fields_of_ofLine_invoke made
  have bounded : Bounded 126 (.list args) := bounded_of_get? (Json.bounded_of_read found) listed
  exact Json.read_render (Json.isExact_list exact) bounded.isOrdered
    (Nat.le_succ_of_le bounded.depth_le)

end Lines

end Request

namespace Bridge

/-- The host is called once for a line, with the text of these arguments, and with no other effect
than the call of the function has. -/
structure InvokeArrives {H : Type} [Host H] (line name : String) (args : List Value)
    (b : Bridge H) : Prop where
  turn : b.handleLine line = b.invoke name args
  calls : ∃ answer, b.callsOfLine line = [.invoke name (Json.renderList args) answer]

/-- Whatever a line looks like that asks for a call with arguments that are free of doubles, the
text that the host gets is read as the arguments of the line. So a host that runs scripts calls the
function with their values, and one that only keeps books answers the first of them, if no other
answer is prepared; neither of them has reason to complain about the list. -/
theorem invoke_line_arrives {line name : String} {args : List Value}
    (made : Request.ofLine line = .ok (.invoke name args))
    (exact : ∀ v ∈ args, v.isExact = true) :
    (∃ fields, Json.read? line = some (.object fields) ∧
      Members.get? fields "args" = some (.list args)) ∧
    (∀ {H : Type} [Host H] (b : Bridge H), InvokeArrives line name args b) ∧
    Json.read? (Json.renderList args) = some (.list args) ∧
    Json.readList (Json.renderList args) = .ok args ∧
    (∀ h : ScriptHost, Host.invoke name (Json.renderList args) h =
      h.ofEngine (h.engine.invoke name (Script.Value.ofJsonItems args))) ∧
    ∀ h : RecordingHost, (Host.invoke name (Json.renderList args) h).answer =
      (h.responses.lookup (name, Json.renderList args)).getD
        ((args.head?.map Value.render).getD noValue) := by
  obtain ⟨fields, found, -, listed⟩ := Request.fields_of_ofLine_invoke made
  have readBack := Request.read_of_ofLine_invoke made exact
  have list := Json.readList_of_read readBack
  refine ⟨⟨fields, Json.read?_eq_some_iff.mpr found, listed⟩, fun b => ?_,
    Json.read?_eq_some_iff.mpr readBack, list, fun h => ?_, fun h => ?_⟩
  · have dealt := dealtAs_of_ofLine made b
    exact ⟨dealt.turn, _, dealt.calls⟩
  · change h.ofEngine (h.call name (Json.renderList args)) = _
    rw [ScriptHost.call, list]
  · change h.answerCall name (Json.renderList args) = _
    rw [RecordingHost.answerCall, RecordingHost.echo, list]
    cases args <;> rfl

/-- A line with escapes in its names and in the name of the function, and with two lists of
arguments, of which the later one counts. -/
def oddLine : String :=
  "\t\x7b\"args\":0,\"\\u006fp\" : \"invoke\",\"name\":\"\\ud83d\\ude00\"," ++
    "\"\\u0061rgs\":[\x7b\"k\":1,\"k\":[[]]\x7d,-7]\x7d"

/-- Odd spelling does not keep the arguments of a line from the host. -/
theorem invoke_line_arrives_oddly_spelled :
    ∃ name args, Request.ofLine oddLine = .ok (.invoke name args) ∧
      (∀ v ∈ args, v.isExact = true) ∧ args.map Value.depth = [3, 0] ∧
      InvokeArrives oddLine name args (Bridge.ofHost RecordingHost.empty) := by
  have computed : (Request.ofLine oddLine).toOption.map (fun r =>
      (r.op, r.args.all Value.isExact, r.args.map Value.depth)) =
        some ("invoke", true, [3, 0]) := by decide +kernel
  obtain ⟨r, found, same⟩ := Option.map_eq_some_iff.mp computed
  have made : Request.ofLine oddLine = .ok r := by
    cases made : Request.ofLine oddLine with
    | error fault =>
      rw [made] at found
      cases found
    | ok r' =>
      rw [made] at found
      exact congrArg Except.ok (Option.some.inj found)
  simp only [Prod.mk.injEq, List.all_eq_true] at same
  obtain ⟨op, exact, depths⟩ := same
  cases r with
  | invoke name args =>
    exact ⟨name, args, made, exact, depths, (invoke_line_arrives made exact).2.1 _⟩
  | evaluate | enableDebugger | disableDebugger => cases depths

end Bridge

end ScriptGate
