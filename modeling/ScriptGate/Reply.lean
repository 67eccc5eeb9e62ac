import ScriptGate.Bridge
import ScriptGate.Text.Blank
import ScriptGate.Text.Lines

/-!
The line protocol: a request in a line, and a reply in a line.

A request is a JSON object that names its operation beside the fields of the operation. A reply has the value
of the request, and the report of a fault if there is one. Blank lines are passed over, and a line that
is no text ends the service.
-/

namespace ScriptGate

open Json (Value)

structure Reply where
  value : Value
  error : Option FaultReport

namespace Reply

/-- The reply that tells a result. -/
def ofResult : Except Fault Value → Reply
  | .ok v => ⟨v, none⟩
  | .error fault => ⟨.null, some fault.report⟩

/-- A reply as a JSON object. -/
def toJson (r : Reply) : Value :=
  .object (("value", r.value) :: (r.error.map fun e => ("error", e.toJson)).toList)

/-- The JSON text of a reply. -/
def render (r : Reply) : String := r.toJson.render

end Reply

namespace Bridge

variable {H : Type} [Host H]

/-- Carries out the request in a line. The whole object in it serves as the parameters. -/
def handleLine (line : String) (b : Bridge H) : Turn (Bridge H) (Except Fault Value) :=
  match Json.read line with
  | .error e => .quiet (.error (.argument "request" ("request not JSON: " ++ e.message))) b
  | .ok request =>
    match (request.member? "op").bind Value.text? with
    | none => .quiet (.error (.argument "op" "op not text")) b
    | some op => b.handle op request

/-- The text that answers a line. -/
def answerLine (line : String) (b : Bridge H) : Turn (Bridge H) String :=
  (b.handleLine line).map fun result => (Reply.ofResult result).render

/-- What serving some lines comes to. -/
structure Served where
  replies : List String
  /-- Whether a line was no text, so that the service ended with it. -/
  unreadable : Bool
deriving DecidableEq, Repr

/-- Answers lines in turn. -/
def serve : List (List UInt8) → Bridge H → Turn (Bridge H) Served
  | [], b => .quiet ⟨[], false⟩ b
  | bytes :: rest, b =>
    match Text.ofUtf8? bytes with
    | none => ⟨⟨[], true⟩, b, [.inputUnreadable]⟩
    | some line =>
      if Text.allBlank line then serve rest b
      else
        let turn := b.answerLine line
        let later := serve rest turn.state
        ⟨{ later.answer with replies := turn.answer :: later.answer.replies }, later.state,
          turn.events ++ later.events⟩

end Bridge

end ScriptGate
