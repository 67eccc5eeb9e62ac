import ScriptGate.Host.Recording
import ScriptGate.Proofs.Bridge.Account
import ScriptGate.Proofs.Bridge.Run
import ScriptGate.Proofs.Json.Codec
import ScriptGate.Reply

/-!
# Requests in lines

A line either makes one request or is refused for an argument, and that depends on nothing but the
line (`Request.ofLine`, `Bridge.handleLine_eq`). The other way round, every request whose fields are
not nested too deep has a line of its own that makes it (`Request.ofLine_line`). So to ask a bridge in
lines is to ask it by requests (`Bridge.handleLine_as_dispatch`).
-/

namespace ScriptGate

open Json (Members Value)

namespace Request

/-! ## What a line makes -/

/-- The request that a line makes, or the fault for which it is refused. -/
def ofLine (line : String) : Except Fault Request :=
  match Json.read line with
  | .error e => .error (.argument "request" ("request not JSON: " ++ e.message))
  | .ok params =>
    match (params.member? "op").bind Value.text? with
    | none => .error (.argument "op" "op not text")
    | some op => ofParams op params

section Lines

variable {line op name : String} {params : Value} {fields : Members} {r : Request} {fault : Fault}

/-- A line that makes a request holds a JSON value that names an operation, and the request is the
one that the value makes for that operation. -/
theorem exists_of_ofLine_eq_ok (made : ofLine line = .ok r) :
    ∃ params op, Json.read? line = some params ∧
      (params.member? "op").bind Value.text? = some op ∧ ofParams op params = .ok r := by
  unfold ofLine at made
  cases found : Json.read line with
  | error e =>
    rw [found] at made
    cases made
  | ok params =>
    simp only [found] at made
    cases named : (params.member? "op").bind Value.text? with
    | none =>
      rw [named] at made
      cases made
    | some op =>
      rw [named] at made
      exact ⟨params, op, Json.read?_eq_some_iff.mpr found, named, made⟩

theorem ofLine_of_read (found : Json.read line = .ok params)
    (named : (params.member? "op").bind Value.text? = some op) :
    ofLine line = ofParams op params := by
  simp only [ofLine, found, named]

/-! ## What a line is refused for -/

theorem textField_error (refused : textField fields name = .error fault) :
    fault = .argument name (name ++ " not text") := by
  unfold textField at refused
  split at refused
  · cases refused
  · exact (Except.error.inj refused).symm

theorem argsField_error (refused : argsField fields = .error fault) :
    fault = .argument "args" "args not sequence" := by
  unfold argsField at refused
  split at refused
  · cases refused
  · exact (Except.error.inj refused).symm

theorem portField_error (refused : portField fields = .error fault) :
    ∃ message, fault = .argument "port" message := by
  unfold portField at refused
  split at refused
  · split at refused
    · cases refused
    · exact ⟨_, (Except.error.inj refused).symm⟩
  · exact ⟨_, (Except.error.inj refused).symm⟩

/-- If one check after another fails, then one of the two does. -/
theorem error_of_bind {ε α β : Type} {first : Except ε α} {next : α → Except ε β} {e : ε}
    (failed : (first >>= next) = .error e) : first = .error e ∨ ∃ a, next a = .error e := by
  cases first with
  | ok a => exact .inr ⟨a, failed⟩
  | error e' =>
    cases failed
    exact .inl rfl

/-- The arguments that a line can be refused for: never for its parameters as a whole, since what
names an operation is an object. -/
def lineArguments : List String := ["request", "op", "source", "name", "args", "port"]

theorem ofParams_object_error (refused : ofParams op (.object fields) = .error fault) :
    ∃ param ∈ lineArguments, ∃ message, fault = .argument param message := by
  change (if op = "evaluate" then _ else if op = "invoke" then _
    else if op = "enable_debugger" then _ else if op = "disable_debugger" then _ else _) =
      Except.error fault at refused
  split at refused
  · rcases error_of_bind refused with source | ⟨_, impossible⟩
    · exact ⟨"source", by decide, _, textField_error source⟩
    · cases impossible
  split at refused
  · rcases error_of_bind refused with name | ⟨_, refused⟩
    · exact ⟨"name", by decide, _, textField_error name⟩
    rcases error_of_bind refused with args | ⟨_, impossible⟩
    · exact ⟨"args", by decide, _, argsField_error args⟩
    · cases impossible
  split at refused
  · rcases error_of_bind refused with port | ⟨_, impossible⟩
    · exact ⟨"port", by decide, portField_error port⟩
    · cases impossible
  split at refused
  · cases refused
  · exact ⟨"op", by decide, _, (Except.error.inj refused).symm⟩

/-- A line is only refused for an argument, and not for `params`. -/
theorem ofLine_error (refused : ofLine line = .error fault) :
    ∃ param ∈ lineArguments, ∃ message, fault = .argument param message := by
  unfold ofLine at refused
  split at refused
  · exact ⟨"request", by decide, _, (Except.error.inj refused).symm⟩
  · next params found =>
    split at refused
    · exact ⟨"op", by decide, _, (Except.error.inj refused).symm⟩
    · next op named =>
      cases params with
      | object fields => exact ofParams_object_error refused
      | null | boolean | number | text | list => cases named

end Lines

/-! ## The line of a request -/

/-- The operation of a request. -/
def op : Request → String
  | .evaluate _ => "evaluate"
  | .invoke .. => "invoke"
  | .enableDebugger _ => "enable_debugger"
  | .disableDebugger => "disable_debugger"

/-- The arguments that a request passes on. -/
def args : Request → List Value
  | .invoke _ args => args
  | _ => []

/-- The operation of a request beside its fields, by name. -/
def toMembers : Request → Members
  | .evaluate source => [("op", .text "evaluate"), ("source", .text source)]
  | .invoke name args => [("args", .list args), ("name", .text name), ("op", .text "invoke")]
  | .enableDebugger port => [("op", .text "enable_debugger"), ("port", .ofNat64 port.toUInt64)]
  | .disableDebugger => [("op", .text "disable_debugger")]

/-- A request as an object. -/
def toJson (r : Request) : Value := .object r.toMembers

/-- The line that makes a request. -/
def line (r : Request) : String := r.toJson.render

theorem op_toJson (r : Request) : (r.toJson.member? "op").bind Value.text? = some r.op := by
  cases r <;> rfl

/-- The number of a port is taken for that port. -/
theorem portField_ofNat64 {fields : Members} {port : UInt16}
    (found : Members.get? fields "port" = some (.ofNat64 port.toUInt64)) :
    portField fields = .ok port := by
  have value : port.toUInt64.toNat = port.toNat := UInt16.toNat_toUInt64 port
  have small : port.toNat < 65536 := port.toNat_lt
  have inRange : 0 ≤ (port.toUInt64.toNat : Int) ∧ (port.toUInt64.toNat : Int) < 65536 := by omega
  rw [portField, found]
  simp only [Value.ofNat64]
  rw [if_pos inRange, Int.toNat_natCast, value, UInt16.ofNat_toNat]

theorem ofParams_enableDebugger (fields : Members) :
    ofParams "enable_debugger" (.object fields) = (portField fields).map .enableDebugger := rfl

theorem ofParams_toJson (r : Request) : ofParams r.op r.toJson = .ok r := by
  cases r with
  | evaluate source => rfl
  | invoke name args => rfl
  | disableDebugger => rfl
  | enableDebugger port =>
    have found : Members.get? (Request.enableDebugger port).toMembers "port" =
        some (.ofNat64 port.toUInt64) := by simp [toMembers, Members.get?]
    rw [op, toJson, ofParams_enableDebugger, portField_ofNat64 found]
    rfl

theorem isExact_toJson (r : Request) (exact : ∀ v ∈ r.args, v.isExact = true) :
    r.toJson.isExact = true := by
  cases r with
  | invoke name args =>
    have inside : Value.itemsExact args = true := Value.itemsExact_iff.mpr exact
    simp [toJson, toMembers, Value.isExact, Value.membersExact, inside]
  | evaluate | enableDebugger | disableDebugger => rfl

theorem isOrdered_toJson (r : Request) (ordered : ∀ v ∈ r.args, v.isOrdered = true) :
    r.toJson.isOrdered = true := by
  have ascending (names : List String) (named : r.toMembers.map Prod.fst = names)
      (increasing : names.Pairwise (· < ·)) (inside : ∀ m ∈ r.toMembers, m.2.isOrdered = true) :
      r.toJson.isOrdered = true :=
    Value.isOrdered_object_iff.mpr ⟨Members.ascending_of_names named increasing, inside⟩
  cases r with
  | evaluate source =>
    exact ascending ["op", "source"] rfl (by decide) (by simp [toMembers, Value.isOrdered])
  | invoke name args =>
    have inside : Value.itemsOrdered args = true := Value.itemsOrdered_iff.mpr ordered
    exact ascending ["args", "name", "op"] rfl (by decide)
      (by simp [toMembers, Value.isOrdered, inside])
  | enableDebugger port =>
    exact ascending ["op", "port"] rfl (by decide)
      (by simp [toMembers, Value.isOrdered, Value.ofNat64])
  | disableDebugger => exact ascending ["op"] rfl (by decide) (by simp [toMembers, Value.isOrdered])

/-- The line of a request makes that request, if it is within the depth of the reader. -/
theorem ofLine_line (r : Request) (exact : ∀ v ∈ r.args, v.isExact = true)
    (ordered : ∀ v ∈ r.args, v.isOrdered = true) (fits : r.toJson.depth ≤ Json.Reader.maxDepth) :
    ofLine r.line = .ok r := by
  have found : Json.read r.line = .ok r.toJson :=
    Json.read_render (r.isExact_toJson exact) (r.isOrdered_toJson ordered) fits
  rw [ofLine_of_read found r.op_toJson, ofParams_toJson]

end Request

/-! ## Asking a bridge in lines -/

namespace Bridge

variable {H : Type} [Host H]

/-- A line is dealt with as the request that it makes, and without a trace if it makes none. -/
theorem handleLine_eq (line : String) (b : Bridge H) :
    b.handleLine line =
      match Request.ofLine line with
      | .ok r => b.dispatch r
      | .error fault => .quiet (.error fault) b := by
  unfold handleLine Request.ofLine
  cases Json.read line with
  | error e => rfl
  | ok params =>
    dsimp only
    cases (params.member? "op").bind Value.text? with
    | none => rfl
    | some op => exact perform_eq (.handle op params) b

/-- Watching the host does not change how a line is dealt with. -/
theorem handleLine_unwatched (line : String) (w : Bridge (Watched H)) :
    (w.handleLine line).within unwatched = w.unwatched.handleLine line := by
  rw [handleLine_eq, handleLine_eq]
  cases Request.ofLine line with
  | error fault => rfl
  | ok r => exact w.dispatch_unwatched r

/-- The calls of the host by which a bridge deals with a line, oldest first. -/
def callsOfLine (line : String) (b : Bridge H) : List HostCall :=
  (b.watched.handleLine line).state.host.calls

/-- The calls of the host by which a bridge carries out a request, oldest first. -/
def callsOfRequest (r : Request) (b : Bridge H) : List HostCall :=
  (b.watched.dispatch r).state.host.calls

/-- What deals with a line as with a request answers, ends and reports the same, and makes the same
calls of the host. -/
structure DealtAs (line : String) (r : Request) (b : Bridge H) : Prop where
  turn : b.handleLine line = b.dispatch r
  calls : b.callsOfLine line = b.callsOfRequest r

theorem dealtAs_of_ofLine {line : String} {r : Request} (made : Request.ofLine line = .ok r)
    (b : Bridge H) : DealtAs line r b := by
  -- This is said of every host, since the calls are those of the host that is watched.
  have turn {H : Type} [Host H] (b : Bridge H) : b.handleLine line = b.dispatch r := by
    rw [handleLine_eq, made]
  exact ⟨turn b, congrArg (fun t => t.state.host.calls) (turn b.watched)⟩

/-- A request that is carried out never blames an argument. -/
theorem dispatch_ne_argument (r : Request) (b : Bridge H) (param message : String) :
    (b.dispatch r).answer ≠ .error (.argument param message) := by
  intro blamed
  cases ((accounted_dispatch r b).argument param message).mp blamed

/-- To ask a bridge in lines is to ask it by requests. Each request whose line is within the depth of
the reader can be asked for by that line; and each line is refused for an argument, without a trace,
or dealt with as the one request that its JSON value makes for the operation named there. Only an
object names an operation, so the parameters as a whole are never to blame. -/
theorem handleLine_as_dispatch (b : Bridge H) :
    (∀ r : Request, (∀ v ∈ r.args, v.isExact = true) → (∀ v ∈ r.args, v.isOrdered = true) →
      r.toJson.depth ≤ 127 → DealtAs r.line r b) ∧
    ∀ line,
      ((∃ param message, b.handleLine line = .quiet (.error (.argument param message)) b ∧
          b.callsOfLine line = []) ∨
        ∃ params op r, Json.read? line = some params ∧
          (params.member? "op").bind Value.text? = some op ∧ Request.ofParams op params = .ok r ∧
          DealtAs line r b) ∧
      ∀ message, (b.handleLine line).answer ≠ .error (.argument "params" message) := by
  refine ⟨fun r exact ordered fits => dealtAs_of_ofLine (r.ofLine_line exact ordered fits) b,
    fun line => ?_⟩
  cases made : Request.ofLine line with
  | ok r =>
    have dealt := dealtAs_of_ofLine made b
    obtain ⟨params, op, found, named, valid⟩ := Request.exists_of_ofLine_eq_ok made
    refine ⟨.inr ⟨params, op, r, found, named, valid, dealt⟩, fun message => ?_⟩
    rw [dealt.turn]
    exact dispatch_ne_argument r b "params" message
  | error fault =>
    obtain ⟨param, known, message, rfl⟩ := Request.ofLine_error made
    have refused {H : Type} [Host H] (b : Bridge H) :
        b.handleLine line = .quiet (.error (.argument param message)) b := by
      rw [handleLine_eq, made]
    refine ⟨.inl ⟨param, message, refused b, ?_⟩, fun message => ?_⟩
    · rw [callsOfLine, refused b.watched]
      rfl
    · rw [refused]
      rintro ⟨⟩
      exact absurd known (by decide)

/-- A call whose line is nested as deep as a line can be reaches the host with its name and its
arguments. -/
theorem handleLine_as_dispatch_at_limit :
    (Request.invoke "\\\n\u0001😀" [.nested 125, .object [("\"", .null)]]).toJson.depth = 127 ∧
      ∃ answer, (Bridge.ofHost RecordingHost.empty).callsOfLine
          (Request.invoke "\\\n\u0001😀" [.nested 125, .object [("\"", .null)]]).line =
        [.invoke "\\\n\u0001😀" (Json.renderList [.nested 125, .object [("\"", .null)]]) answer] :=
  have dealt := (handleLine_as_dispatch (Bridge.ofHost RecordingHost.empty)).1
    (Request.invoke "\\\n\u0001😀" [.nested 125, .object [("\"", .null)]])
    (by decide +kernel) (by decide +kernel) (by decide +kernel)
  ⟨by decide +kernel, _, dealt.calls⟩

end Bridge

end ScriptGate
