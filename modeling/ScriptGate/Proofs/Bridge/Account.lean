import ScriptGate.Proofs.Bridge.Watched

/-!
# Requests and the calls of the host

Whatever a bridge answers to a request, the answer accounts for the calls that were made of the
host. A request that is refused for an argument makes no call and leaves no trace. Any other
request makes one call, with the arguments that were checked, and its result is what that call led
to (`Request.CarriedOut`); only a session that is running is not started again.
`Bridge.handle_accounted` puts that together for each kind of answer.
-/

namespace ScriptGate

open Json (Members Value)

/-! ## Refused requests -/

namespace Request

variable {α β : Type}

/-- Whether a check only ever refuses for the sake of an argument. -/
def BlamesArgument (check : Except Fault α) : Prop :=
  ∀ fault, check = .error fault → ∃ param message, fault = .argument param message

theorem blamesArgument_ok (a : α) : BlamesArgument (.ok a) := nofun

theorem blamesArgument_error (param message : String) :
    BlamesArgument (.error (.argument param message) : Except Fault α) := by
  rintro _ ⟨⟩
  exact ⟨param, message, rfl⟩

/-- Checks one after the other. -/
theorem BlamesArgument.bind {first : Except Fault α} {next : α → Except Fault β}
    (h : BlamesArgument first) (h' : ∀ a, BlamesArgument (next a)) :
    BlamesArgument (first >>= next) := by
  cases first with
  | ok a => exact h' a
  | error e =>
    intro fault same
    cases same
    exact h e rfl

theorem members_blamesArgument (params : Value) : BlamesArgument (members params) := by
  unfold members
  split
  · exact blamesArgument_ok _
  · exact blamesArgument_ok _
  · exact blamesArgument_error _ _

theorem textField_blamesArgument (params : Members) (name : String) :
    BlamesArgument (textField params name) := by
  unfold textField
  split
  · exact blamesArgument_ok _
  · exact blamesArgument_error _ _

theorem argsField_blamesArgument (params : Members) : BlamesArgument (argsField params) := by
  unfold argsField
  split
  · exact blamesArgument_ok _
  · exact blamesArgument_error _ _

theorem portField_blamesArgument (params : Members) : BlamesArgument (portField params) := by
  unfold portField
  split
  · split
    · exact blamesArgument_ok _
    · exact blamesArgument_error _ _
  · exact blamesArgument_error _ _

/-- A request is only ever refused for the sake of an argument. -/
theorem ofParams_blamesArgument (op : String) (params : Value) :
    BlamesArgument (ofParams op params) := by
  refine (members_blamesArgument params).bind fun fields => ?_
  split
  · exact (textField_blamesArgument fields "source").bind fun _ => blamesArgument_ok _
  split
  · exact (textField_blamesArgument fields "name").bind fun _ =>
      (argsField_blamesArgument fields).bind fun _ => blamesArgument_ok _
  split
  · exact (portField_blamesArgument fields).bind fun _ => blamesArgument_ok _
  split
  · exact blamesArgument_ok _
  · exact blamesArgument_error _ _

end Request

/-! ## Requests that are carried out -/

/-- The calls that carry out a request, each with the result that it leads to. -/
inductive Request.CarriedOut : Request → HostCall → Except Fault Value → Prop
  | evaluate (source answer : String) :
    CarriedOut (.evaluate source) (.evaluate source answer) (Outcome.classify answer).result
  | invoke (name : String) (args : List Value) (answer : String) :
    CarriedOut (.invoke name args) (.invoke name (Json.renderList args) answer)
      (Outcome.classify answer).result
  | started (port : UInt16) :
    CarriedOut (.enableDebugger port) (.startDebugger port true) (.ok .null)
  | failed (port : UInt16) :
    CarriedOut (.enableDebugger port) (.startDebugger port false)
      (.error (.engine "failed to start debug server"))
  | stopped : CarriedOut .disableDebugger .stopDebugger (.ok .null)

/-- The only fault that an answer of the host can stand for is its own text. -/
theorem Outcome.eq_script_of_result {answer : String} {fault : Fault}
    (faulty : (classify answer).result = .error fault) : fault = .script answer := by
  unfold classify at faulty
  split at faulty
  · cases faulty
  split at faulty
  · cases faulty
  · cases faulty
    rfl

/-- The faults that a call can lead to. -/
theorem Request.CarriedOut.fault_cases {request : Request} {call : HostCall} {fault : Fault}
    (h : request.CarriedOut call (.error fault)) :
    (∃ source text, request = .evaluate source ∧ call = .evaluate source text ∧
      fault = .script text) ∨
    (∃ name args text, request = .invoke name args ∧
      call = .invoke name (Json.renderList args) text ∧ fault = .script text) ∨
    ∃ port, request = .enableDebugger port ∧ call = .startDebugger port false ∧
      fault = .engine "failed to start debug server" := by
  generalize faulty : Except.error fault = result at h
  cases h with
  | evaluate source answer =>
    exact .inl ⟨source, answer, rfl, rfl, Outcome.eq_script_of_result faulty.symm⟩
  | invoke name args answer =>
    exact .inr (.inl ⟨name, args, answer, rfl, rfl, Outcome.eq_script_of_result faulty.symm⟩)
  | failed port =>
    cases faulty
    exact .inr (.inr ⟨port, rfl, rfl, rfl⟩)
  | started port => cases faulty
  | stopped => cases faulty

/-- The session after a request with that answer. -/
def Debugger.after (request : Except Fault Request) (answer : Except Fault Value)
    (session : Debugger) : Debugger :=
  match request, answer with
  | .ok (.enableDebugger port), .ok _ => .running port
  | .ok .disableDebugger, _ => .stopped
  | _, _ => session

namespace Bridge

variable {H : Type}

/-! ## The account of an answer -/

/-- How the answer of a bridge to a request, which may have been refused, accounts for the calls
that were made of its host. -/
structure Accounted (request : Except Fault Request) (b : Bridge H)
    (turn : Turn (Bridge H) (Except Fault Value)) (calls : List HostCall) : Prop where
  /-- An argument is blamed exactly if the request was refused for it. -/
  argument : ∀ param message, turn.answer = .error (.argument param message) ↔
    request = .error (.argument param message)
  /-- A request is only refused for an argument; then there is no call and nothing changes. -/
  refused : ∀ fault, request = .error fault →
    (∃ param message, fault = .argument param message) ∧ turn.answer = .error fault ∧
      calls = [] ∧ turn.state = b
  /-- The engine refuses nothing but a session: one beside another, or one that it cannot start. -/
  engine : ∀ message, turn.answer = .error (.engine message) →
    ∃ port, request = .ok (.enableDebugger port) ∧
      ((∃ current, b.debugger = .running current ∧ calls = [] ∧ turn.state = b ∧
          message = "debug server already running on port " ++ toString current) ∨
        (b.debugger = .stopped ∧ calls = [.startDebugger port false] ∧
          turn.state.debugger = .stopped))
  /-- The fault of a script is what the one call of the script answered. -/
  script : ∀ text, turn.answer = .error (.script text) →
    (∃ source, request = .ok (.evaluate source) ∧ calls = [.evaluate source text]) ∨
      ∃ name args, request = .ok (.invoke name args) ∧
        calls = [.invoke name (Json.renderList args) text]
  /-- A result is what the one call led to that carries out the request. -/
  result : ∀ v, turn.answer = .ok v →
    ∃ valid call, request = .ok valid ∧ calls = [call] ∧ valid.CarriedOut call (.ok v)
  /-- Only starting and stopping a session changes it. -/
  session : turn.state.debugger = b.debugger.after request turn.answer

/-- A refused request is accounted for. -/
theorem accounted_refused {fault : Fault}
    (blames : ∃ param message, fault = .argument param message) (b : Bridge H) :
    Accounted (.error fault) b (.quiet (.error fault) b) [] := by
  obtain ⟨param, message, rfl⟩ := blames
  constructor
  case argument =>
    intro p m
    constructor
    · rintro ⟨⟩
      rfl
    · rintro ⟨⟩
      rfl
  case refused =>
    rintro _ ⟨⟩
    exact ⟨⟨param, message, rfl⟩, rfl, rfl, rfl⟩
  case engine => nofun
  case script => nofun
  case result => nofun
  case session => rfl

/-- The refusal to start a session beside another is accounted for. -/
theorem accounted_rejected {b : Bridge H} {port current : UInt16}
    (running : b.debugger = .running current) (events : List Event) :
    Accounted (.ok (.enableDebugger port)) b
      ⟨.error (.engine ("debug server already running on port " ++ toString current)), b, events⟩
      [] := by
  constructor
  case argument => exact fun _ _ => ⟨nofun, nofun⟩
  case refused => nofun
  case engine =>
    rintro _ ⟨⟩
    exact ⟨port, rfl, .inl ⟨current, running, rfl, rfl, rfl⟩⟩
  case script => nofun
  case result => nofun
  case session => rfl

/-- A request that one call carries out is accounted for, if only starting and stopping a session
has changed it. -/
theorem accounted_carriedOut {request : Request} {call : HostCall} {b : Bridge H}
    {turn : Turn (Bridge H) (Except Fault Value)}
    (stopped : ∀ port, request = .enableDebugger port → b.debugger = .stopped)
    (carriedOut : request.CarriedOut call turn.answer)
    (session : turn.state.debugger = b.debugger.after (.ok request) turn.answer) :
    Accounted (.ok request) b turn [call] := by
  constructor
  case argument =>
    intro param message
    refine ⟨fun told => ?_, nofun⟩
    rw [told] at carriedOut
    rcases carriedOut.fault_cases with
      ⟨_, _, _, _, same⟩ | ⟨_, _, _, _, _, same⟩ | ⟨_, _, _, same⟩ <;> cases same
  case refused => nofun
  case engine =>
    intro message told
    rw [told] at carriedOut session
    rcases carriedOut.fault_cases with
      ⟨_, _, _, _, same⟩ | ⟨_, _, _, _, _, same⟩ | ⟨port, rfl, rfl, same⟩
    · cases same
    · cases same
    · have before := stopped port rfl
      exact ⟨port, rfl, .inr ⟨before, rfl, session.trans before⟩⟩
  case script =>
    intro text told
    rw [told] at carriedOut
    rcases carriedOut.fault_cases with
      ⟨source, _, rfl, rfl, same⟩ | ⟨name, args, _, rfl, rfl, same⟩ | ⟨_, _, _, same⟩
    · cases same
      exact .inl ⟨source, rfl, rfl⟩
    · cases same
      exact .inr ⟨name, args, rfl, rfl⟩
    · cases same
  case result =>
    intro v told
    rw [told] at carriedOut
    exact ⟨request, call, rfl, rfl, carriedOut⟩
  case session => exact session

/-! ## Carrying out a request -/

variable [Host H]

/-- A request makes the one call that carries it out, unless it would start a session beside
another. -/
theorem dispatch_cases (request : Request) (b : Bridge H) :
    (∃ port current, request = .enableDebugger port ∧ b.debugger = .running current ∧
      (b.watched.dispatch request).state.host.calls = [] ∧
      b.dispatch request =
        ⟨.error (.engine ("debug server already running on port " ++ toString current)), b,
          [.debuggerRejected current port]⟩) ∨
    ((∀ port, request = .enableDebugger port → b.debugger = .stopped) ∧
      ∃ call, (b.watched.dispatch request).state.host.calls = [call] ∧
        request.CarriedOut call (b.dispatch request).answer) := by
  cases request with
  | evaluate source => exact .inr ⟨nofun, _, rfl, .evaluate source _⟩
  | invoke name args => exact .inr ⟨nofun, _, rfl, .invoke name args _⟩
  | disableDebugger => exact .inr ⟨nofun, _, rfl, .stopped⟩
  | enableDebugger port =>
    rw [dispatch, dispatch]
    cases session : b.debugger with
    | running current =>
      rw [enableDebugger_of_running session, enableDebugger_of_running (b := b.watched) session]
      exact .inl ⟨port, current, rfl, rfl, rfl, rfl⟩
    | stopped =>
      cases answer : (Host.startDebugger port b.host).answer with
      | true =>
        rw [enableDebugger_of_started session answer,
          enableDebugger_of_started (b := b.watched) session answer]
        refine .inr ⟨fun _ _ => rfl, .startDebugger port true, ?_, .started port⟩
        exact congrArg (fun a => [HostCall.startDebugger port a]) answer
      | false =>
        rw [enableDebugger_of_failed session answer,
          enableDebugger_of_failed (b := b.watched) session answer]
        refine .inr ⟨fun _ _ => rfl, .startDebugger port false, ?_, .failed port⟩
        exact congrArg (fun a => [HostCall.startDebugger port a]) answer

/-- Only starting and stopping the session changes it. -/
theorem dispatch_debugger (request : Request) (b : Bridge H) :
    (b.dispatch request).state.debugger =
      b.debugger.after (.ok request) (b.dispatch request).answer := by
  cases request with
  | evaluate source => rfl
  | invoke name args => rfl
  | disableDebugger => rfl
  | enableDebugger port =>
    rw [dispatch]
    cases session : b.debugger with
    | running current =>
      rw [enableDebugger_of_running session]
      exact session
    | stopped =>
      cases answer : (Host.startDebugger port b.host).answer with
      | true =>
        rw [enableDebugger_of_started session answer]
        rfl
      | false =>
        rw [enableDebugger_of_failed session answer]
        rfl

/-- A request that is carried out is accounted for. -/
theorem accounted_dispatch (request : Request) (b : Bridge H) :
    Accounted (.ok request) b (b.dispatch request)
      (b.watched.dispatch request).state.host.calls := by
  rcases dispatch_cases request b with
    ⟨port, current, rfl, running, calls, rejected⟩ | ⟨stopped, call, calls, carriedOut⟩
  · rw [calls, rejected]
    exact accounted_rejected running _
  · rw [calls]
    exact accounted_carriedOut stopped carriedOut (dispatch_debugger request b)

/-- Whatever an operation and its parameters ask, the answer accounts for the calls that a watched
host notes; and watching the host changes nothing else. -/
theorem handle_accounted (op : String) (params : Value) (b : Bridge H) :
    Accounted (Request.ofParams op params) b (b.handle op params) (b.callsOf op params) ∧
      (b.watched.handle op params).within unwatched = b.handle op params := by
  refine ⟨?_, b.watched.handle_unwatched op params⟩
  unfold callsOf handle
  cases checked : Request.ofParams op params with
  | error fault =>
    exact accounted_refused (Request.ofParams_blamesArgument op params fault checked) b
  | ok request => exact accounted_dispatch request b

end Bridge

end ScriptGate
