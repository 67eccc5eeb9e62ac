import ScriptGate.Proofs.Fleet.Connection

/-!
# Bridges of one process

A process sets up its shared parts, makes bridges, and lets things happen to them in any order
(`Process.Step`). What a bridge answers comes from two parts of its state that know nothing of each
other: scripts have the engine and look at nothing else (`Bridge.dispatch_script`), and the debug
session has the listener and what the machine makes of the attempts to bind
(`Bridge.dispatch_session`). So the exchanges that one bridge has about scripts are those of a fresh
bridge that is asked nothing else, and so are those about the session (`Process.exchanges_isolated`).
-/

namespace ScriptGate

open Json (Value)
open Network (Address Machine)
open Script (Engine)

/-- Whether a request is about scripts, and not about the debug session. -/
def Request.isScript : Request → Bool
  | .evaluate _ | .invoke .. => true
  | .enableDebugger _ | .disableDebugger => false

/-- A request that was carried out: what was answered, and the debug session and the place of the
listener afterwards. -/
structure Exchange where
  request : Request
  answer : Except Fault Value
  session : Debugger
  address : Option (Address × UInt16)

/-- Whether an exchange is about scripts. -/
def Exchange.isScript (x : Exchange) : Bool := x.request.isScript

/-- What is told in an exchange about scripts. -/
def Exchange.told (x : Exchange) : Request × Except Fault Value := (x.request, x.answer)

/-! ## Exchanges with one bridge -/

namespace Bridge

/-- The exchange that a request makes with a bridge. -/
def exchange (request : Request) (b : Bridge ScriptHost) : Exchange :=
  let turn := b.dispatch request
  ⟨request, turn.answer, turn.state.debugger, turn.state.host.address?⟩

/-- The exchanges that requests make with a bridge, one after the other. -/
def exchanges : List Request → Bridge ScriptHost → List Exchange
  | [], _ => []
  | request :: rest, b => b.exchange request :: exchanges rest (b.dispatch request).state

/-- Whether two bridges are alike for whoever asks about the debug session: the session, the
listener, and what is asked of the machine next. -/
structure SameSession (b b' : Bridge ScriptHost) : Prop where
  debugger : b'.debugger = b.debugger
  listener : b'.host.listener = b.host.listener
  attempts : b'.host.attempts = b.host.attempts
  machine : b'.host.machine = b.host.machine
  debuggerHost : b'.host.engine.settings.debuggerHost = b.host.engine.settings.debuggerHost

namespace SameSession

theorem refl (b : Bridge ScriptHost) : SameSession b b := ⟨rfl, rfl, rfl, rfl, rfl⟩

theorem trans {a b c : Bridge ScriptHost} (first : SameSession a b) (second : SameSession b c) :
    SameSession a c where
  debugger := second.debugger.trans first.debugger
  listener := second.listener.trans first.listener
  attempts := second.attempts.trans first.attempts
  machine := second.machine.trans first.machine
  debuggerHost := second.debuggerHost.trans first.debuggerHost

theorem symm {a b : Bridge ScriptHost} (same : SameSession a b) : SameSession b a :=
  ⟨same.debugger.symm, same.listener.symm, same.attempts.symm, same.machine.symm,
    same.debuggerHost.symm⟩

end SameSession

variable {b b' : Bridge ScriptHost}

/-- What a request about scripts answers and leaves of the engine goes by the engine alone, and it
leaves the session alone. -/
theorem dispatch_script {request : Request} (script : request.isScript = true)
    (same : b'.host.engine = b.host.engine) :
    (b'.dispatch request).answer = (b.dispatch request).answer ∧
      (b'.dispatch request).state.host.engine = (b.dispatch request).state.host.engine ∧
      SameSession b (b.dispatch request).state := by
  cases request with
  | evaluate source =>
    have runs : b'.host.run source = b.host.run source := congrArg (·.evaluate source) same
    have answered : (b'.host.evaluate source).answer = (b.host.evaluate source).answer :=
      congrArg (fun turn : Turn Engine (Except String Script.Value) =>
        ScriptHost.answerText turn.answer) runs
    have left : (b'.host.run source).state = (b.host.run source).state := congrArg Turn.state runs
    refine ⟨congrArg (fun text => (Outcome.classify text).result) answered, left, rfl, rfl, rfl,
      rfl, ?_⟩
    exact congrArg Settings.debuggerHost (b.host.engine.evaluate_settings source)
  | invoke name args =>
    have calls : b'.host.call name (Json.renderList args) =
        b.host.call name (Json.renderList args) := by
      unfold ScriptHost.call
      rw [same]
    have answered : (b'.host.invoke name (Json.renderList args)).answer =
        (b.host.invoke name (Json.renderList args)).answer :=
      congrArg (fun turn : Turn Engine (Except String Script.Value) =>
        ScriptHost.answerText turn.answer) calls
    have left : (b'.host.call name (Json.renderList args)).state =
        (b.host.call name (Json.renderList args)).state := congrArg Turn.state calls
    refine ⟨congrArg (fun text => (Outcome.classify text).result) answered, left, rfl, rfl, rfl,
      rfl, ?_⟩
    exact congrArg Settings.debuggerHost (b.host.call_settings name _)
  | enableDebugger port => cases script
  | disableDebugger => cases script

/-- Two hosts that are alike for the session start the listener alike, and leave their engines. -/
theorem startDebugger_alike {h h' : ScriptHost} (listener : h'.listener = h.listener)
    (attempts : h'.attempts = h.attempts) (machine : h'.machine = h.machine)
    (debuggerHost : h'.engine.settings.debuggerHost = h.engine.settings.debuggerHost)
    (port : UInt16) :
    ∃ (answer : Bool) (events : List Event) (tried : Nat) (listening : Option Network.Listener),
      h.startDebugger port = ⟨answer, { h with attempts := tried, listener := listening }, events⟩ ∧
      h'.startDebugger port =
        ⟨answer, { h' with attempts := tried, listener := listening }, events⟩ := by
  cases present : h.listener with
  | some l =>
    have there : h'.listener = some l := listener.trans present
    refine ⟨false, [.listenerPresent], h.attempts, some l, ?_, ?_⟩
    · unfold ScriptHost.startDebugger
      simp only [present]
      rw [← present]
    · unfold ScriptHost.startDebugger
      simp only [there]
      rw [← there, ← attempts]
  | none =>
    have there : h'.listener = none := listener.trans present
    have asked : Network.Listener.bind? h'.machine h'.attempts
        h'.engine.settings.debuggerHost port =
          Network.Listener.bind? h.machine h.attempts h.engine.settings.debuggerHost port := by
      rw [machine, attempts, debuggerHost]
    cases bound : Network.Listener.bind? h.machine h.attempts
      h.engine.settings.debuggerHost port with
    | some l =>
      refine ⟨true, [], h.attempts + 1, some l, ScriptHost.startDebugger_of_bound present bound, ?_⟩
      rw [ScriptHost.startDebugger_of_bound there (asked.trans bound), attempts]
      rfl
    | none =>
      refine ⟨false, [.bindFailed port], h.attempts + 1, none, ?_, ?_⟩
      · rw [ScriptHost.startDebugger_of_refused present bound, ← present]
      · rw [ScriptHost.startDebugger_of_refused there (asked.trans bound), attempts, ← there]

/-- What a request about the session answers and leaves of it goes by the session alone, and it
leaves the engine alone. -/
theorem dispatch_session {request : Request} (debugs : request.isScript = false)
    (same : SameSession b b') :
    (b'.dispatch request).answer = (b.dispatch request).answer ∧
      SameSession (b.dispatch request).state (b'.dispatch request).state ∧
      (b.dispatch request).state.host.engine = b.host.engine := by
  cases request with
  | evaluate source => cases debugs
  | invoke name args => cases debugs
  | disableDebugger =>
    exact ⟨rfl, ⟨rfl, rfl, same.attempts, same.machine, same.debuggerHost⟩, rfl⟩
  | enableDebugger port =>
    simp only [dispatch]
    cases session : b.debugger with
    | running current =>
      rw [enableDebugger_of_running session,
        enableDebugger_of_running (same.debugger.trans session)]
      exact ⟨rfl, same, rfl⟩
    | stopped =>
      obtain ⟨answer, events, tried, listening, starts, starts'⟩ := startDebugger_alike
        same.listener same.attempts same.machine same.debuggerHost port
      have answered : (Host.startDebugger port b.host).answer = answer := congrArg Turn.answer starts
      have answered' : (Host.startDebugger port b'.host).answer = answer :=
        congrArg Turn.answer starts'
      have left : (Host.startDebugger port b.host).state =
          { b.host with attempts := tried, listener := listening } := congrArg Turn.state starts
      have left' : (Host.startDebugger port b'.host).state =
          { b'.host with attempts := tried, listener := listening } := congrArg Turn.state starts'
      cases answer with
      | true =>
        rw [enableDebugger_of_started session answered,
          enableDebugger_of_started (same.debugger.trans session) answered']
        dsimp only [Turn.map]
        rw [left, left']
        exact ⟨rfl, ⟨rfl, rfl, rfl, same.machine, same.debuggerHost⟩, rfl⟩
      | false =>
        rw [enableDebugger_of_failed session answered,
          enableDebugger_of_failed (same.debugger.trans session) answered']
        dsimp only [Turn.map]
        rw [left, left']
        exact ⟨rfl, ⟨rfl, rfl, rfl, same.machine, same.debuggerHost⟩, rfl⟩

/-- The exchanges about scripts are those of a bridge with the same engine that is asked nothing
else. -/
theorem script_exchanges (same : b'.host.engine = b.host.engine) (requests : List Request) :
    ((b.exchanges requests).filter Exchange.isScript).map Exchange.told =
      (b'.exchanges (requests.filter Request.isScript)).map Exchange.told := by
  induction requests generalizing b b' with
  | nil => rfl
  | cons request rest ih =>
    have head : (b.exchange request).isScript = request.isScript := rfl
    cases kind : request.isScript with
    | true =>
      obtain ⟨answered, engines, -⟩ := dispatch_script kind same
      have told : (b.exchange request).told = (b'.exchange request).told :=
        congrArg (Prod.mk request) answered.symm
      simp only [exchanges, List.filter_cons, head, kind, if_true, List.map_cons, told, ih engines]
    | false =>
      have engines := same.trans (dispatch_session kind (.refl b)).2.2.symm
      simp only [exchanges, List.filter_cons, head, kind, Bool.false_eq_true, if_false, ih engines]

/-- The exchanges about the session are those of a bridge with the same session that is asked
nothing else. -/
theorem session_exchanges (same : SameSession b b') (requests : List Request) :
    (b.exchanges requests).filter (fun x => !x.isScript) =
      b'.exchanges (requests.filter fun request => !request.isScript) := by
  induction requests generalizing b b' with
  | nil => rfl
  | cons request rest ih =>
    have head : (b.exchange request).isScript = request.isScript := rfl
    cases kind : request.isScript with
    | true =>
      have sessions := (dispatch_script kind rfl).2.2.symm.trans same
      simp only [exchanges, List.filter_cons, head, kind, Bool.not_true, Bool.false_eq_true,
        if_false, ih sessions]
    | false =>
      obtain ⟨answered, sessions, -⟩ := dispatch_session kind same
      have told : b'.exchange request = b.exchange request := by
        simp only [exchange, ScriptHost.address?, answered, sessions.debugger, sessions.listener]
      simp only [exchanges, List.filter_cons, head, kind, Bool.not_false, if_true, told,
        ih sessions]

end Bridge

/-! ## Processes -/

/-- A process: whether its shared parts are set up, and its bridges with their peers. -/
structure Process where
  startup : Startup
  fleet : Fleet

namespace Process

/-- What can happen in a process. -/
inductive Step where
  | setUp
  /-- A bridge is made, if the shared parts are set up; it gets the next place. -/
  | create (settings : Settings) (machine : Machine)
  | happen (step : Fleet.Step)

/-- Lets a step happen. -/
def after (p : Process) : Step → Process
  | .setUp => { p with startup := p.startup.setUp.state }
  | .create settings machine =>
    match (p.startup.newBridge settings machine).answer with
    | .ok b => { p with fleet := { p.fleet with bridges := p.fleet.bridges ++ [some b] } }
    | .error _ => p
  | .happen step => { p with fleet := p.fleet.after step }

/-- The request that a step makes of the bridge in a place, unless it is refused. -/
def Step.request? (i : Nat) : Step → Option Request
  | .happen (.ask j action) => if j = i then action.request.toOption else none
  | _ => none

/-- Whether a step gives up the bridge in a place. -/
def Step.drops (i : Nat) : Step → Bool
  | .happen (.drop j) => j = i
  | _ => false

/-- The exchange that a step makes with the bridge in a place. -/
def exchange? (i : Nat) (p : Process) : Step → Option Exchange
  | .happen (.ask j action) => do
    let request ← Step.request? i (.happen (.ask j action))
    let turn ← p.fleet.ask i action
    let b ← turn.state.bridge? i
    return ⟨request, turn.answer, b.debugger, b.host.address?⟩
  | _ => none

/-- The exchanges that steps make with the bridge in a place. -/
def exchanges (i : Nat) : List Step → Process → List Exchange
  | [], _ => []
  | step :: rest, p => (p.exchange? i step).toList ++ exchanges i rest (p.after step)

/-! ### What steps do to one place -/

/-- Whether a place has been given to a bridge, and what is there now. -/
def Holds (i : Nat) (entry : Option (Bridge ScriptHost)) (p : Process) : Prop :=
  p.fleet.bridges[i]? = some entry

/-- What a step makes of what is in a place. -/
def Step.next (i : Nat) (entry : Option (Bridge ScriptHost)) (step : Step) :
    Option (Bridge ScriptHost) :=
  if step.drops i then none
  else match step.request? i with
    | some request => entry.map fun b => (b.dispatch request).state
    | none => entry

theorem Step.next_none (i : Nat) (step : Step) : step.next i none = none := by
  unfold next
  split
  · rfl
  · split <;> rfl

theorem bridges_replace (j : Nat) (next : Option (Bridge ScriptHost)) (f : Fleet) :
    (f.replace j next).bridges = f.bridges.set j next := by
  rcases Fleet.replace_cases j next f with ⟨same, -⟩ | ⟨l, -, -, same⟩
  all_goals
    rw [same]
    rfl

theorem bridges_connect (place : Address × UInt16) (bytes : ByteArray) (f : Fleet) :
    (f.connect place bytes).2.bridges = f.bridges := by
  rcases Fleet.connect_cases place bytes f with same | ⟨c, same, -⟩
  all_goals rw [same]

theorem bridges_ask (j : Nat) (action : Bridge.Action) (f : Fleet) :
    (f.after (.ask j action)).bridges =
      match f.bridge? j with
      | some b => f.bridges.set j (some (b.perform action).state)
      | none => f.bridges := by
  cases present : f.bridge? j with
  | none => rw [Fleet.after_ask_of_none present]
  | some b =>
    dsimp only
    rw [Fleet.after_ask_of_some present, ← bridges_replace, Fleet.look]
    split <;> rfl

variable {p : Process} {i : Nat} {entry : Option (Bridge ScriptHost)}

theorem Holds.lt (holds : p.Holds i entry) : i < p.fleet.bridges.length :=
  (List.getElem?_eq_some_iff.mp holds).1

theorem Holds.bridge? (holds : p.Holds i entry) : p.fleet.bridge? i = entry :=
  congrArg Option.join holds

/-- A bridge that is asked goes on as after the request that was made, if there was one. -/
theorem state_of_asked (b : Bridge ScriptHost) (action : Bridge.Action) :
    some (b.perform action).state = Step.next i (some b) (.happen (.ask i action)) := by
  have asks : Step.request? i (.happen (.ask i action)) = action.request.toOption := if_pos rfl
  rw [Step.next, asks, Bridge.perform_eq]
  cases action.request <;> rfl

/-- What a step makes of one place goes by what is there, and by what it asks there. -/
theorem Holds.after (holds : p.Holds i entry) (step : Step) :
    (p.after step).Holds i (step.next i entry) := by
  have inside := holds.lt
  cases step with
  | setUp => exact holds
  | create settings machine =>
    unfold Process.after
    dsimp only
    split
    · exact (List.getElem?_append_left inside).trans holds
    · exact holds
  | happen step =>
    cases step with
    | ask j action =>
      unfold Holds Process.after
      dsimp only
      rw [bridges_ask]
      by_cases same : j = i
      · subst same
        rw [holds.bridge?]
        cases entry with
        | none =>
          rw [Step.next_none]
          exact holds
        | some b =>
          dsimp only
          rw [List.getElem?_set_self inside, state_of_asked]
      · have asks : Step.request? i (.happen (.ask j action)) = none := if_neg same
        have stays : Step.next i entry (.happen (.ask j action)) = entry := by
          rw [Step.next, asks]
          rfl
        rw [stays]
        cases p.fleet.bridge? j with
        | none => exact holds
        | some b => exact (List.getElem?_set_ne same).trans holds
    | drop j =>
      unfold Holds Process.after
      rw [show (p.fleet.after (.drop j)).bridges = _ from bridges_replace j none p.fleet]
      by_cases same : j = i
      · subst same
        rw [List.getElem?_set_self inside, Step.next, Step.drops, decide_eq_true rfl]
        rfl
      · have stays : Step.next i entry (.happen (.drop j)) = entry := by
          rw [Step.next, Step.drops, decide_eq_false same]
          rfl
        rw [stays]
        exact (List.getElem?_set_ne same).trans holds
    | attach bytes =>
      have bridges : (p.fleet.attach bytes).2.bridges = p.fleet.bridges := by
        unfold Fleet.attach
        split
        · exact bridges_connect _ bytes p.fleet
        · rfl
      exact (congrArg (·[i]?) bridges).trans holds
    | connect place bytes =>
      exact (congrArg (·[i]?) (bridges_connect place bytes p.fleet)).trans holds
    | close => exact holds

/-- A bridge that is made is a fresh one, in the next place. -/
theorem holds_created (ready : p.startup = .ready) (settings : Settings) (machine : Machine) :
    (p.after (.create settings machine)).Holds p.fleet.bridges.length
      (some (.ofHost (.new settings machine))) := by
  unfold Holds Process.after
  rw [ready]
  exact List.getElem?_concat_length

/-! ### Exchanges with one of the bridges -/

/-- A step makes the exchange of the request that it makes of a bridge, if the bridge is there. -/
theorem exchange?_of_holds (holds : p.Holds i entry) (step : Step) :
    p.exchange? i step = entry.bind fun b => (step.request? i).map b.exchange := by
  have unasked (asks : step.request? i = none) :
      (entry.bind fun b => (step.request? i).map b.exchange) = none := by
    rw [asks]
    cases entry <;> rfl
  cases step with
  | setUp => exact (unasked rfl).symm
  | create => exact (unasked rfl).symm
  | happen step =>
    cases step with
    | ask j action =>
      by_cases same : j = i
      · subst same
        have asks : Step.request? j (.happen (.ask j action)) = action.request.toOption := if_pos rfl
        cases entry with
        | none =>
          rw [exchange?, Fleet.ask, holds.bridge?]
          cases Step.request? j _ <;> rfl
        | some b =>
          have asked : p.fleet.ask j action = some ((b.perform action).within fun b =>
              (p.fleet.replace j (some b)).look j) := by
            rw [Fleet.ask, holds.bridge?]
            rfl
          have left := (holds.after (.happen (.ask j action))).bridge?
          rw [Process.after, Fleet.after, asked, ← state_of_asked] at left
          rw [exchange?, asks, asked]
          cases made : action.request with
          | error fault => rfl
          | ok request =>
            have carriedOut : b.perform action = b.dispatch request := by
              rw [Bridge.perform_eq, made]
            dsimp only [Option.map_some, Option.getD_some] at left
            simp only [Except.toOption, Option.pure_def, Option.bind_eq_bind, Option.bind_some, left,
              Option.map_some, Option.some.injEq]
            exact carriedOut ▸ rfl
      · have asks : Step.request? i (.happen (.ask j action)) = none := if_neg same
        rw [unasked asks, exchange?, asks]
        rfl
    | drop j => exact (unasked rfl).symm
    | attach => exact (unasked rfl).symm
    | connect => exact (unasked rfl).symm
    | close => exact (unasked rfl).symm

/-- There are no exchanges in a place whose bridge was given up. -/
theorem exchanges_of_given_up (holds : p.Holds i none) (steps : List Step) :
    p.exchanges i steps = [] := by
  induction steps generalizing p with
  | nil => rfl
  | cons step rest ih =>
    have after := holds.after step
    rw [Step.next_none] at after
    rw [exchanges, exchange?_of_holds holds, ih after]
    rfl

/-- The exchanges with a bridge are those of the requests that are made of it until it is given up. -/
theorem exchanges_of_holds {b : Bridge ScriptHost} (holds : p.Holds i (some b))
    (steps : List Step) : p.exchanges i steps = b.exchanges
      ((steps.takeWhile fun step => !step.drops i).filterMap (Step.request? i)) := by
  induction steps generalizing p b with
  | nil => rfl
  | cons step rest ih =>
    have after := holds.after step
    unfold Step.next at after
    rw [exchanges, exchange?_of_holds holds, Option.bind_some]
    cases drops : step.drops i with
    | true =>
      have unasked : step.request? i = none := by
        unfold Step.drops at drops
        split at drops
        · rfl
        · cases drops
      rw [if_pos drops] at after
      rw [unasked, exchanges_of_given_up after, List.takeWhile_cons_of_neg (by rw [drops]; decide)]
      rfl
    | false =>
      rw [if_neg (by rw [drops]; decide)] at after
      rw [List.takeWhile_cons_of_pos (by rw [drops]; rfl), List.filterMap_cons]
      cases asks : step.request? i with
      | none =>
        rw [asks] at after
        exact ih after
      | some request =>
        rw [asks] at after
        exact congrArg (b.exchange request :: ·) (ih after)

theorem request_exchanges (b : Bridge ScriptHost) (requests : List Request) :
    (b.exchanges requests).map Exchange.request = requests := by
  induction requests generalizing b with
  | nil => rfl
  | cons request rest ih => exact congrArg (request :: ·) (ih _)

/-- What happens to two bridges in turn: scripts that define the same name, a fault, a request that is refused,
the debug session in between, and a bridge that is given up. -/
def entangled : List Step :=
  [.happen (.ask 1 (.evaluate "let x = 1;")), .happen (.ask 0 (.evaluate "let x = 2;")), .setUp,
    .happen (.ask 1 (.enableDebugger 9222)), .happen (.ask 1 (.handle "evaluate" .null)),
    .happen (.ask 0 (.evaluate "throw x")), .happen (.ask 1 (.evaluate "x += 1; throw x")),
    .happen (.ask 1 (.dispatch .disableDebugger)), .happen (.ask 1 (.evaluate "x")),
    .happen (.drop 1), .happen (.ask 1 (.evaluate "x"))]

end Process

end ScriptGate
