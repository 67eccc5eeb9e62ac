import ScriptGate.Host.Recording
import ScriptGate.Proofs.Bridge.Run
import ScriptGate.Proofs.Bridge.Watched
import ScriptGate.Proofs.Line.Request

/-!
# The books of a host that runs no scripts

A recording host is prepared step by step, asked through a bridge, and then looked at. What it has to
answer is the last that was prepared for the very source or call (`RecordingHost.answersAs_prepared`).
What it has noted are the valid requests, in their order, but for those to start a session beside another
(`RecordingHost.Booked`). `RecordingHost.book` is the entry that one request makes, and
`Bridge.dispatch_host` says that a bridge makes no other; so both hold after every run
(`Bridge.books_exact`), whatever was refused on the way.
-/

namespace ScriptGate

open Json (Value)

/-! ## Preparing a host -/

namespace RecordingHost

/-- A step of preparing a host. -/
inductive Preparation where
  | respond (source answer : String)
  | respondInvoke (name args answer : String)
  | failingDebugger
deriving DecidableEq, Repr

/-- Takes a step of preparing a host. -/
def prepare (h : RecordingHost) : Preparation → RecordingHost
  | .respond source answer => h.respond source answer
  | .respondInvoke name args answer => h.respondInvoke name args answer
  | .failingDebugger => h.failingDebugger

/-- The host that is prepared by some steps, the earliest first. -/
def prepared (steps : List Preparation) : RecordingHost := steps.foldl prepare empty

namespace Preparation

/-- The answer that a step prepares for a source. -/
def forSource? (source : String) : Preparation → Option String
  | .respond known answer => if known = source then some answer else none
  | _ => none

/-- The answer that a step prepares for a call. -/
def forCall? (name args : String) : Preparation → Option String
  | .respondInvoke known text answer => if known = name ∧ text = args then some answer else none
  | _ => none

end Preparation

/-- The last of the answers that some steps prepare. -/
def last? (answer? : Preparation → Option String) (steps : List Preparation) : Option String :=
  (steps.filterMap answer?).getLast?

variable {steps : List Preparation} {h : RecordingHost}

/-- What is looked up after some steps is the last that they put there, if each step puts what it has
before what was there. -/
theorem foldl_prepare (found? : RecordingHost → Option String)
    (answer? : Preparation → Option String)
    (step : ∀ h p, found? (prepare h p) = (answer? p).or (found? h)) (steps : List Preparation)
    (h : RecordingHost) : found? (steps.foldl prepare h) = (last? answer? steps).or (found? h) := by
  induction steps generalizing h with
  | nil => rfl
  | cons p rest ih =>
    rw [List.foldl_cons, ih, step, ← Option.or_assoc, last?, last?]
    congr 1
    cases first : answer? p with
    | none => rw [List.filterMap_cons_none first, Option.or_none]
    | some answer =>
      rw [List.filterMap_cons_some first, List.getLast?_cons]
      cases (rest.filterMap answer?).getLast? <;> rfl

theorem lookup_evaluations_prepare (source : String) (h : RecordingHost) (p : Preparation) :
    (prepare h p).evaluations.lookup source =
      (p.forSource? source).or (h.evaluations.lookup source) := by
  cases p with
  | respond known answer =>
    change ((known, answer) :: h.evaluations).lookup source = _
    rw [List.lookup_cons, Preparation.forSource?]
    by_cases same : known = source
    · subst same
      simp
    · simp [same, beq_false_of_ne (Ne.symm same)]
  | respondInvoke name args answer => rfl
  | failingDebugger => rfl

theorem lookup_responses_prepare (name args : String) (h : RecordingHost) (p : Preparation) :
    (prepare h p).responses.lookup (name, args) =
      (p.forCall? name args).or (h.responses.lookup (name, args)) := by
  cases p with
  | respondInvoke known text answer =>
    change (((known, text), answer) :: h.responses).lookup (name, args) = _
    rw [List.lookup_cons, Preparation.forCall?]
    by_cases same : known = name ∧ text = args
    · obtain ⟨rfl, rfl⟩ := same
      simp
    · have other : (name, args) ≠ (known, text) := by
        rintro ⟨⟩
        exact same ⟨rfl, rfl⟩
      simp [same, beq_false_of_ne other]
  | respond source answer => rfl
  | failingDebugger => rfl

theorem debuggerFails_foldl_prepare (steps : List Preparation) (h : RecordingHost) :
    (steps.foldl prepare h).debuggerFails =
      (h.debuggerFails || decide (Preparation.failingDebugger ∈ steps)) := by
  induction steps generalizing h with
  | nil => simp
  | cons p rest ih =>
    rw [List.foldl_cons, ih]
    cases p with
    | respond source answer => simp [prepare, respond]
    | respondInvoke name args answer => simp [prepare, respondInvoke]
    | failingDebugger => simp [prepare, failingDebugger]

/-- Whether a host answers as some steps have prepared it. -/
structure AnswersAs (steps : List Preparation) (h : RecordingHost) : Prop where
  /-- A source is answered with the last that was prepared for it. -/
  source : ∀ source, (Host.evaluate source h).answer =
    (last? (Preparation.forSource? source) steps).getD noValue
  /-- So is a call, by its name and the text of its arguments. -/
  call : ∀ name args, (Host.invoke name args h).answer =
    (last? (Preparation.forCall? name args) steps).getD (echo args)
  /-- The debugger starts unless its failing was prepared. -/
  start : ∀ port, (Host.startDebugger port h).answer = true ↔ .failingDebugger ∉ steps

theorem answersAs_prepared (steps : List Preparation) : AnswersAs steps (prepared steps) := by
  constructor
  case source =>
    intro source
    have last := foldl_prepare (fun h => h.evaluations.lookup source)
      (Preparation.forSource? source) (lookup_evaluations_prepare source) steps empty
    exact congrArg (Option.getD · noValue) (last.trans Option.or_none)
  case call =>
    intro name args
    have last := foldl_prepare (fun h => h.responses.lookup (name, args))
      (Preparation.forCall? name args) (lookup_responses_prepare name args) steps empty
    exact congrArg (Option.getD · (echo args)) (last.trans Option.or_none)
  case start =>
    intro port
    change (!(prepared steps).debuggerFails) = true ↔ _
    rw [prepared, debuggerFails_foldl_prepare]
    simp [empty]

/-! ## Entries -/

/-- The books after one more request, which is made in that session. A session that is running is not
started again, so the host does not hear of that. -/
def book (h : RecordingHost) : Debugger → Request → RecordingHost
  | _, .evaluate _ => { h with calls := { h.calls with evaluate := h.calls.evaluate + 1 } }
  | _, .invoke name args =>
    { h with
      calls := { h.calls with invoke := h.calls.invoke + 1 }
      invocations := h.invocations ++ [(name, Json.renderList args)] }
  | .stopped, .enableDebugger _ =>
    { h with calls := { h.calls with startDebugger := h.calls.startDebugger + 1 } }
  | .running _, .enableDebugger _ => h
  | _, .disableDebugger =>
    { h with calls := { h.calls with stopDebugger := h.calls.stopDebugger + 1 } }

/-- What is noted has no part in the answers. -/
theorem AnswersAs.book (answers : AnswersAs steps h) (session : Debugger) (request : Request) :
    AnswersAs steps (h.book session request) := by
  cases request with
  | evaluate source => exact ⟨answers.source, answers.call, answers.start⟩
  | invoke name args => exact ⟨answers.source, answers.call, answers.start⟩
  | enableDebugger port => cases session <;> exact ⟨answers.source, answers.call, answers.start⟩
  | disableDebugger => exact ⟨answers.source, answers.call, answers.start⟩

/-- The call that a request notes: the name and the text of the arguments. -/
def call? : Request → Option (String × String)
  | .invoke name args => some (name, Json.renderList args)
  | _ => none

/-- Whether a request is for an operation. -/
def isFor (op : String) (made : Debugger × Request) : Bool := made.2.op = op

/-- Whether a request is to start a session, and is made while none is running. -/
def isStart (made : Debugger × Request) : Bool := made.1 = .stopped && isFor "enable_debugger" made

/-- Whether a request is to start a session beside another. -/
def isRejected (made : Debugger × Request) : Bool := made.1.isRunning && isFor "enable_debugger" made

/-- Whether the books of a host are those of the requests that were made, each in some session. -/
structure Booked (made : List (Debugger × Request)) (h : RecordingHost) : Prop where
  evaluate : h.calls.evaluate = made.countP (isFor "evaluate")
  invoke : h.calls.invoke = made.countP (isFor "invoke")
  /-- Every call is listed, in the order in which they were made. -/
  invocations : h.invocations = made.filterMap fun m => call? m.2
  startDebugger : h.calls.startDebugger = made.countP isStart
  stopDebugger : h.calls.stopDebugger = made.countP (isFor "disable_debugger")

theorem booked_prepared (steps : List Preparation) : Booked [] (prepared steps) := by
  suffices ∀ h : RecordingHost, Booked [] h → Booked [] (steps.foldl prepare h) from
    this empty ⟨rfl, rfl, rfl, rfl, rfl⟩
  induction steps with
  | nil => exact fun _ booked => booked
  | cons p rest ih =>
    intro h booked
    refine ih _ ?_
    cases p with
    | respond | respondInvoke | failingDebugger =>
      exact ⟨booked.evaluate, booked.invoke, booked.invocations, booked.startDebugger,
        booked.stopDebugger⟩

section Entries

variable {made : List (Debugger × Request)}

/-- The entry of a request keeps the books exact. -/
theorem Booked.book (booked : Booked made h) (session : Debugger) (request : Request) :
    Booked (made ++ [(session, request)]) (h.book session request) := by
  constructor
  case evaluate =>
    rw [List.countP_append, List.countP_singleton, ← booked.evaluate]
    cases request <;> cases session <;> simp [RecordingHost.book, isFor, Request.op]
  case invoke =>
    rw [List.countP_append, List.countP_singleton, ← booked.invoke]
    cases request <;> cases session <;> simp [RecordingHost.book, isFor, Request.op]
  case invocations =>
    rw [List.filterMap_append, ← booked.invocations]
    cases request <;> cases session <;> simp [RecordingHost.book, call?]
  case startDebugger =>
    rw [List.countP_append, List.countP_singleton, ← booked.startDebugger]
    cases request <;> cases session <;>
      simp [RecordingHost.book, isStart, isFor, Request.op]
  case stopDebugger =>
    rw [List.countP_append, List.countP_singleton, ← booked.stopDebugger]
    cases request <;> cases session <;> simp [RecordingHost.book, isFor, Request.op]

/-- The list of calls is as long as their number says. -/
theorem Booked.length_invocations (booked : Booked made h) : h.invocations.length = h.calls.invoke := by
  have listed : ∀ m ∈ made, (call? m.2).isSome = true ↔ isFor "invoke" m = true := by
    rintro ⟨session, request⟩ -
    cases request <;> simp [call?, isFor, Request.op]
  rw [booked.invocations, List.length_filterMap_eq_countP, List.countP_congr listed, booked.invoke]

/-- Every request is for one of the operations, and only one of them depends on the session. -/
theorem countP_add_rejected (made : List (Debugger × Request)) :
    made.countP (isFor "evaluate") + made.countP (isFor "invoke") + made.countP isStart +
      made.countP (isFor "disable_debugger") + made.countP isRejected = made.length := by
  induction made with
  | nil => rfl
  | cons m rest ih =>
    obtain ⟨session, request⟩ := m
    rw [List.length_cons, ← ih]
    simp only [List.countP_cons]
    cases request <;> cases session <;>
      simp [isStart, isRejected, isFor, Request.op, Debugger.isRunning] <;> omega

/-- Every request is one call, unless it is to start a session beside another. -/
theorem Booked.total_add_rejected (booked : Booked made h) :
    h.calls.total + made.countP isRejected = made.length := by
  rw [Calls.total, booked.evaluate, booked.invoke, booked.startDebugger, booked.stopDebugger,
    countP_add_rejected]

end Entries

end RecordingHost

/-! ## Runs -/

namespace Bridge

open RecordingHost (AnswersAs Booked Preparation booked_prepared answersAs_prepared prepared)

section Requested

variable {H : Type} [Host H]

/-- The requests that come of what is asked of a bridge, in their order, each with the session in which
it is made. What is refused makes none. -/
def requested : List Action → Bridge H → List (Debugger × Request)
  | [], _ => []
  | action :: rest, b =>
    (action.request.toOption.map fun request => (b.debugger, request)).toList ++
      requested rest (b.perform action).state

/-- Which requests there are is a matter of what is asked alone. -/
theorem map_snd_requested (actions : List Action) (b : Bridge H) :
    (requested actions b).map Prod.snd = actions.filterMap fun action => action.request.toOption := by
  induction actions generalizing b with
  | nil => rfl
  | cons action rest ih =>
    rw [requested, List.map_append, ih, List.filterMap_cons]
    cases action.request.toOption <;> rfl

end Requested

/-- A bridge makes just the entry of a request. -/
theorem dispatch_host (request : Request) (b : Bridge RecordingHost) :
    (b.dispatch request).state.host = b.host.book b.debugger request := by
  cases request with
  | evaluate source => rfl
  | invoke name args => rfl
  | disableDebugger => rfl
  | enableDebugger port =>
    rw [dispatch]
    cases session : b.debugger with
    | running current =>
      rw [enableDebugger_of_running session]
      rfl
    | stopped =>
      cases answer : (Host.startDebugger port b.host).answer with
      | true =>
        rw [enableDebugger_of_started session answer]
        rfl
      | false =>
        rw [enableDebugger_of_failed session answer]
        rfl

variable {b : Bridge RecordingHost}

/-- Whatever was asked, the host answers as it was prepared. -/
theorem answersAs_after {steps : List Preparation} (answers : AnswersAs steps b.host)
    (actions : List Action) : AnswersAs steps (b.after actions).host := by
  refine after_induction (P := fun b => AnswersAs steps b.host) (fun request b answers => ?_) answers
    actions
  rw [dispatch_host]
  exact answers.book b.debugger request

/-- Whatever was asked, the books are those of the requests that came of it. -/
theorem booked_after {made : List (Debugger × Request)} (booked : Booked made b.host)
    (actions : List Action) : Booked (made ++ b.requested actions) (b.after actions).host := by
  induction actions generalizing made b with
  | nil => rwa [requested, List.append_nil]
  | cons action rest ih =>
    rw [requested, after, perform_eq]
    cases action.request with
    | ok request =>
      have entered := booked.book b.debugger request
      rw [← dispatch_host] at entered
      have later := ih entered
      rwa [List.append_assoc] at later
    | error fault => exact ih booked

/-- Whatever a bridge over a recording host is asked, and however the host was prepared: its books are
those of the valid requests, it lists every call in its place, and of its answers the last one that was
prepared for the very source or call counts. -/
theorem books_exact (steps : List Preparation) (actions : List Action) :
    let b := ofHost (prepared steps)
    let h := (b.after actions).host
    (b.requested actions).map Prod.snd = actions.filterMap (fun action => action.request.toOption) ∧
      Booked (b.requested actions) h ∧ h.invocations.length = h.calls.invoke ∧
      h.calls.total = h.calls.evaluate + h.calls.invoke + h.calls.startDebugger + h.calls.stopDebugger ∧
      h.calls.total + (b.requested actions).countP RecordingHost.isRejected =
        (b.requested actions).length ∧
      AnswersAs steps h := by
  intro b h
  have booked : Booked (b.requested actions) h := by
    have all := booked_after (b := b) (booked_prepared steps) actions
    rwa [List.nil_append] at all
  exact ⟨map_snd_requested actions b, booked, booked.length_invocations, rfl,
    booked.total_add_rejected, answersAs_after (answersAs_prepared steps) actions⟩

end Bridge

end ScriptGate
