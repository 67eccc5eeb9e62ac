import ScriptGate.Proofs.Answer.Value
import ScriptGate.Proofs.Bridge.Run
import ScriptGate.Proofs.Json.Yield
import ScriptGate.Proofs.Script.Echo

/-!
# Values that a script gives back

A JSON value goes into a script as a value and comes out as a JSON value again. Nothing is lost or
merged on the way: `toJson` undoes `ofJson` on values that are free of doubles and of integers
beyond the signed range (`Script.Value.toJson_ofJson`). So a function that gives back its argument
gives it back to the requester too (`Bridge.echo_gives_back`).
-/

namespace ScriptGate

open Json (Members Value)

/-! ## Signed integers -/

namespace Json.Value

mutual

/-- Whether all integers in a value are in the signed range. -/
def isSigned : Value → Bool
  | .number (.whole n) => n.val < 0x8000000000000000
  | .list items => itemsSigned items
  | .object members => membersSigned members
  | _ => true

/-- Whether all integers in the items are in the signed range. -/
def itemsSigned : List Value → Bool
  | [] => true
  | item :: rest => item.isSigned && itemsSigned rest

/-- Whether all integers in the members are in the signed range. -/
def membersSigned : List (String × Value) → Bool
  | [] => true
  | (_, value) :: rest => value.isSigned && membersSigned rest

end

end Json.Value

/-! ## There and back -/

namespace Script.Value

theorem wholeOfInteger_ofInt {n : Json.Whole} (signed : n.val < 0x8000000000000000) :
    wholeOfInteger (Int64.ofInt n.val) = n := by
  have same : (Int64.ofInt n.val).toInt = n.val :=
    Int64.toInt_ofInt_of_le n.lower signed
  obtain ⟨val, lower, upper⟩ := n
  exact (Json.Whole.mk.injEq ..).mpr same

theorem toJson_ofNumber {n : Json.Number} (exact : (Value.number n).isExact = true)
    (signed : (Value.number n).isSigned = true) : (ofNumber n).toJson = .ok (.number n) := by
  cases n with
  | whole n =>
    rw [Json.Value.isSigned, decide_eq_true_eq] at signed
    rw [ofNumber, if_pos signed, toJson, wholeOfInteger_ofInt signed]
  | double x => cases exact

mutual

/-- A JSON value comes back from the values of scripts. -/
theorem toJson_ofJson : ∀ v : Json.Value, v.isExact = true → v.isSigned = true →
    v.isOrdered = true → (ofJson v).toJson = .ok v
  | .null, _, _, _ | .boolean _, _, _, _ | .text _, _, _, _ => rfl
  | .number n, exact, signed, _ => toJson_ofNumber exact signed
  | .list items, exact, signed, ordered => by
    rw [ofJson, toJson, itemsToJson_ofJsonItems items exact signed ordered]
    rfl
  | .object members, exact, signed, ordered => by
    rw [Json.Value.isOrdered, Bool.and_eq_true, decide_eq_true_eq] at ordered
    rw [ofJson, toJson, entriesToJson_ofJsonMembers members exact signed ordered.2]
    simp only [Except.map, Json.Members.ofList_eq_self ordered.1]

theorem itemsToJson_ofJsonItems : ∀ items : List Json.Value,
    Json.Value.itemsExact items = true → Json.Value.itemsSigned items = true →
      Json.Value.itemsOrdered items = true → itemsToJson (ofJsonItems items) = .ok items
  | [], _, _, _ => rfl
  | item :: rest, exact, signed, ordered => by
    rw [Json.Value.itemsExact, Bool.and_eq_true] at exact
    rw [Json.Value.itemsSigned, Bool.and_eq_true] at signed
    rw [Json.Value.itemsOrdered, Bool.and_eq_true] at ordered
    rw [ofJsonItems, itemsToJson, toJson_ofJson item exact.1 signed.1 ordered.1,
      itemsToJson_ofJsonItems rest exact.2 signed.2 ordered.2]
    rfl

theorem entriesToJson_ofJsonMembers : ∀ members : Members,
    Json.Value.membersExact members = true → Json.Value.membersSigned members = true →
      Json.Value.membersOrdered members = true →
        entriesToJson (ofJsonMembers members) = .ok members
  | [], _, _, _ => rfl
  | (name, value) :: rest, exact, signed, ordered => by
    rw [Json.Value.membersExact, Bool.and_eq_true] at exact
    rw [Json.Value.membersSigned, Bool.and_eq_true] at signed
    rw [Json.Value.membersOrdered, Bool.and_eq_true] at ordered
    rw [ofJsonMembers, entriesToJson, toJson_ofJson value exact.1 signed.1 ordered.1,
      entriesToJson_ofJsonMembers rest exact.2 signed.2 ordered.2]
    rfl

end

theorem isUnit_ofJson {v : Json.Value} (signed : v.isSigned = true) :
    (ofJson v).isUnit = true ↔ v = .null := by
  cases v with
  | number n =>
    cases n with
    | whole n =>
      rw [Json.Value.isSigned, decide_eq_true_eq] at signed
      simp [ofJson, ofNumber, if_pos signed, isUnit]
    | double x => simp [ofJson, ofNumber, isUnit]
  | null | boolean | text | list | object => simp [ofJson, isUnit]

end Script.Value

/-! ## From a requester and back -/

theorem ScriptHost.startDebugger_engine (port : UInt16) (h : ScriptHost) :
    (h.startDebugger port).state.engine = h.engine := by
  unfold startDebugger
  split
  · rfl
  · dsimp only
    split <;> rfl

namespace Bridge

open Script (Engine Function Functions echo echoSource echo_isEcho)

/-- What a request does to the engine is an evaluation, a call, or nothing. -/
theorem dispatch_engine (request : Request) (b : Bridge ScriptHost) :
    (b.dispatch request).state.host.engine = b.host.engine ∨
      ∃ action, (b.dispatch request).state.host = (b.host.perform action).state := by
  cases request with
  | evaluate source => exact .inr ⟨.evaluate source, rfl⟩
  | invoke name args => exact .inr ⟨.invoke name (Json.renderList args), rfl⟩
  | enableDebugger port =>
    left
    change (b.enableDebugger port).state.host.engine = _
    unfold enableDebugger assemble Debugger.enable
    cases b.debugger with
    | running current => rfl
    | stopped =>
      have kept := b.host.startDebugger_engine port
      dsimp only
      split <;> exact kept
  | disableDebugger => exact .inl rfl

/-- A function that gives back its argument gives it back through the text of the call and that of
the answer. -/
theorem invoke_echo {b : Bridge ScriptHost} {name : String} {f : Function} {v : Value}
    (known : b.host.engine.functions.find? name 1 = some f) (isEcho : f.IsEcho)
    (allowed : (b.host.engine.env b.host.engine.functions false).Allows 3)
    (exact : v.isExact = true) (signed : v.isSigned = true) (ordered : v.isOrdered = true) (fits : v.depth ≤ 126) :
    (b.invoke name [v]).answer = .ok v := by
  have listed : Json.readList (Json.renderList [v]) = .ok [v] := by
    refine Json.readList_of_read (Json.read_render ?_ ?_ ?_)
    · exact Json.isExact_list (List.forall_mem_singleton.mpr exact)
    · exact Json.isOrdered_list (List.forall_mem_singleton.mpr ordered)
    · exact Json.depth_list_le_iff.mpr (List.forall_mem_singleton.mpr fits)
  have called : (b.host.call name (Json.renderList [v])).answer = .ok (Script.Value.ofJson v) := by
    rw [ScriptHost.call, listed]
    exact Engine.invoke_echo known isEcho allowed _
  have answered : (b.invoke name [v]).answer =
      (Outcome.classify (Script.Value.ofJson v).answerText).result :=
    congrArg (fun answer => (Outcome.classify (ScriptHost.answerText answer)).result) called
  have delivered := delivered_classify (Script.Value.ofJson v)
  rw [answered]
  cases unit : (Script.Value.ofJson v).isUnit with
  | true => rw [delivered.unit unit, (Script.Value.isUnit_ofJson signed).mp unit]
  | false =>
    have form := Script.Value.toJson_ofJson v exact signed ordered
    exact (delivered.value v unit form exact).mpr (Nat.le_succ_of_le fits)

theorem evaluate_engine (source : String) (b : Bridge ScriptHost) :
    (b.evaluate source).state.host.engine = (b.host.engine.evaluate source).state :=
  rfl

theorem evaluate_echoSource {b : Bridge ScriptHost} {script : Script.Tree}
    (read : b.host.engine.compile echoSource = .ok script)
    (unknown : (b.host.engine.names.lookup "x").join = none) :
    (b.evaluate echoSource).state.host.engine.functions.find? "echo" 1 = some echo := by
  rw [evaluate_engine, Engine.evaluate_functions, read]
  dsimp only
  rw [Engine.compile_echoSource read unknown, Functions.find?_extend]
  exact List.find?_cons_of_pos (by decide)

theorem dispatch_limits (request : Request) (b : Bridge ScriptHost) :
    (b.dispatch request).state.host.engine.settings = b.host.engine.settings ∧
      (b.dispatch request).state.host.engine.patience = b.host.engine.patience := by
  rcases dispatch_engine request b with same | ⟨action, same⟩
  · rw [same]
    exact ⟨rfl, rfl⟩
  · rw [same]
    exact b.host.perform_limits action

/-- The limits of a bridge are those of its settings, whatever happened. -/
theorem after_limits (settings : Settings) (machine : Network.Machine) (actions : List Action) :
    let e := ((Bridge.ofHost (ScriptHost.new settings machine)).after actions).host.engine
    e.settings = settings ∧ e.patience = settings.timeoutMs * Engine.operationsPerMs := by
  refine after_induction (P := fun b : Bridge ScriptHost => b.host.engine.settings = settings ∧
    b.host.engine.patience = settings.timeoutMs * Engine.operationsPerMs)
    (fun request b limits => ?_) ⟨rfl, rfl⟩ actions
  obtain ⟨settings', patience'⟩ := dispatch_limits request b
  exact ⟨settings'.trans limits.1, patience'.trans limits.2⟩

/-- Whatever happened to a bridge before, a function that gives back its argument gives each value
back to the requester that is free of doubles and of integers beyond the signed range, and nested at
most 126 deep. It takes three operations. That is what the source defines, unless a constant with
the name of the parameter is in reach. -/
theorem echo_gives_back {settings : Settings}
    (budget : settings.maxOperations = 0 ∨ 3 ≤ settings.maxOperations)
    (time : 0 < settings.timeoutMs) (machine : Network.Machine) (actions : List Action) :
    let b := (Bridge.ofHost (ScriptHost.new settings machine)).after actions
    (∀ script, b.host.engine.compile echoSource = .ok script →
      (b.host.engine.names.lookup "x").join = none →
        (b.evaluate echoSource).state.host.engine.functions.find? "echo" 1 = some echo) ∧
    ∀ name f v, b.host.engine.functions.find? name 1 = some f → f.IsEcho → v.isExact = true →
      v.isSigned = true → v.isOrdered = true → v.depth ≤ 126 →
        (b.invoke name [v]).answer = .ok v := by
  intro b
  constructor
  · intro script read unknown
    exact b.evaluate_echoSource read unknown
  · intro name f v known isEcho exact signed ordered fits
    obtain ⟨settings', patience⟩ := after_limits settings machine actions
    have allowed : (b.host.engine.env b.host.engine.functions false).Allows 3 := by
      constructor
      · change b.host.engine.settings.maxOperations = 0 ∨ 3 ≤ b.host.engine.settings.maxOperations
        rw [settings']
        exact budget
      · change 3 ≤ b.host.engine.patience
        rw [patience]
        exact Nat.le_trans (by decide : 3 ≤ 1 * Engine.operationsPerMs)
          (Nat.mul_le_mul_right _ time)
    exact b.invoke_echo known isEcho allowed exact signed ordered fits

/-- Nothing but null in many places. -/
def hollow : Value :=
  .object [("", .list [.null, .list []]), ("\u0000é😀", .text ""), ("\"", .object []),
    ("null", .null)]

theorem after_evaluate (source : String) (b : Bridge ScriptHost) :
    b.after [.evaluate source] = ((b.after []).evaluate source).state :=
  rfl

/-- A function with just enough operations, and values that are next to nothing. -/
theorem echo_gives_back_hollow :
    let settings := { Settings.standard with maxOperations := 3 }
    let b := (Bridge.ofHost (ScriptHost.new settings .versionFour)).after [.evaluate echoSource]
    b.host.engine.functions.find? "echo" 1 = some echo ∧
      (b.invoke "echo" [.null]).answer = .ok .null ∧
        (b.invoke "echo" [hollow]).answer = .ok hollow := by
  intro settings b
  have budget : settings.maxOperations = 0 ∨ 3 ≤ settings.maxOperations := .inr (by decide)
  have time : 0 < settings.timeoutMs := by decide
  have understood : (((Bridge.ofHost (ScriptHost.new settings .versionFour)).after
      []).host.engine.compile echoSource).toOption.isSome = true := by decide +kernel
  have known : b.host.engine.functions.find? "echo" 1 = some echo := by
    dsimp only [b]
    rw [after_evaluate]
    cases read : ((Bridge.ofHost (ScriptHost.new settings .versionFour)).after
        []).host.engine.compile echoSource with
    | ok script => exact (echo_gives_back budget time .versionFour []).1 script read rfl
    | error cause =>
      rw [read] at understood
      cases understood
  have gives := (echo_gives_back budget time .versionFour [.evaluate echoSource]).2 "echo" echo
  refine ⟨known, gives .null known echo_isEcho rfl rfl rfl (by decide),
    gives hollow known echo_isEcho ?_ ?_ ?_ ?_⟩
  all_goals decide +kernel

/-- With two operations the function gives back nothing, and where a constant has the name of the
parameter, it gives back the constant. -/
theorem not_echo_if_scarce_or_shadowed :
    let seven : Value := .number (.whole ⟨7, by decide, by decide⟩)
    let few := { Settings.standard with maxOperations := 2 }
    let scarce := (Bridge.ofHost (ScriptHost.new few .versionFour)).after [.evaluate echoSource]
    let shadowed := (Bridge.ofHost (ScriptHost.new .standard .versionFour)).after
      [.evaluate "const x = 42;", .evaluate echoSource]
    (scarce.host.engine.functions.find? "echo" 1).isSome = true ∧
    (scarce.invoke "echo" [seven]).answer ≠ .ok seven ∧
    (shadowed.host.engine.functions.find? "echo" 1).isSome = true ∧
    (shadowed.invoke "echo" [seven]).answer ≠ .ok seven := by
  intro seven few scarce shadowed
  have refused : (scarce.invoke "echo" [seven]).answer.toOption.isNone = true := by decide +kernel
  have other : (shadowed.invoke "echo" [seven]).answer.toOption.map Value.render = some "42" := by
    decide +kernel
  refine ⟨by decide +kernel, fun same => ?_, by decide +kernel, fun same => ?_⟩
  · rw [same] at refused
    cases refused
  · rw [same] at other
    revert other
    decide +kernel

end Bridge

end ScriptGate
