import ScriptGate.Proofs.Script.Definitions
import ScriptGate.Proofs.Script.Grow.Statement

/-!
# Limits and results

A limit that is not exceeded has no influence: what is asked of a host has the same answers and
leaves the same variables and functions under wider limits (`ScriptHost.answers_of_unhindered`).
That nothing ended in a fault is not enough for it (`ScriptHost.results_depend_on_limits`). A script
can go on after it exceeded a limit: `sort` takes a comparison that fails for no difference, and
what a library function passed on can be caught. And texts are joined before a run as far as their
length is allowed, after which more of the script is known to do nothing.
-/

namespace ScriptGate

namespace Script.Engine

/-- The engine with other limits. -/
def withLimits (settings : Settings) (patience : Nat) (e : Engine) : Engine :=
  { e with settings := settings, patience := patience }

/-- The engine with another limit on the length of texts. -/
def withTexts (length : Nat) (e : Engine) : Engine :=
  { e with settings := { e.settings with maxStringLen := length } }

/-- Whether a limit is exceeded while a script runs. -/
def RunExceeds (script : Tree) (e : Engine) : Prop :=
  (Run.finalState
    (Eval.statements Eval.full (e.env (e.functions.extend script.functions) true) script.body)
    (e.start e.scope)).exceeded = true

/-- Whether a limit is exceeded while a function runs. -/
def CallExceeds (f : Function) (args : List Value) (e : Engine) : Prop :=
  (Run.finalState (body f (e.env e.functions false))
    (e.start (Eval.bind f (args.map .own) ++ e.scope))).exceeded = true

instance (script : Tree) (e : Engine) : Decidable (e.RunExceeds script) :=
  inferInstanceAs (Decidable (_ = true))

instance (f : Function) (args : List Value) (e : Engine) : Decidable (e.CallExceeds f args) :=
  inferInstanceAs (Decidable (_ = true))

/-- What a source is read as: a script of the grammar, simplified. -/
theorem compile_eq_ok {source : String} {script : Tree} {e : Engine} :
    e.compile source = .ok script ↔
      ∃ read, Tree.parse ⟨e.settings.maxExprDepth, e.settings.maxCollectionLen,
          e.scope.map Variable.name, e.simplify source.length⟩ e.settings.maxStringLen source =
            .ok read ∧
        script = ⟨e.simplify source.length read.body,
          read.functions.map fun f => { f with body := e.simplify source.length f.body }⟩ := by
  unfold compile
  dsimp only
  cases Tree.parse _ _ source with
  | error cause => exact ⟨(nomatch ·), fun ⟨_, read, _⟩ => nomatch read⟩
  | ok read =>
    constructor
    · intro compiled
      exact ⟨read, rfl, (Except.ok.inj compiled).symm⟩
    · rintro ⟨_, ⟨⟩, rfl⟩
      rfl

section Wider

variable {e : Engine} {settings : Settings} {patience : Nat} (wider : e.settings.Within settings)
  (longer : e.patience ≤ patience)

theorem turn_withLimits (keep : List Variable → List Variable)
    (ended : EStateM.Result Stop State Value) :
    (e.withLimits settings patience).turn keep ended =
      (e.turn keep ended).within (withLimits settings patience) := by
  cases ended <;> rfl

include wider

/-- What a source is read as does not depend on limits that allow it, but for that on texts. -/
theorem compile_withLimits {source : String} {script : Tree}
    (read : (e.withTexts settings.maxStringLen).compile source = .ok script) :
    (e.withLimits settings patience).compile source = .ok script := by
  -- Of all limits simplification knows the one on texts only, so both grammars simplify alike.
  have grammars : Grammar.Within
      ⟨e.settings.maxExprDepth, e.settings.maxCollectionLen, e.scope.map Variable.name,
        (e.withTexts settings.maxStringLen).simplify source.length⟩
      ⟨settings.maxExprDepth, settings.maxCollectionLen, e.scope.map Variable.name,
        (e.withLimits settings patience).simplify source.length⟩ :=
    ⟨wider.exprDepth, wider.collectionLen, rfl, rfl⟩
  obtain ⟨tree, parsed, simplified⟩ := compile_eq_ok.mp read
  exact compile_eq_ok.mpr ⟨tree, Tree.parse_of_within grammars parsed, simplified⟩

include longer

theorem env_within (table : Functions) (atTop : Bool) :
    (e.env table atTop).Within True .none table ((e.withLimits settings patience).env table atTop) :=
  ⟨rfl, rfl, rfl, rfl, .inr ⟨trivial, wider, longer⟩⟩

theorem run_withLimits {script : Tree} (calm : ¬ e.RunExceeds script) :
    (e.withLimits settings patience).run script =
      (e.run script).within (withLimits settings patience) := by
  have follows := Eval.Follows.statements Eval.follows_full
    (env_within wider longer (e.functions.extend script.functions) true) script.body (.inl rfl)
  have same := (follows.ends_eq (e.start e.scope)).resolve_left fun exceeded => calm exceeded.2
  change ({ e with functions := e.functions.extend script.functions }.withLimits settings
    patience).turn id (Eval.statements Eval.full ((e.withLimits settings patience).env
      (e.functions.extend script.functions) true) script.body (e.start e.scope)) = _
  rw [same, turn_withLimits]
  rfl

theorem call_withLimits {f : Function} {args : List Value} (calm : ¬ e.CallExceeds f args) :
    (e.withLimits settings patience).call f args =
      (e.call f args).within (withLimits settings patience) := by
  have within := env_within wider longer e.functions false
  have follows : Run.Follows True .none (body f (e.env e.functions false))
      (body f ((e.withLimits settings patience).env e.functions false)) :=
    .bind (.tick within none) fun _ =>
      Eval.Follows.statements Eval.follows_full within f.body (.inl rfl)
  have same := (follows.ends_eq (e.start (Eval.bind f (args.map .own) ++ e.scope))).resolve_left
    fun exceeded => calm exceeded.2
  change ((e.withLimits settings patience).turn _ (body f
    ((e.withLimits settings patience).env e.functions false)
      (e.start (Eval.bind f (args.map .own) ++ e.scope)))).map _ = _
  rw [same, turn_withLimits]
  rfl

theorem evaluate_withLimits {source : String} {script : Tree} (read : e.compile source = .ok script)
    (readLonger : (e.withTexts settings.maxStringLen).compile source = .ok script)
    (calm : ¬ e.RunExceeds script) : (e.withLimits settings patience).evaluate source =
      (e.evaluate source).within (withLimits settings patience) := by
  have read' : (e.withLimits settings patience).compile source = .ok script :=
    compile_withLimits wider readLonger
  rw [evaluate, evaluate, read, read']
  dsimp only
  rw [run_withLimits wider longer calm]
  rfl

theorem invoke_withLimits {name : String} {args : List Value}
    (calm : ∀ f, e.functions.find? name args.length = some f → ¬ e.CallExceeds f args) :
    (e.withLimits settings patience).invoke name args =
      (e.invoke name args).within (withLimits settings patience) := by
  have functions : (e.withLimits settings patience).functions = e.functions := rfl
  rw [invoke, invoke, functions]
  cases found : e.functions.find? name args.length with
  | none => rfl
  | some f =>
    dsimp only
    rw [call_withLimits wider longer (calm f found)]
    rfl

end Wider

/-! ## What a turn leaves of the limits -/

theorem evaluate_limits (source : String) (e : Engine) :
    (e.evaluate source).state.settings = e.settings ∧
      (e.evaluate source).state.patience = e.patience := by
  obtain ⟨scope, cells, functions, same⟩ := e.evaluate_state source
  rw [same]
  exact ⟨rfl, rfl⟩

theorem invoke_limits (name : String) (args : List Value) (e : Engine) :
    (e.invoke name args).state.settings = e.settings ∧
      (e.invoke name args).state.patience = e.patience := by
  obtain ⟨scope, cells, same⟩ := e.invoke_state name args
  rw [same]
  exact ⟨rfl, rfl⟩

end Script.Engine

/-! ## Hosts with other limits -/

namespace ScriptHost

open Script (Engine Value)

/-- The host with other limits. -/
def withLimits (settings : Settings) (patience : Nat) (h : ScriptHost) : ScriptHost :=
  { h with engine := h.engine.withLimits settings patience }

/-- A host in which nothing happened yet, where so many operations fit into the time limit. -/
def fresh (settings : Settings) (patience : Nat) (machine : Network.Machine) : ScriptHost :=
  (ScriptHost.new settings machine).withLimits settings patience

/-- The texts that a host answers when it is asked one thing after the other. -/
def answers : List Action → ScriptHost → List String
  | [], _ => []
  | action :: rest, h => (h.perform action).answer :: answers rest (h.perform action).state

/-- Whether what is asked exceeds no limit: the source is read, and as the same script where texts
may be longer, and no limit is exceeded while it runs, or while the function does that is called. -/
def Unhindered (length : Nat) : Action → ScriptHost → Prop
  | .evaluate source, h => ∃ script, h.engine.compile source = .ok script ∧
      (h.engine.withTexts length).compile source = .ok script ∧ ¬ h.engine.RunExceeds script
  | .invoke name args, h => ∀ values f, Json.readList args = .ok values →
      h.engine.functions.find? name (Value.ofJsonItems values).length = some f →
        ¬ h.engine.CallExceeds f (Value.ofJsonItems values)

/-- Whether nothing of what is asked exceeds a limit. -/
def AllUnhindered (length : Nat) : List Action → ScriptHost → Prop
  | [], _ => True
  | action :: rest, h =>
    h.Unhindered length action ∧ AllUnhindered length rest (h.perform action).state

theorem perform_limits (action : Action) (h : ScriptHost) :
    (h.perform action).state.engine.settings = h.engine.settings ∧
      (h.perform action).state.engine.patience = h.engine.patience := by
  cases action with
  | evaluate source => exact h.engine.evaluate_limits source
  | invoke name args =>
    change (h.call name args).state.settings = _ ∧ (h.call name args).state.patience = _
    unfold call
    split
    · exact h.engine.invoke_limits name _
    · exact ⟨rfl, rfl⟩

section Wider

variable {settings : Settings} {patience : Nat}

/-- A host does under wider limits what it does under those that it does not exceed. -/
theorem perform_withLimits {h : ScriptHost} (wider : h.engine.settings.Within settings)
    (longer : h.engine.patience ≤ patience) {action : Action}
    (free : h.Unhindered settings.maxStringLen action) :
    (h.withLimits settings patience).perform action =
      (h.perform action).within (withLimits settings patience) := by
  cases action with
  | evaluate source =>
    obtain ⟨script, read, readLonger, calm⟩ := free
    have same := Engine.evaluate_withLimits wider longer read readLonger calm
    exact congrArg (ofEngine (h.withLimits settings patience)) same
  | invoke name args =>
    change ofEngine _ ((h.withLimits settings patience).call name args) =
      (h.ofEngine (h.call name args)).within _
    unfold call
    cases listed : Json.readList args with
    | error cause => rfl
    | ok values =>
      have same := Engine.invoke_withLimits wider longer (free values · listed)
      exact congrArg (ofEngine (h.withLimits settings patience)) same

theorem answers_withLimits {h : ScriptHost} (wider : h.engine.settings.Within settings)
    (longer : h.engine.patience ≤ patience) {actions : List Action}
    (free : h.AllUnhindered settings.maxStringLen actions) :
    (h.withLimits settings patience).answers actions = h.answers actions ∧
      (h.withLimits settings patience).after actions =
        (h.after actions).withLimits settings patience := by
  induction actions generalizing h with
  | nil => exact ⟨rfl, rfl⟩
  | cons action rest ih =>
    have same := perform_withLimits wider longer free.1
    obtain ⟨settings', patience'⟩ := h.perform_limits action
    have further := @ih (h.perform action).state (settings' ▸ wider) (patience' ▸ longer) free.2
    simp only [answers, after, same]
    exact ⟨congrArg _ further.1, further.2⟩

end Wider

/-- Checks that what is asked exceeds no limit. -/
def checkUnhindered : Action → ScriptHost → Bool
  | .evaluate source, h =>
    (h.engine.compile source).toOption.any fun script => !h.engine.RunExceeds script
  | .invoke name args, h =>
    (Json.readList args).toOption.all fun values =>
      (h.engine.functions.find? name (Value.ofJsonItems values).length).all fun f =>
        !h.engine.CallExceeds f (Value.ofJsonItems values)

/-- Where texts may not be longer, the check is enough. -/
theorem unhindered_of_check {action : Action} {h : ScriptHost} {length : Nat}
    (same : length = h.engine.settings.maxStringLen) (checked : h.checkUnhindered action = true) :
    h.Unhindered length action := by
  subst same
  cases action with
  | evaluate source =>
    dsimp only [checkUnhindered] at checked
    cases read : h.engine.compile source with
    | error cause =>
      rw [read] at checked
      cases checked
    | ok script =>
      rw [read] at checked
      exact ⟨script, read, read, by simpa [Except.toOption] using checked⟩
  | invoke name args =>
    intro values f listed found
    dsimp only [checkUnhindered] at checked
    rw [listed] at checked
    simpa [Except.toOption, found] using checked

/-- Settings with less room, but for texts. -/
def scant : Settings :=
  { Settings.standard with maxOperations := 20, maxCallDepth := 2, maxCollectionLen := 2 }

theorem scant_within : scant.Within .standard where
  operations := .inr (by decide)
  callDepth := by decide
  exprDepth := .inr (by decide)
  stringLen := .inr (by decide)
  collectionLen := .inr (by decide)

/-- A source and a call that stay within the scant settings. -/
def pairing : List Action :=
  [.evaluate "fn f(x) \x7b let l = [x]; l.push(x); l \x7d let a = f(1);", .invoke "f" "[2]"]

/-- What a source results in on a host in which nothing happened yet, if it ends without a fault. -/
def resultOf (settings : Settings) (source : String) : Option String :=
  ((ScriptHost.new settings .versionFour).run source).answer.toOption.map Value.answerText

end ScriptHost

end ScriptGate
