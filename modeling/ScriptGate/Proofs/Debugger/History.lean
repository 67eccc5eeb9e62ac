import Mathlib.Data.List.Basic
import ScriptGate.Debugger

/-!
# The history of a debug session

Whoever keeps a debug session hands it, move by move, the operation that starts or stops the listener.
A `Moment` is one such move as it was made: the session before it, the calls of the operation with their
answers, the result and the session after it. `Moment.Lawful` lists the four kinds of moments there
are, and `Debugger.history_lawful` says that every run of moves, over an owner of any kind, is
a chain of them. So the session is known from its history alone (`Debugger.history_told`): it is running
on the port of the last start that was granted, unless it was disabled since.
-/

namespace ScriptGate

namespace Debugger

/-! ## Moves -/

/-- What is done with a session whose owner has the state `σ`; each move brings its operation. -/
inductive Move (σ : Type) where
  | enable (port : UInt16) (start : UInt16 → σ → Turn σ Bool)
  | disable (stop : σ → Turn σ Unit)

/-- A call of the operation of a move. -/
inductive Call where
  | start (port : UInt16) (granted : Bool)
  | stop
deriving DecidableEq, Repr

/-- What was asked of the session. -/
inductive Deed where
  | enable (port : UInt16)
  | disable
deriving DecidableEq, Repr

variable {σ : Type}

/-- Makes a move; what answers nothing succeeds. -/
def make : Move σ → Debugger × σ → Turn (Debugger × σ) (Except Fault Unit)
  | .enable port start, (d, s) => d.enable port start s
  | .disable stop, (d, s) => (d.disable stop s).map .ok

/-- A turn of the owner, with a call noted behind those noted before. -/
def noted {α : Type} (call : α → Call) (calls : List Call) (turn : Turn σ α) :
    Turn (σ × List Call) α :=
  turn.within fun s => (s, calls ++ [call turn.answer])

/-- The same move over an owner that notes the calls of its operation. -/
def Move.noting : Move σ → Move (σ × List Call)
  | .enable port start =>
    .enable port fun p (s, calls) => noted (.start p) calls (start p s)
  | .disable stop => .disable fun (s, calls) => noted (fun _ => .stop) calls (stop s)

/-- What a move asks of the session. -/
def Move.deed : Move σ → Deed
  | .enable port _ => .enable port
  | .disable _ => .disable

/-! ## Moments -/

/-- A move that was made. -/
structure Moment where
  deed : Deed
  before : Debugger
  calls : List Call
  result : Except Fault Unit
  after : Debugger

/-- The moment in which a move is made. -/
def Move.moment (move : Move σ) (now : Debugger × σ) : Moment where
  deed := move.deed
  before := now.1
  calls := (make move.noting (now.1, now.2, [])).state.2.2
  result := (make move now).answer
  after := (make move now).state.1

/-- The session and its owner after some moves. -/
def afterMoves : List (Move σ) → Debugger × σ → Debugger × σ
  | [], now => now
  | move :: rest, now => afterMoves rest (make move now).state

/-- The moments in which moves are made one after the other. -/
def history : List (Move σ) → Debugger × σ → List Moment
  | [], _ => []
  | move :: rest, now => move.moment now :: history rest (make move now).state

/-- The four kinds of moments. -/
inductive Moment.Lawful : Moment → Prop
  /-- A session that is running is not started again, and nobody is called. -/
  | rejected (port current : UInt16) :
    Lawful ⟨.enable port, .running current, [],
      .error (.engine ("debug server already running on port " ++ toString current)),
      .running current⟩
  | started (port : UInt16) :
    Lawful ⟨.enable port, .stopped, [.start port true], .ok (), .running port⟩
  | failed (port : UInt16) :
    Lawful ⟨.enable port, .stopped, [.start port false],
      .error (.engine "failed to start debug server"), .stopped⟩
  | disabled (before : Debugger) : Lawful ⟨.disable, before, [.stop], .ok (), .stopped⟩

/-- Every move makes a lawful moment, whatever its operation answers. -/
theorem moment_lawful (move : Move σ) (now : Debugger × σ) : (move.moment now).Lawful := by
  obtain ⟨d, s⟩ := now
  cases move with
  | disable stop => exact .disabled d
  | enable port start =>
    cases d with
    | running current => exact .rejected port current
    | stopped =>
      cases answer : (start port s).answer with
      | true =>
        have moment : (Move.enable port start).moment (.stopped, s) =
            ⟨.enable port, .stopped, [.start port true], .ok (), .running port⟩ := by
          simp [Move.moment, Move.deed, Move.noting, make, enable, noted, Turn.within, answer]
        rw [moment]
        exact .started port
      | false =>
        have moment : (Move.enable port start).moment (.stopped, s) =
            ⟨.enable port, .stopped, [.start port false],
              .error (.engine "failed to start debug server"), .stopped⟩ := by
          simp [Move.moment, Move.deed, Move.noting, make, enable, noted, Turn.within, answer]
        rw [moment]
        exact .failed port

/-- Lawful moments, each of which begins with the session that the one before it has left. -/
inductive Chain : Debugger → List Moment → Debugger → Prop
  | nil (d : Debugger) : Chain d [] d
  | cons {m : Moment} {rest : List Moment} {final : Debugger} (lawful : m.Lawful)
      (later : Chain m.after rest final) : Chain m.before (m :: rest) final

theorem history_lawful (moves : List (Move σ)) (now : Debugger × σ) :
    Chain now.1 (history moves now) (afterMoves moves now).1 := by
  induction moves generalizing now with
  | nil => exact .nil _
  | cons move rest ih => exact .cons (moment_lawful move now) (ih _)

theorem map_deed_history (moves : List (Move σ)) (now : Debugger × σ) :
    (history moves now).map Moment.deed = moves.map Move.deed := by
  induction moves generalizing now with
  | nil => rfl
  | cons move rest ih => exact congrArg (move.deed :: ·) (ih _)

/-! ## What a history tells -/

/-- Whether a start on a port was granted in a moment. -/
def Moment.Granted (port : UInt16) (m : Moment) : Prop :=
  m.deed = .enable port ∧ .start port true ∈ m.calls

/-- Whether a start on a port was granted and the session has not been disabled since. -/
def Sustained (port : UInt16) (moments : List Moment) : Prop :=
  ∃ earlier m later, moments = earlier ++ m :: later ∧ m.Granted port ∧
    ∀ other ∈ later, other.deed ≠ .disable

/-- The port that the start operation was called with, in a moment that asks for a session while
none is running. -/
def Moment.wanted? (m : Moment) : Option UInt16 :=
  match m.deed, m.before with
  | .enable port, .stopped => some port
  | _, _ => none

/-- The port in a call of the start operation. -/
def Call.port? : Call → Option UInt16
  | .start port _ => some port
  | .stop => none

/-! ## One moment -/

namespace Moment.Lawful

variable {m : Moment} {port : UInt16}

theorem start (lawful : m.Lawful) : m.calls.filterMap Call.port? = m.wanted?.toList := by
  cases lawful with
  | disabled before => cases before <;> rfl
  | rejected | started | failed => rfl

theorem stop (lawful : m.Lawful) : m.calls.count .stop = if m.deed = .disable then 1 else 0 := by
  cases lawful <;> rfl

theorem ok_iff (lawful : m.Lawful) (port : UInt16) (asked : m.deed = .enable port) :
    m.result = .ok () ↔ m.Granted port := by
  cases lawful with
  | rejected | started | failed => simp_all [Granted]
  | disabled => cases asked

theorem unchanged (lawful : m.Lawful) (fault : Fault) (failed : m.result = .error fault) :
    m.after = m.before := by
  cases lawful with
  | rejected | failed => rfl
  | started | disabled => cases failed

theorem rejected_of_running (lawful : m.Lawful) (port current : UInt16)
    (asked : m.deed = .enable port) (running : m.before = .running current) :
    m.calls = [] ∧
      m.result = .error (.engine ("debug server already running on port " ++ toString current)) := by
  cases lawful with
  | rejected =>
    cases running
    exact ⟨rfl, rfl⟩
  | started | failed => cases running
  | disabled => cases asked

theorem result_of_disable (lawful : m.Lawful) (asked : m.deed = .disable) :
    m.result = .ok () ∧ m.after = .stopped := by
  cases lawful with
  | disabled => exact ⟨rfl, rfl⟩
  | rejected | started | failed => cases asked

theorem before_of_granted (lawful : m.Lawful) (grant : m.Granted port) : m.before = .stopped := by
  obtain ⟨-, called⟩ := grant
  cases lawful with
  | rejected => cases called
  | started | failed => rfl
  | disabled => simp at called

theorem after_of_granted (lawful : m.Lawful) (grant : m.Granted port) :
    m.after = .running port := by
  obtain ⟨asked, called⟩ := grant
  cases lawful with
  | rejected => cases called
  | started =>
    cases asked
    rfl
  | failed => simp at called
  | disabled => cases asked

end Moment.Lawful

/-! ## Chains of moments -/

namespace Chain

variable {first final : Debugger} {moments : List Moment}

/-- A chain goes on where its first part has left the session. -/
theorem split {earlier later : List Moment} (chain : Chain first (earlier ++ later) final) :
    ∃ middle, Chain first earlier middle ∧ Chain middle later final := by
  induction earlier generalizing first with
  | nil => exact ⟨first, .nil first, chain⟩
  | cons m earlier ih =>
    cases chain with
    | cons lawful rest =>
      obtain ⟨middle, front, back⟩ := ih rest
      exact ⟨middle, .cons lawful front, back⟩

theorem lawful_of_mem (chain : Chain first moments final) {m : Moment} (found : m ∈ moments) :
    m.Lawful := by
  induction chain with
  | nil d => cases found
  | cons lawful later ih =>
    rcases List.mem_cons.mp found with rfl | there
    · exact lawful
    · exact ih there

/-- Where a moment stands in a chain, the session before it is the one that the moments before it
have left. -/
theorem before_eq {earlier later : List Moment} {m : Moment}
    (chain : Chain first (earlier ++ m :: later) final) : Chain first earlier m.before := by
  obtain ⟨middle, front, back⟩ := chain.split
  cases back with
  | cons lawful rest => exact front

theorem count_stop (chain : Chain first moments final) :
    (moments.flatMap Moment.calls).count .stop = moments.countP (·.deed = .disable) := by
  induction chain with
  | nil d => rfl
  | cons lawful later ih =>
    rw [List.flatMap_cons, List.count_append, ih, lawful.stop, List.countP_cons]
    simp [Nat.add_comm]

/-- A session that is running stays as it is until it is disabled. -/
theorem eq_running_of_kept {port : UInt16} (chain : Chain first moments final)
    (running : first = .running port) (kept : ∀ m ∈ moments, m.deed ≠ .disable) :
    final = .running port := by
  induction chain with
  | nil d => exact running
  | cons lawful later ih =>
    rw [List.forall_mem_cons] at kept
    cases lawful with
    | rejected asked current => exact ih running kept.2
    | started asked => cases running
    | failed asked => cases running
    | disabled before => exact (kept.1 rfl).elim

/-- A session that a chain leaves running was running at first and has not been disabled, or was granted
and has not been disabled since. -/
theorem kept_or_sustained {port : UInt16} (chain : Chain first moments final)
    (running : final = .running port) :
    (first = .running port ∧ ∀ m ∈ moments, m.deed ≠ .disable) ∨ Sustained port moments := by
  induction chain with
  | nil d => exact .inl ⟨running, nofun⟩
  | @cons m rest final lawful later ih =>
    rcases ih running with ⟨after_eq, kept⟩ | ⟨earlier, granted, since, same, grant, kept⟩
    · cases lawful with
      | rejected asked current =>
        exact .inl ⟨after_eq, List.forall_mem_cons.mpr ⟨nofun, kept⟩⟩
      | started asked =>
        cases after_eq
        exact .inr ⟨[], _, rest, rfl, ⟨rfl, List.mem_singleton.mpr rfl⟩, kept⟩
      | failed asked => cases after_eq
      | disabled before => cases after_eq
    · rw [same]
      exact .inr ⟨m :: earlier, granted, since, rfl, grant, kept⟩

/-- The session that moments from a stopped one leave is running exactly on the port of a start that was
granted and has not been disabled since. -/
theorem running_iff_sustained (chain : Chain .stopped moments final) (port : UInt16) :
    final = .running port ↔ Sustained port moments := by
  constructor
  · intro running
    rcases chain.kept_or_sustained running with ⟨never, -⟩ | sustained
    · cases never
    · exact sustained
  · rintro ⟨earlier, m, later, rfl, grant, kept⟩
    obtain ⟨middle, -, back⟩ := chain.split
    cases back with
    | cons lawful rest => exact rest.eq_running_of_kept (lawful.after_of_granted grant) kept

end Chain

/-- What is known of a session from the moments since it was new. -/
structure Told (moments : List Moment) (final : Debugger) : Prop where
  running_iff : ∀ port, final = .running port ↔ Sustained port moments
  stopped_iff : final = .stopped ↔ ∀ port, ¬ Sustained port moments
  /-- The session before each moment is known from the moments before it. -/
  before_iff : ∀ earlier m later, moments = earlier ++ m :: later →
    ∀ port, m.before = .running port ↔ Sustained port earlier
  /-- The start operation is called by the moments that ask for a session while none is running, once
  each, and by no others. -/
  start : ∀ m ∈ moments, m.calls.filterMap Call.port? = m.wanted?.toList
  starts : (moments.flatMap Moment.calls).filterMap Call.port? = moments.filterMap Moment.wanted?
  /-- The stop operation is called once by each moment that disables the session. -/
  stop : ∀ m ∈ moments, m.calls.count .stop = if m.deed = .disable then 1 else 0
  stops : (moments.flatMap Moment.calls).count .stop = moments.countP (·.deed = .disable)
  ok_iff : ∀ m ∈ moments, ∀ port, m.deed = .enable port →
    (m.result = .ok () ↔ m.Granted port)
  unchanged : ∀ m ∈ moments, ∀ fault, m.result = .error fault → m.after = m.before
  /-- A start beside a running session calls nobody, and its refusal names the port of that session. -/
  rejected : ∀ m ∈ moments, ∀ port current, m.deed = .enable port → m.before = .running current →
    m.calls = [] ∧
      m.result = .error (.engine ("debug server already running on port " ++ toString current))
  disabled : ∀ m ∈ moments, m.deed = .disable → m.result = .ok () ∧ m.after = .stopped
  /-- Two starts are not granted without a stop between them. -/
  between : ∀ earlier m middle m' later port port',
    moments = earlier ++ m :: (middle ++ m' :: later) → m.Granted port → m'.Granted port' →
      ∃ other ∈ middle, other.deed = .disable

theorem Chain.told {moments : List Moment} {final : Debugger}
    (chain : Chain .stopped moments final) : Told moments final where
  running_iff := chain.running_iff_sustained
  stopped_iff := by
    rw [← not_exists, ← exists_congr chain.running_iff_sustained]
    cases final <;> simp
  before_iff earlier m later split port := by
    subst split
    exact chain.before_eq.running_iff_sustained port
  start m found := (chain.lawful_of_mem found).start
  starts := by
    rw [List.filterMap_flatMap, List.filterMap_eq_flatMap_toList]
    exact List.flatMap_congr fun m found => (chain.lawful_of_mem found).start
  stop m found := (chain.lawful_of_mem found).stop
  stops := chain.count_stop
  ok_iff m found := (chain.lawful_of_mem found).ok_iff
  unchanged m found := (chain.lawful_of_mem found).unchanged
  rejected m found := (chain.lawful_of_mem found).rejected_of_running
  disabled m found := (chain.lawful_of_mem found).result_of_disable
  between earlier m middle m' later port port' split grant grant' := by
    subst split
    obtain ⟨_, -, back⟩ := chain.split
    cases back with
    | cons lawful rest =>
      by_cases kept : ∀ other ∈ middle, other.deed ≠ .disable
      · have running := rest.before_eq.eq_running_of_kept (lawful.after_of_granted grant) kept
        have second := rest.lawful_of_mem (List.mem_append_right middle List.mem_cons_self)
        rw [second.before_of_granted grant'] at running
        cases running
      · simpa using kept

/-! ## The history of any owner -/

/-- Noting the calls of the operations changes nothing else. -/
theorem make_noting (move : Move σ) (d : Debugger) (s : σ) (calls : List Call) :
    (make move.noting (d, s, calls)).within (fun (d, s, _) => (d, s)) = make move (d, s) := by
  cases move with
  | disable stop => rfl
  | enable port start =>
    cases d with
    | running current => rfl
    | stopped =>
      cases answer : (start port s).answer <;>
        simp [Move.noting, make, enable, noted, Turn.within, answer]

/-- Whatever moves are made of a new session, and whatever their operations answer: the session and the
calls of the operations are known from the moves and from the starts that were granted. -/
theorem history_told (moves : List (Move σ)) (s : σ) :
    Told (history moves (.stopped, s)) (afterMoves moves (.stopped, s)).1 ∧
      (history moves (.stopped, s)).map Moment.deed = moves.map Move.deed ∧
      ∀ (move : Move σ) (d : Debugger) (s : σ) (calls : List Call),
        (make move.noting (d, s, calls)).within (fun (d, s, _) => (d, s)) = make move (d, s) :=
  ⟨(history_lawful moves (.stopped, s)).told, map_deed_history moves _, make_noting⟩

end Debugger

end ScriptGate
