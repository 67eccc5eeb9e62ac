import ScriptGate.Fleet
import ScriptGate.Proofs.Bridge.Session

/-!
# The life of a connection

A connection is open exactly as long as the listener that accepted it is there. A step changes the
listener of one bridge at most, in one of three ways (`ScriptHost.Succeeds`): it stays, or it is gone, or
there is a new one with a token that nobody has had. So what each step preserves (`Fleet.Sound`) is
that the open connections are those whose token is that of a listener, and that a token
which is spent is spent for good (`Fleet.Spent.after`). `Fleet.connection_lives` puts that together for
every run of every fleet.
-/

namespace ScriptGate

open Network (Address Listener Machine)

/-! ## What one request does to a listener -/

/-- How a host may go on from an earlier state: it keeps its listener, or loses it, or has a new one,
made by the next attempt, where it had none. -/
structure ScriptHost.Succeeds (next h : ScriptHost) : Prop where
  attempts_le : h.attempts ≤ next.attempts
  listener : next.listener = h.listener ∨ next.listener = none ∨
    h.listener = none ∧ ∃ l, next.listener = some l ∧ l.attempt = h.attempts ∧
      h.attempts < next.attempts

namespace ScriptHost

theorem Succeeds.refl (h : ScriptHost) : h.Succeeds h := ⟨Nat.le_refl _, .inl rfl⟩

theorem attempt_of_bind? {machine : Machine} {attempt : Nat} {address : Address} {port : UInt16}
    {l : Listener} (bound : Listener.bind? machine attempt address port = some l) :
    l.attempt = attempt := by
  unfold Listener.bind? at bound
  split at bound
  · cases bound
  · cases bound
    rfl

/-- A start never touches a listener that is there. -/
theorem startDebugger_succeeds (port : UInt16) (h : ScriptHost) :
    (h.startDebugger port).state.Succeeds h ∧
      (h.listener ≠ none → (h.startDebugger port).state.listener = h.listener) := by
  cases present : h.listener with
  | some l =>
    have kept : h.startDebugger port = ⟨false, h, [.listenerPresent]⟩ := by
      rw [startDebugger, present]
    rw [kept]
    exact ⟨.refl h, fun _ => present⟩
  | none =>
    refine ⟨?_, fun absent => (absent rfl).elim⟩
    cases bound : Listener.bind? h.machine h.attempts h.engine.settings.debuggerHost port with
    | some l =>
      rw [startDebugger_of_bound present bound]
      exact ⟨Nat.le_succ _, .inr (.inr ⟨present, l, rfl, attempt_of_bind? bound, Nat.lt_succ_self _⟩)⟩
    | none =>
      rw [startDebugger_of_refused present bound]
      exact ⟨Nat.le_succ _, .inl rfl⟩

end ScriptHost

namespace Bridge

/-- Whether the session is ended by what is asked. -/
def Action.Disables (action : Action) : Prop := action.request = .ok .disableDebugger

/-- What is asked of a bridge lets its host go on: it loses its listener if the session is to be ended, and
keeps it otherwise. -/
structure Leaves (ends : Prop) (next b : Bridge ScriptHost) : Prop where
  succeeds : next.host.Succeeds b.host
  lost : ends → next.host.listener = none
  kept : ¬ ends → b.host.listener ≠ none → next.host.listener = b.host.listener

theorem dispatch_leaves (request : Request) (b : Bridge ScriptHost) :
    Leaves (request = .disableDebugger) (b.dispatch request).state b := by
  cases request with
  | evaluate source => exact ⟨⟨Nat.le_refl _, .inl rfl⟩, nofun, fun _ _ => rfl⟩
  | invoke name args => exact ⟨⟨Nat.le_refl _, .inl rfl⟩, nofun, fun _ _ => rfl⟩
  | disableDebugger =>
    exact ⟨⟨Nat.le_refl _, .inr (.inl rfl)⟩, fun _ => rfl, fun other => (other rfl).elim⟩
  | enableDebugger port =>
    rw [dispatch]
    have other : Request.enableDebugger port ≠ .disableDebugger := by simp
    obtain ⟨succeeds, kept⟩ := b.host.startDebugger_succeeds port
    cases session : b.debugger with
    | running current =>
      rw [enableDebugger_of_running session]
      exact ⟨.refl _, fun ends => absurd ends other, fun _ _ => rfl⟩
    | stopped =>
      cases answer : (Host.startDebugger port b.host).answer with
      | true =>
        rw [enableDebugger_of_started session answer]
        exact ⟨succeeds, fun ends => absurd ends other, fun _ => kept⟩
      | false =>
        rw [enableDebugger_of_failed session answer]
        exact ⟨succeeds, fun ends => absurd ends other, fun _ => kept⟩

theorem perform_leaves (action : Action) (b : Bridge ScriptHost) :
    Leaves action.Disables (b.perform action).state b := by
  rw [perform_eq, Action.Disables]
  cases action.request with
  | ok request =>
    obtain ⟨succeeds, lost, kept⟩ := dispatch_leaves request b
    exact ⟨succeeds, fun ends => lost (Except.ok.inj ends),
      fun other => kept fun same => other (congrArg Except.ok same)⟩
  | error fault => exact ⟨.refl _, nofun, fun _ _ => rfl⟩

end Bridge

/-! ## What a session hears -/

/-- Bytes that a peer sends do not end its session. -/
theorem Connection.foldl_hear_ofBytes (bytes : ByteArray) (c : Connection) :
    (Signal.ofBytes bytes).foldl hear c = c := by
  have full (n : Nat) : (List.replicate n (Signal.read Signal.chunk)).foldl hear c = c := by
    induction n with
    | zero => rfl
    | succ n ih => exact ih
  rw [Signal.ofBytes, List.foldl_append, full]
  split
  · rfl
  · next some_left =>
    obtain ⟨n, rest⟩ := Nat.exists_eq_succ_of_ne_zero some_left
    rw [rest]
    rfl

namespace Fleet

variable {f : Fleet} {i : Nat} {b : Bridge ScriptHost}

/-! ## Places -/

theorem lt_of_bridge? (present : f.bridge? i = some b) : i < f.bridges.length := by
  cases Nat.lt_or_ge i f.bridges.length with
  | inl inside => exact inside
  | inr beyond =>
    rw [bridge?, List.getElem?_eq_none beyond] at present
    cases present

theorem bridge?_setBridge_self (inside : i < f.bridges.length) (next : Option (Bridge ScriptHost)) :
    (f.setBridge i next).bridge? i = next := by
  rw [bridge?, setBridge, List.getElem?_set_self inside, Option.join_some]

theorem bridge?_setBridge_of_ne {j : Nat} (other : j ≠ i) (next : Option (Bridge ScriptHost)) :
    (f.setBridge i next).bridge? j = f.bridge? j := by
  rw [bridge?, setBridge, List.getElem?_set_ne other.symm, bridge?]

theorem bridge?_setBridge_none (absent : f.bridge? i = none) (j : Nat) :
    (f.setBridge i none).bridge? j = f.bridge? j := by
  by_cases same : j = i
  · subst same
    by_cases inside : j < f.bridges.length
    · rw [bridge?_setBridge_self inside, absent]
    · rw [setBridge, List.set_eq_of_length_le (Nat.le_of_not_lt inside)]
  · exact bridge?_setBridge_of_ne same none

/-- A listener is given up exactly if it is not there any more. -/
theorem replace_cases (i : Nat) (next : Option (Bridge ScriptHost)) (f : Fleet) :
    (f.replace i next = f.setBridge i next ∧
      (f.listener? i = none ∨ (f.setBridge i next).listener? i = f.listener? i)) ∨
    ∃ l, f.listener? i = some l ∧ (f.setBridge i next).listener? i ≠ some l ∧
      f.replace i next = (f.setBridge i next).cancel i l.attempt := by
  unfold replace
  cases found : f.listener? i with
  | none => exact .inl ⟨rfl, .inl rfl⟩
  | some l =>
    dsimp only
    split
    · next same => exact .inl ⟨rfl, .inr same⟩
    · next other => exact .inr ⟨l, rfl, other, rfl⟩

theorem bridge?_replace (j : Nat) (i : Nat) (next : Option (Bridge ScriptHost)) (f : Fleet) :
    (f.replace i next).bridge? j = (f.setBridge i next).bridge? j := by
  rcases replace_cases i next f with ⟨same, -⟩ | ⟨l, -, -, same⟩
  · rw [same]
  · rw [same]
    rfl

theorem bridge?_look (j i : Nat) (f : Fleet) : (f.look i).bridge? j = f.bridge? j := by
  unfold look
  split <;> rfl

theorem connections_look (i : Nat) (f : Fleet) : (f.look i).connections = f.connections := by
  unfold look
  split <;> rfl

/-- The sessions that share a cancelled token end, and all others go on as they are. -/
theorem mem_cancel {owner attempt : Nat} {c' : Connection}
    (found : c' ∈ (f.cancel owner attempt).connections) :
    ∃ c ∈ f.connections, ¬ c.shares owner attempt ∧ c' = c ∨
      c.shares owner attempt ∧ c' = { c with ended := true } := by
  obtain ⟨c, before, rfl⟩ := List.mem_map.mp found
  refine ⟨c, before, ?_⟩
  split
  · next shares => exact .inr ⟨shares, rfl⟩
  · next foreign => exact .inl ⟨foreign, rfl⟩

theorem bridge?_connect (j : Nat) (place : Address × UInt16) (bytes : ByteArray) (f : Fleet) :
    (f.connect place bytes).2.bridge? j = f.bridge? j := by
  unfold connect
  split
  · split <;> rfl
  · rfl

/-! ## Tokens -/

/-- Whether a token is that of a listener. -/
def Live (owner attempt : Nat) (f : Fleet) : Prop :=
  ∃ l, f.listener? owner = some l ∧ l.attempt = attempt

/-- Whether a token was that of a listener, and is no more. -/
structure Spent (owner attempt : Nat) (f : Fleet) : Prop where
  known : ∀ b, f.bridge? owner = some b → attempt < b.host.attempts
  not_live : ¬ f.Live owner attempt

/-- What is always true of the connections of a fleet. -/
structure Sound (f : Fleet) : Prop where
  /-- No listener has the token that the next one will have. -/
  young : ∀ i b l, f.bridge? i = some b → b.host.listener = some l → l.attempt < b.host.attempts
  known : ∀ c ∈ f.connections, ∀ b, f.bridge? c.owner = some b → c.attempt < b.host.attempts
  open_iff : ∀ c ∈ f.connections, c.ended = false ↔ f.Live c.owner c.attempt

theorem live_iff {owner attempt : Nat} :
    f.Live owner attempt ↔ ∃ b l, f.bridge? owner = some b ∧ b.host.listener = some l ∧
      l.attempt = attempt := by
  unfold Live listener?
  constructor
  · rintro ⟨l, found, same⟩
    obtain ⟨b, present, listens⟩ := Option.bind_eq_some_iff.mp found
    exact ⟨b, l, present, listens, same⟩
  · rintro ⟨b, l, present, listens, same⟩
    exact ⟨l, Option.bind_eq_some_iff.mpr ⟨b, present, listens⟩, same⟩

theorem live_congr {g : Fleet} {owner : Nat} (same : g.bridge? owner = f.bridge? owner)
    (attempt : Nat) : g.Live owner attempt ↔ f.Live owner attempt := by
  rw [live_iff, live_iff, same]

theorem Sound.known_of_live (sound : Sound f) {owner attempt : Nat} (live : f.Live owner attempt)
    (b : Bridge ScriptHost) (present : f.bridge? owner = some b) : attempt < b.host.attempts := by
  obtain ⟨b', l, present', listens, rfl⟩ := live_iff.mp live
  cases present.symm.trans present'
  exact sound.young owner b l present listens

/-- What is true of the connections of a fleet hangs on its bridges and its connections only. -/
theorem Sound.congr {g : Fleet} (sound : Sound f) (bridges : ∀ j, g.bridge? j = f.bridge? j)
    (connections : g.connections = f.connections) : Sound g where
  young j b l present := sound.young j b l (bridges j ▸ present)
  known c found b present :=
    sound.known c (connections ▸ found) b (bridges c.owner ▸ present)
  open_iff c found := by
    rw [live_congr (bridges c.owner)]
    exact sound.open_iff c (connections ▸ found)

/-! ## Bridges that go on -/

/-- How the bridge in a place may be replaced: by one that goes on from it, or by none. -/
def GoesOn (next : Option (Bridge ScriptHost)) (b : Bridge ScriptHost) : Prop :=
  ∀ b', next = some b' → b'.host.Succeeds b.host

/-- A token that some bridge has had comes to a listener only if it is there already. -/
theorem live_of_live_setBridge {next : Option (Bridge ScriptHost)} {attempt : Nat}
    (present : f.bridge? i = some b) (goesOn : GoesOn next b) (known : attempt < b.host.attempts)
    (live : (f.setBridge i next).Live i attempt) : f.Live i attempt := by
  obtain ⟨b', l, found, listens, same⟩ := live_iff.mp live
  rw [bridge?_setBridge_self (lt_of_bridge? present)] at found
  rcases (goesOn b' found).listener with kept | lost | ⟨-, l', bound, youngest, -⟩
  · exact live_iff.mpr ⟨b, l, present, kept ▸ listens, same⟩
  · rw [lost] at listens
    cases listens
  · rw [bound] at listens
    cases listens
    omega

theorem young_replace (sound : Sound f) {next : Option (Bridge ScriptHost)}
    (present : f.bridge? i = some b) (goesOn : GoesOn next b) (j : Nat) (b' : Bridge ScriptHost)
    (l : Listener) (found : (f.replace i next).bridge? j = some b')
    (listens : b'.host.listener = some l) : l.attempt < b'.host.attempts := by
  rw [bridge?_replace] at found
  by_cases same : j = i
  · subst same
    rw [bridge?_setBridge_self (lt_of_bridge? present)] at found
    obtain ⟨le, kept | lost | ⟨-, l', bound, youngest, lt⟩⟩ := goesOn b' found
    · have young := sound.young j b l present (kept ▸ listens)
      omega
    · rw [lost] at listens
      cases listens
    · rw [bound] at listens
      cases listens
      omega
  · rw [bridge?_setBridge_of_ne same] at found
    exact sound.young j b' l found listens

theorem known_replace {next : Option (Bridge ScriptHost)} {owner attempt : Nat}
    (present : f.bridge? i = some b) (goesOn : GoesOn next b)
    (known : ∀ b, f.bridge? owner = some b → attempt < b.host.attempts) (b' : Bridge ScriptHost)
    (found : (f.replace i next).bridge? owner = some b') : attempt < b'.host.attempts := by
  rw [bridge?_replace] at found
  by_cases same : owner = i
  · subst same
    rw [bridge?_setBridge_self (lt_of_bridge? present)] at found
    exact Nat.lt_of_lt_of_le (known b present) (goesOn b' found).attempts_le
  · rw [bridge?_setBridge_of_ne same] at found
    exact known b' found

/-- A token that is given up is that of no listener, as the bridge gets no other one at the same
time. -/
theorem not_live_of_given_up {next : Option (Bridge ScriptHost)} {l : Listener}
    (present : f.bridge? i = some b) (goesOn : GoesOn next b) (held : f.listener? i = some l)
    (gone : (f.setBridge i next).listener? i ≠ some l) (attempt : Nat) :
    ¬ (f.setBridge i next).Live i attempt := by
  intro live
  obtain ⟨b', l', found, listens, -⟩ := live_iff.mp live
  have inside := lt_of_bridge? present
  rw [listener?, present, Option.bind_some] at held
  rw [bridge?_setBridge_self inside] at found
  rw [listener?, bridge?_setBridge_self inside, found, Option.bind_some] at gone
  rcases (goesOn b' found).listener with kept | lost | ⟨free, -⟩
  · exact gone (kept.trans held)
  · rw [lost] at listens
    cases listens
  · rw [free] at held
    cases held

theorem Sound.replace (sound : Sound f) {next : Option (Bridge ScriptHost)}
    (present : f.bridge? i = some b) (goesOn : GoesOn next b) : Sound (f.replace i next) := by
  rcases replace_cases i next f with ⟨same, untouched⟩ | ⟨l, held, gone, same⟩
  · refine ⟨young_replace sound present goesOn, fun c found => ?_, fun c found => ?_⟩
    · rw [same] at found
      exact known_replace present goesOn (sound.known c found)
    · rw [same] at found ⊢
      rw [sound.open_iff c found]
      by_cases mine : c.owner = i
      · rw [mine]
        refine ⟨fun live => ?_, live_of_live_setBridge present goesOn ?_⟩
        · rcases untouched with free | kept
          · obtain ⟨l, held, -⟩ := live
            rw [free] at held
            cases held
          · rw [Live, kept]
            exact live
        · exact sound.known c found b (mine ▸ present)
      · rw [live_congr (bridge?_setBridge_of_ne mine next)]
  · have vacant := not_live_of_given_up present goesOn held gone
    refine ⟨young_replace sound present goesOn, fun c' found => ?_, fun c' found => ?_⟩
    · rw [same] at found
      obtain ⟨c, before, ⟨-, rfl⟩ | ⟨-, rfl⟩⟩ := mem_cancel found
      · exact known_replace present goesOn (sound.known _ before)
      · exact known_replace present goesOn (sound.known c before)
    · rw [same] at found ⊢
      obtain ⟨c, before, ⟨foreign, rfl⟩ | ⟨shares, rfl⟩⟩ := mem_cancel found
      · rw [sound.open_iff c' before]
        by_cases mine : c'.owner = i
        · rw [mine]
          refine iff_of_false ?_ (vacant c'.attempt)
          rintro ⟨l', held', attempt_eq⟩
          rw [held] at held'
          cases held'
          exact foreign ⟨mine, attempt_eq.symm⟩
        · exact (live_congr (bridge?_setBridge_of_ne mine next) c'.attempt).symm
      · obtain ⟨mine, -⟩ := shares
        exact iff_of_false nofun fun live => vacant c.attempt (mine ▸ live)

/-! ## Peers -/

theorem listener_of_acceptor? {place : Address × UInt16} {owner attempt : Nat}
    (accepts : f.acceptor? place = some (owner, attempt)) :
    ∃ l, f.listener? owner = some l ∧ l.attempt = attempt ∧ (l.address, l.port) = place := by
  obtain ⟨i, -, found⟩ := List.exists_of_findSome?_eq_some accepts
  split at found
  · next l listens =>
    split at found
    · next there =>
      cases found
      exact ⟨l, listens, rfl, there⟩
    · cases found
  · cases found

/-- A peer that connects is accepted by a listener at that place, and its connection is open; or nothing
happens. -/
theorem connect_cases (place : Address × UInt16) (bytes : ByteArray) (f : Fleet) :
    f.connect place bytes = (none, f) ∨
    ∃ c, f.connect place bytes = (some c, { f with connections := c :: f.connections }) ∧
      c.ended = false ∧
      ∃ l, f.listener? c.owner = some l ∧ l.attempt = c.attempt ∧ (l.address, l.port) = place := by
  unfold connect
  split
  · next owner attempt accepts =>
    split
    · refine .inr ⟨⟨owner, attempt, false⟩, ?_, rfl, listener_of_acceptor? accepts⟩
      rw [Connection.foldl_hear_ofBytes]
    · exact .inl rfl
  · exact .inl rfl

/-! ## Steps -/

/-- Whether a step ends the session of the bridge in a place, or gives up the bridge. -/
def Step.Stops (i : Nat) : Step → Prop
  | .ask j action => j = i ∧ action.Disables
  | .drop j => j = i
  | .attach _ | .connect .. | .close => False

theorem after_ask_of_some (present : f.bridge? i = some b) (action : Bridge.Action) :
    f.after (.ask i action) = (f.replace i (some (b.perform action).state)).look i := by
  rw [after, ask, present]
  rfl

theorem after_ask_of_none (absent : f.bridge? i = none) (action : Bridge.Action) :
    f.after (.ask i action) = f := by
  rw [after, ask, absent]
  rfl

theorem replace_of_none (absent : f.bridge? i = none) : f.replace i none = f.setBridge i none := by
  rw [replace, listener?, absent]
  rfl

theorem after_attach (bytes : ByteArray) (f : Fleet) :
    f.after (.attach bytes) = f ∨ ∃ place, f.after (.attach bytes) = f.after (.connect place bytes) := by
  rw [after, attach]
  split
  · next place _ => exact .inr ⟨place, rfl⟩
  · exact .inl rfl

/-- What a step does that replaces the bridge in a place. -/
structure Replaces (step : Step) (i : Nat) (next : Option (Bridge ScriptHost))
    (b : Bridge ScriptHost) (f : Fleet) : Prop where
  present : f.bridge? i = some b
  goesOn : GoesOn next b
  stopped : step.Stops i → ∀ b', next = some b' → b'.host.listener = none
  kept : ¬ step.Stops i → b.host.listener ≠ none →
    ∃ b', next = some b' ∧ b'.host.listener = b.host.listener
  elsewhere : ∀ j, step.Stops j → j = i
  bridges : ∀ j, (f.after step).bridge? j = (f.setBridge i next).bridge? j
  connections : (f.after step).connections = (f.replace i next).connections

/-- What a step does that replaces no bridge: at most a peer is accepted, or the peers give up their
connections. -/
structure Spares (step : Step) (f : Fleet) : Prop where
  absent : ∀ i, step.Stops i → f.bridge? i = none
  bridges : ∀ j, (f.after step).bridge? j = f.bridge? j
  connections : (f.after step).connections = f.connections ∨
    (∃ c, (f.after step).connections = c :: f.connections ∧ c.ended = false ∧
      f.Live c.owner c.attempt) ∨
    step = .close ∧ (f.after step).connections = []

theorem connect_spares (place : Address × UInt16) (bytes : ByteArray) (f : Fleet) :
    Spares (.connect place bytes) f := by
  refine ⟨nofun, fun j => bridge?_connect j place bytes f, ?_⟩
  rw [after]
  rcases connect_cases place bytes f with refused | ⟨c, accepted, isOpen, l, listens, token, -⟩
  · rw [refused]
    exact .inl rfl
  · rw [accepted]
    exact .inr (.inl ⟨c, rfl, isOpen, l, listens, token⟩)

theorem ask_replaces (present : f.bridge? i = some b) (action : Bridge.Action) :
    Replaces (.ask i action) i (some (b.perform action).state) b f := by
  have leaves := Bridge.perform_leaves action b
  have after := after_ask_of_some present action
  constructor
  case present => exact present
  case goesOn =>
    rintro _ ⟨⟩
    exact leaves.succeeds
  case stopped =>
    rintro ⟨-, ends⟩ _ ⟨⟩
    exact leaves.lost ends
  case kept => exact fun goesOn held => ⟨_, rfl, leaves.kept (fun ends => goesOn ⟨rfl, ends⟩) held⟩
  case elsewhere => exact fun j stops => stops.1.symm
  case bridges =>
    intro j
    rw [after, bridge?_look, bridge?_replace]
  case connections => rw [after, connections_look]

theorem drop_replaces (present : f.bridge? i = some b) : Replaces (.drop i) i none b f where
  present := present
  goesOn := nofun
  stopped := nofun
  kept goesOn := (goesOn rfl).elim
  elsewhere _ stops := stops.symm
  bridges j := bridge?_replace j i none f
  connections := rfl

/-- A step replaces the bridge in one place, or none. -/
theorem replaces_or_spares (step : Step) (f : Fleet) :
    (∃ i next b, Replaces step i next b f) ∨ Spares step f := by
  cases step with
  | ask i action =>
    cases present : f.bridge? i with
    | some b => exact .inl ⟨i, _, b, ask_replaces present action⟩
    | none =>
      have same := after_ask_of_none present action
      refine .inr ⟨fun j stops => stops.1 ▸ present, fun j => ?_, .inl ?_⟩ <;> rw [same]
  | drop i =>
    cases present : f.bridge? i with
    | some b => exact .inl ⟨i, none, b, drop_replaces present⟩
    | none =>
      have same : f.after (.drop i) = f.setBridge i none := replace_of_none present
      refine .inr ⟨fun j stops => stops ▸ present, fun j => ?_, .inl ?_⟩ <;> rw [same]
      · exact bridge?_setBridge_none present j
      · rfl
  | attach bytes =>
    right
    rcases after_attach bytes f with same | ⟨place, same⟩
    · refine ⟨nofun, fun j => ?_, .inl ?_⟩ <;> rw [same]
    · obtain ⟨-, bridges, connections⟩ := connect_spares place bytes f
      rw [← same] at bridges connections
      refine ⟨nofun, bridges, ?_⟩
      rcases connections with kept | accepted | ⟨other, -⟩
      · exact .inl kept
      · exact .inr (.inl accepted)
      · cases other
  | connect place bytes => exact .inr (connect_spares place bytes f)
  | close => exact .inr ⟨nofun, fun _ => rfl, .inr (.inr ⟨rfl, rfl⟩)⟩

/-- Every step preserves what is true of the connections. -/
theorem Sound.after (sound : Sound f) (step : Step) : Sound (f.after step) := by
  rcases replaces_or_spares step f with ⟨i, next, b, replaces⟩ | ⟨-, bridges, connections⟩
  · refine (sound.replace replaces.present replaces.goesOn).congr (fun j => ?_) replaces.connections
    rw [replaces.bridges, bridge?_replace]
  · rcases connections with kept | ⟨c, accepted, isOpen, live⟩ | ⟨-, closed⟩
    · exact sound.congr bridges kept
    · refine ⟨fun j b l found => sound.young j b l (bridges j ▸ found),
        fun c' found b' present' => ?_, fun c' found => ?_⟩
      all_goals rw [accepted] at found
      · rw [bridges] at present'
        rcases List.mem_cons.mp found with rfl | before
        · exact sound.known_of_live live b' present'
        · exact sound.known c' before b' present'
      · rw [live_congr (bridges c'.owner)]
        rcases List.mem_cons.mp found with rfl | before
        · exact iff_of_true isOpen live
        · exact sound.open_iff c' before
    · refine ⟨fun j b l found => sound.young j b l (bridges j ▸ found), ?_, ?_⟩
      all_goals
        rw [closed]
        nofun

section Token

variable {owner attempt : Nat} {step : Step}

/-- A step that does not stop a bridge leaves its listener where it is. -/
theorem Live.after (live : f.Live owner attempt) (goesOn : ¬ step.Stops owner) :
    (f.after step).Live owner attempt := by
  rcases replaces_or_spares step f with ⟨i, next, b, replaces⟩ | spares
  · rw [live_congr (replaces.bridges owner)]
    by_cases mine : owner = i
    · subst mine
      obtain ⟨b', l, present, listens, token⟩ := live_iff.mp live
      cases present.symm.trans replaces.present
      obtain ⟨b', rfl, kept⟩ := replaces.kept goesOn (listens ▸ nofun)
      exact live_iff.mpr
        ⟨b', l, bridge?_setBridge_self (lt_of_bridge? present) _, kept.trans listens, token⟩
    · exact (live_congr (bridge?_setBridge_of_ne mine next) attempt).mpr live
  · exact (live_congr (spares.bridges owner) attempt).mpr live

/-- A step that stops a bridge leaves it without a listener. -/
theorem not_live_after (stops : step.Stops owner) : ¬ (f.after step).Live owner attempt := by
  rcases replaces_or_spares step f with ⟨i, next, b, replaces⟩ | spares
  · obtain rfl := replaces.elsewhere owner stops
    rw [live_iff, replaces.bridges, bridge?_setBridge_self (lt_of_bridge? replaces.present)]
    rintro ⟨b', l, found, listens, -⟩
    rw [replaces.stopped stops b' found] at listens
    cases listens
  · rw [live_iff, spares.bridges, spares.absent owner stops]
    nofun

theorem known_after (known : ∀ b, f.bridge? owner = some b → attempt < b.host.attempts)
    (step : Step) : ∀ b, (f.after step).bridge? owner = some b → attempt < b.host.attempts := by
  rcases replaces_or_spares step f with ⟨i, next, b, replaces⟩ | spares
  · intro b' found
    rw [replaces.bridges, ← bridge?_replace] at found
    exact known_replace replaces.present replaces.goesOn known b' found
  · rw [spares.bridges]
    exact known

/-- A token that is spent is not used again. -/
theorem Spent.after (spent : f.Spent owner attempt) (step : Step) :
    (f.after step).Spent owner attempt := by
  refine ⟨known_after spent.known step, fun live => spent.not_live ?_⟩
  rcases replaces_or_spares step f with ⟨i, next, b, replaces⟩ | spares
  · rw [live_congr (replaces.bridges owner)] at live
    by_cases mine : owner = i
    · subst mine
      exact live_of_live_setBridge replaces.present replaces.goesOn (spent.known b replaces.present)
        live
    · exact (live_congr (bridge?_setBridge_of_ne mine next) attempt).mp live
  · exact (live_congr (spares.bridges owner) attempt).mp live

end Token

/-- A connection stays, be it ended, until the peers give up theirs. -/
theorem exists_mem_after {c : Connection} (found : c ∈ f.connections) {step : Step}
    (kept : step ≠ .close) : ∃ e, { c with ended := e } ∈ (f.after step).connections := by
  rcases replaces_or_spares step f with ⟨i, next, b, replaces⟩ | spares
  · rw [replaces.connections]
    rcases replace_cases i next f with ⟨same, -⟩ | ⟨l, -, -, same⟩
    · rw [same]
      exact ⟨c.ended, found⟩
    · rw [same]
      by_cases shares : c.shares i l.attempt
      · exact ⟨true, List.mem_map.mpr ⟨c, found, if_pos shares⟩⟩
      · exact ⟨c.ended, List.mem_map.mpr ⟨c, found, if_neg shares⟩⟩
  · rcases spares.connections with same | ⟨other, accepted, -⟩ | ⟨closes, -⟩
    · rw [same]
      exact ⟨c.ended, found⟩
    · rw [accepted]
      exact ⟨c.ended, List.mem_cons_of_mem other found⟩
    · exact (kept closes).elim

/-! ## Runs -/

/-- A fleet of new bridges, each with its own settings and on a machine that answers its attempts to bind
in a way of its own. -/
def ofNew (makes : List (Settings × Machine)) (reachable : Bool) : Fleet :=
  ofBridges (makes.map fun (settings, machine) => .ofHost (.new settings machine)) reachable

/-- The fleet after some steps. -/
def afterAll (f : Fleet) (steps : List Step) : Fleet := steps.foldl Fleet.after f

theorem listener_of_ofNew {makes : List (Settings × Machine)} {reachable : Bool}
    (present : (ofNew makes reachable).bridge? i = some b) : b.host.listener = none := by
  rw [bridge?, Option.join_eq_some_iff] at present
  obtain ⟨make, -, rfl⟩ : ∃ make ∈ makes, .ofHost (.new make.1 make.2) = b := by
    simpa [ofNew, ofBridges] using List.mem_of_getElem? present
  rfl

theorem sound_ofNew (makes : List (Settings × Machine)) (reachable : Bool) :
    Sound (ofNew makes reachable) where
  young i b l present listens := by
    rw [listener_of_ofNew present] at listens
    cases listens
  known := nofun
  open_iff := nofun

theorem Sound.afterAll (sound : Sound f) (steps : List Step) : Sound (f.afterAll steps) := by
  induction steps generalizing f with
  | nil => exact sound
  | cons step rest ih => exact ih (sound.after step)

theorem Live.afterAll {owner attempt : Nat} (live : f.Live owner attempt) {steps : List Step}
    (goesOn : ∀ step ∈ steps, ¬ step.Stops owner) : (f.afterAll steps).Live owner attempt := by
  induction steps generalizing f with
  | nil => exact live
  | cons step rest ih =>
    rw [List.forall_mem_cons] at goesOn
    exact ih (live.after goesOn.1) goesOn.2

theorem Spent.afterAll {owner attempt : Nat} (spent : f.Spent owner attempt) (steps : List Step) :
    (f.afterAll steps).Spent owner attempt := by
  induction steps generalizing f with
  | nil => exact spent
  | cons step rest ih => exact ih (spent.after step)

/-- A token is spent as soon as one of some steps stops its bridge. -/
theorem spent_afterAll {owner attempt : Nat}
    (known : ∀ b, f.bridge? owner = some b → attempt < b.host.attempts) {steps : List Step}
    (stops : ∃ step ∈ steps, step.Stops owner) : (f.afterAll steps).Spent owner attempt := by
  induction steps generalizing f with
  | nil =>
    obtain ⟨_, found, -⟩ := stops
    cases found
  | cons step rest ih =>
    obtain ⟨stop, found, stopping⟩ := stops
    rcases List.mem_cons.mp found with rfl | later
    · exact Spent.afterAll ⟨known_after known _, not_live_after stopping⟩ rest
    · exact ih (known_after known step) ⟨stop, later, stopping⟩

theorem exists_mem_afterAll {c : Connection} (found : ∃ e, { c with ended := e } ∈ f.connections)
    {steps : List Step} (kept : Step.close ∉ steps) :
    ∃ e, { c with ended := e } ∈ (f.afterAll steps).connections := by
  induction steps generalizing f with
  | nil => exact found
  | cons step rest ih =>
    obtain ⟨e, found⟩ := found
    rw [List.mem_cons, not_or] at kept
    exact ih (exists_mem_after found fun closes => kept.1 closes.symm) kept.2

/-- Where all its connections are as they should be, a fleet has a connection in one state only: open, if its
token is that of a listener, and ended otherwise. -/
theorem Sound.mem_iff (sound : Sound f) {c : Connection}
    (found : ∃ e, { c with ended := e } ∈ f.connections) (e : Bool) :
    { c with ended := e } ∈ f.connections ↔ (e = false ↔ f.Live c.owner c.attempt) := by
  obtain ⟨e', found⟩ := found
  have state := sound.open_iff _ found
  refine ⟨fun found => sound.open_iff _ found, fun state' => ?_⟩
  have same : e = false ↔ e' = false := state'.trans state.symm
  have : e = e' := by cases e <;> cases e' <;> simp_all
  rwa [this]

theorem afterAll_append (f : Fleet) (earlier later : List Step) :
    f.afterAll (earlier ++ later) = (f.afterAll earlier).afterAll later :=
  List.foldl_append ..

/-- What becomes of a connection, if some steps happen in between. -/
structure Outlived (c : Connection) (later : List Step) (f : Fleet) : Prop where
  /-- It is open until a step ends the session of its bridge or gives up the bridge. -/
  stays : (∀ step ∈ later, ¬ step.Stops c.owner) →
    { c with ended := false } ∈ f.connections ∧ { c with ended := true } ∉ f.connections
  /-- It has ended from then on. -/
  ends : (∃ step ∈ later, step.Stops c.owner) →
    { c with ended := true } ∈ f.connections ∧ { c with ended := false } ∉ f.connections
  /-- The listener accepts no other one from then on. -/
  refuses : (∃ step ∈ later, step.Stops c.owner) →
    ∀ place bytes c', (f.connect place bytes).1 = some c' → ¬ c'.shares c.owner c.attempt

theorem Sound.outlived (sound : Sound f) {c : Connection} (found : c ∈ f.connections)
    (isOpen : c.ended = false) {later : List Step} (kept : Step.close ∉ later) :
    Outlived c later (f.afterAll later) := by
  have there := exists_mem_afterAll ⟨c.ended, found⟩ kept
  have state := (sound.afterAll later).mem_iff there
  have spent (stops : ∃ step ∈ later, step.Stops c.owner) :=
    spent_afterAll (sound.known c found) stops
  constructor
  case stays =>
    intro goesOn
    have live := ((sound.open_iff c found).mp isOpen).afterAll goesOn
    exact ⟨(state false).mpr (iff_of_true rfl live), fun ended =>
      nomatch ((state true).mp ended).mpr live⟩
  case ends =>
    intro stops
    have gone := (spent stops).not_live
    exact ⟨(state true).mpr (iff_of_false nofun gone), fun isOpen =>
      gone (((state false).mp isOpen).mp rfl)⟩
  case refuses =>
    rintro stops place bytes c' accepted ⟨owner, attempt⟩
    rcases connect_cases place bytes (f.afterAll later) with
      refused | ⟨other, took, -, l, listens, token, -⟩
    · rw [refused] at accepted
      cases accepted
    · rw [took] at accepted
      cases accepted
      exact (spent stops).not_live ⟨l, owner ▸ listens, token.trans attempt⟩

/-- Whatever happens to a fleet of new bridges: a connection that a listener accepts stays open, whatever
bytes its peer sends, until a step ends the session of the bridge or gives up the bridge, and not
longer. -/
theorem connection_lives (makes : List (Settings × Machine)) (reachable : Bool)
    (before : List Step) (place : Address × UInt16) (bytes : ByteArray) (c : Connection)
    (accepted : (((ofNew makes reachable).afterAll before).connect place bytes).1 = some c)
    (later : List Step) (kept : Step.close ∉ later) :
    (∃ l, ((ofNew makes reachable).afterAll before).listener? c.owner = some l ∧
      l.attempt = c.attempt ∧ (l.address, l.port) = place) ∧
    c.ended = false ∧
    Outlived c later
      ((ofNew makes reachable).afterAll (before ++ .connect place bytes :: later)) := by
  have sound := (sound_ofNew makes reachable).afterAll before
  rw [afterAll_append]
  generalize (ofNew makes reachable).afterAll before = f at accepted sound
  rcases connect_cases place bytes f with refused | ⟨other, took, isOpen, fits⟩
  · rw [refused] at accepted
    cases accepted
  · have next : f.after (.connect place bytes) = { f with connections := other :: f.connections } :=
      congrArg Prod.snd took
    rw [took] at accepted
    cases accepted
    refine ⟨fits, isOpen, (sound.after (.connect place bytes)).outlived ?_ isOpen kept⟩
    rw [next]
    exact List.mem_cons_self

/-- A session that is ended and begun again on the same port while another bridge has one: the peer of the
first session has lost its connection, and a peer that connects then is accepted by the new listener. -/
theorem connection_lives_until_restart :
    ∃ f : Fleet,
      f = (ofNew [(.standard, .versionFour), (.standard, .versionFour)] true).afterAll
        ([.ask 0 (.enableDebugger 9222)] ++ .connect (.loopback, 9222) ⟨#[1, 2]⟩ ::
          [.ask 1 (.enableDebugger 9333), .ask 0 (.dispatch .disableDebugger),
            .ask 0 (.enableDebugger 9222)]) ∧
      ⟨0, 0, true⟩ ∈ f.connections ∧ ⟨0, 0, false⟩ ∉ f.connections ∧
      (f.connect (.loopback, 9222) ⟨#[]⟩).1 = some ⟨0, 1, false⟩ := by
  have outlived := (connection_lives [(.standard, .versionFour), (.standard, .versionFour)] true
    [.ask 0 (.enableDebugger 9222)] (.loopback, 9222) ⟨#[1, 2]⟩ ⟨0, 0, false⟩ rfl
    [.ask 1 (.enableDebugger 9333), .ask 0 (.dispatch .disableDebugger),
      .ask 0 (.enableDebugger 9222)] (by simp)).2.2
  have ended := outlived.ends ⟨.ask 0 (.dispatch .disableDebugger), by simp, rfl, rfl⟩
  exact ⟨_, rfl, ended.1, ended.2, rfl⟩

end Fleet

end ScriptGate
