import ScriptGate.Event

/-!
One turn of something that has a state: the answer it gives, the state it is in afterwards,
and the events it reported, oldest first.
-/

namespace ScriptGate

structure Turn (σ α : Type) where
  answer : α
  state : σ
  events : List Event

namespace Turn

/-- A turn that reports nothing. -/
def quiet {σ α : Type} (answer : α) (state : σ) : Turn σ α := ⟨answer, state, []⟩

/-- The same turn with another form of the answer. -/
def map {σ α β : Type} (f : α → β) (t : Turn σ α) : Turn σ β := ⟨f t.answer, t.state, t.events⟩

/-- The same turn of something of which the state is a part. -/
def within {σ τ α : Type} (f : σ → τ) (t : Turn σ α) : Turn τ α := ⟨t.answer, f t.state, t.events⟩

/-- The same turn with more events behind it. -/
def report {σ α : Type} (t : Turn σ α) (events : List Event) : Turn σ α :=
  ⟨t.answer, t.state, t.events ++ events⟩

end Turn

end ScriptGate
