import Mathlib.Data.List.Infix
import ScriptGate.Script.Machine

/-!
# States of a run

What a run does to its variables has its limits: those that were in reach when it began are there
behind the later ones, with their names and in their order, and those that are constant stay so
(`State.Later`). A block leaves exactly the variables that it found (`State.Later.rewound`).

Two runs are abreast if the one differs from the other by variables behind all others, by operations and
by calls around it (`State.Abreast`), which what is run does not notice as long as it asks for names of its
own.
-/

namespace ScriptGate.Script

/-- A list that ends with another one is that one behind what is longer. -/
theorem drop_of_isSuffix {α : Type} {l l' : List α} (behind : l <:+ l') {n : Nat} (length : l.length = n) :
    l'.drop (l'.length - n) = l := by
  subst length
  exact (List.suffix_iff_eq_drop.mp behind).symm

namespace Run

variable {name : String} {slot : Slot} {scope : List Variable}

theorem map_withSlot {β : Type} (f : Variable → β)
    (same : ∀ x, scope.find? (·.name = name) = some x → f { x with slot := slot } = f x) :
    (withSlot name slot scope).map f = scope.map f := by
  induction scope with
  | nil => rfl
  | cons v rest ih =>
    unfold withSlot
    split
    · next named => exact congrArg (· :: rest.map f) (same v (by simp [named]))
    · next other => exact congrArg (f v :: ·) (ih fun x found => same x (by simp [other, found]))

theorem withSlot_append (behind : List Variable) (there : ∃ x ∈ scope, x.name = name) :
    withSlot name slot (scope ++ behind) = withSlot name slot scope ++ behind := by
  induction scope with
  | nil => simp at there
  | cons v rest ih =>
    rw [List.cons_append]
    unfold withSlot
    split
    · rfl
    · next other =>
      obtain ⟨x, inside, named⟩ := there
      rcases List.mem_cons.mp inside with rfl | inside
      · exact (other named).elim
      · exact congrArg (v :: ·) (ih ⟨x, inside, named⟩)

theorem slot_of_mem_withSlot {x : Variable} (inside : x ∈ withSlot name slot scope) :
    x.slot = slot ∨ x ∈ scope := by
  induction scope with
  | nil => cases inside
  | cons v rest ih =>
    unfold withSlot at inside
    split at inside
    · rcases List.mem_cons.mp inside with rfl | inside
      · exact .inl rfl
      · exact .inr (List.mem_cons_of_mem _ inside)
    · rcases List.mem_cons.mp inside with rfl | inside
      · exact .inr List.mem_cons_self
      · exact (ih inside).imp_right (List.mem_cons_of_mem _)

end Run

namespace State

/-- The names of the variables in reach, innermost first. -/
def names (s : State) : List String := s.scope.map Variable.name

/-- Every cell that a variable in reach refers to is there. -/
def Placed (s : State) : Prop := ∀ x ∈ s.scope, ∀ cell, x.slot = .shared cell → cell < s.cells.size

/-- The variables in reach but for their values: their names, and what the constant ones were made with. -/
def shapes (s : State) : List (String × Option Value) := s.scope.map fun x => (x.name, Run.made? s x)

/-! ## Later states -/

/-- A state that a run may reach from another one. The variables that were in reach are there behind all
others. Whether a cell is constant stays as it is, and so does what a variable refers to that is
placed. And a limit that was exceeded stays exceeded. -/
structure Later (s t : State) : Prop where
  names : s.names <:+ t.names
  cells : ∀ cell < s.cells.size, cell < t.cells.size ∧
    t.cells[cell]?.map Cell.made = s.cells[cell]?.map Cell.made
  shapes : s.Placed → t.Placed ∧ s.shapes <:+ t.shapes
  exceeded : s.exceeded = true → t.exceeded = true

namespace Later

variable {s t u : State}

theorem refl (s : State) : s.Later s :=
  ⟨List.suffix_rfl, fun _ inside => ⟨inside, rfl⟩, fun placed => ⟨placed, List.suffix_rfl⟩, fun h => h⟩

theorem trans (first : s.Later t) (second : t.Later u) : s.Later u where
  names := first.names.trans second.names
  cells cell inside :=
    have here := first.cells cell inside
    have there := second.cells cell here.1
    ⟨there.1, there.2.trans here.2⟩
  shapes placed :=
    have here := first.shapes placed
    have there := second.shapes here.1
    ⟨there.1, here.2.trans there.2⟩
  exceeded before := second.exceeded (first.exceeded before)

/-- Variables and cells are as they were. -/
theorem of_same (scope : t.scope = s.scope) (cells : t.cells = s.cells)
    (exceeded : s.exceeded = true → t.exceeded = true) : s.Later t := by
  obtain ⟨_, this, _, operations, remarks, constants, _⟩ := t
  subst scope cells
  exact ⟨List.suffix_rfl, fun _ inside => ⟨inside, rfl⟩, fun placed => ⟨placed, List.suffix_rfl⟩, exceeded⟩

theorem mem_names (later : s.Later t) {name : String} (inside : name ∈ s.names) : name ∈ t.names :=
  later.names.subset inside

/-- What a placed variable was made with does not change with the cells. -/
theorem made?_eq (cells : ∀ cell < s.cells.size, cell < t.cells.size ∧
      t.cells[cell]?.map Cell.made = s.cells[cell]?.map Cell.made) {x : Variable}
    (placed : ∀ cell, x.slot = .shared cell → cell < s.cells.size) : Run.made? t x = Run.made? s x := by
  unfold Run.made?
  split
  · rfl
  · next cell shared =>
    obtain ⟨inside, same⟩ := cells cell (placed cell shared)
    rw [Array.getElem?_eq_getElem inside, Array.getElem?_eq_getElem (placed cell shared)] at same ⊢
    exact Option.some.inj same

/-- Other variables take the place of those in reach for a while. -/
theorem restored {locals : List Variable} {this : Option Receiver}
    (later : { s with scope := locals, this := this }.Later t) :
    s.Later { t with scope := s.scope, this := s.this } where
  names := List.suffix_rfl
  cells := later.cells
  shapes placed := by
    refine ⟨fun x inside cell shared => (later.cells cell (placed x inside cell shared)).1, ?_⟩
    have same : { t with scope := s.scope, this := s.this }.shapes = s.shapes :=
      List.map_congr_left fun x inside =>
        congrArg (Prod.mk x.name) (made?_eq later.cells (placed x inside))
    rw [same]
  exceeded := later.exceeded

/-- What is left of the variables if those that came later are left out is what was there. -/
theorem shapes_rewound (later : s.Later t) (placed : s.Placed) :
    let left := { t with scope := t.scope.drop (t.scope.length - s.scope.length) }
    left.Placed ∧ left.shapes = s.shapes := by
  intro left
  obtain ⟨placed', behind⟩ := later.shapes placed
  refine ⟨fun x inside => placed' x (List.mem_of_mem_drop inside), ?_⟩
  have rewound : left.shapes = t.shapes.drop (t.shapes.length - s.scope.length) := by
    unfold State.shapes
    rw [List.length_map]
    exact List.map_drop
  rw [rewound, drop_of_isSuffix behind (List.length_map _)]

theorem rewound (later : s.Later t) :
    s.Later { t with scope := t.scope.drop (t.scope.length - s.scope.length) } where
  names := by
    have behind : s.names <:+ t.names := later.names
    unfold State.names at behind ⊢
    rw [List.map_drop, ← t.scope.length_map (f := Variable.name),
      drop_of_isSuffix behind (List.length_map _)]
  cells := later.cells
  shapes placed := by
    obtain ⟨placed', same⟩ := later.shapes_rewound placed
    exact ⟨placed', same ▸ List.suffix_rfl⟩
  exceeded := later.exceeded

/-- Variables with values of their own are added. -/
theorem extended {more : List Variable} (own : ∀ x ∈ more, ∃ v, x.slot = .own v) :
    s.Later { s with scope := more ++ s.scope } where
  names := ⟨_, (List.map_append ..).symm⟩
  cells _ inside := ⟨inside, rfl⟩
  shapes placed := by
    refine ⟨fun x inside cell shared => ?_, ⟨_, (List.map_append ..).symm⟩⟩
    rcases List.mem_append.mp inside with later | inside
    · obtain ⟨v, owned⟩ := own x later
      cases owned.symm.trans shared
    · exact placed x inside cell shared
  exceeded h := h

/-- A variable is added. -/
theorem defined (name : String) (value : Value) (made : Option Value) :
    s.Later { s with scope := ⟨name, .own value, made⟩ :: s.scope } := by
  have own : ∀ x ∈ [(⟨name, .own value, made⟩ : Variable)], ∃ v, x.slot = .own v :=
    fun x inside => List.mem_singleton.mp inside ▸ ⟨value, rfl⟩
  exact .extended own

/-- Cells get other values, and there are more of them. -/
theorem celled {cells : Array Cell} (kept : ∀ cell < s.cells.size, cell < cells.size ∧
      cells[cell]?.map Cell.made = s.cells[cell]?.map Cell.made) : s.Later { s with cells := cells } where
  names := List.suffix_rfl
  cells := kept
  shapes placed := by
    refine ⟨fun x inside cell shared => (kept cell (placed x inside cell shared)).1, ?_⟩
    have same : { s with cells := cells }.shapes = s.shapes :=
      List.map_congr_left fun x inside => congrArg (Prod.mk x.name) (made?_eq kept (placed x inside))
    rw [same]
  exceeded h := h

/-- A variable gets another slot that is there, and stays constant if it was. -/
theorem slotted {name : String} {slot : Slot}
    (there : ∀ cell, slot = .shared cell → cell < s.cells.size)
    (constant : ∀ x, s.scope.find? (·.name = name) = some x →
      Run.made? s { x with slot := slot } = Run.made? s x) :
    s.Later { s with scope := Run.withSlot name slot s.scope } where
  names := by
    unfold State.names
    rw [Run.map_withSlot Variable.name fun _ _ => rfl]
  cells _ inside := ⟨inside, rfl⟩
  shapes placed := by
    refine ⟨fun x inside cell shared => ?_, ?_⟩
    · rcases Run.slot_of_mem_withSlot inside with same | inside
      · exact there cell (same.symm.trans shared)
      · exact placed x inside cell shared
    · have same : { s with scope := Run.withSlot name slot s.scope }.shapes = s.shapes :=
        Run.map_withSlot (fun x => (x.name, Run.made? s x)) fun x found =>
          congrArg (Prod.mk x.name) (constant x found)
      rw [same]
  exceeded h := h

end Later

end State

/-! ## States abreast -/

/-- How one run differs from another one that does the same. -/
structure Shift where
  /-- The variables that only the other run has, behind those of both. -/
  behind : List Variable
  /-- How many operations only this run took. -/
  lead : Nat
  /-- How many calls go on around this run only. -/
  levels : Nat
  /-- Names of variables that both runs have. -/
  known : List String

namespace Shift

/-- No difference. -/
def none : Shift := ⟨[], 0, 0, []⟩

variable (σ : Shift)

/-- The difference inside a function that both runs call, which has its own variables. -/
def inside : Shift := { σ with behind := [], known := [] }

/-- The difference where more variables are known. -/
def knowing (names : List String) : Shift := { σ with known := names ++ σ.known }

/-- The names of the variables that only the other run has. -/
def outer : List String := σ.behind.map Variable.name

/-- Whether a name stands for the same in both runs: for a variable that both have, or for none that only
the other one has. -/
def Owns (name : String) : Prop := name ∈ σ.known ∨ name ∉ σ.outer

variable {σ} in
theorem Owns.of_none (none : σ.behind = []) {name : String} : σ.Owns name :=
  .inr (by rw [outer, none]; exact List.not_mem_nil)

end Shift

/-- Two states that are the same but for the variables in reach and what a run counts and notes. -/
structure State.Agrees (s t : State) : Prop where
  this : t.this = s.this
  cells : t.cells = s.cells
  constants : t.constants = s.constants

namespace State.Agrees

variable {s t : State}

theorem refl (s : State) : s.Agrees s := ⟨rfl, rfl, rfl⟩

theorem read (agrees : s.Agrees t) (slot : Slot) : Run.read t slot = Run.read s slot := by
  unfold Run.read
  rw [agrees.cells]

theorem made? (agrees : s.Agrees t) (x : Variable) : Run.made? t x = Run.made? s x := by
  unfold Run.made?
  rw [agrees.cells]

end State.Agrees

/-- The state of a run beside that of another one. -/
structure State.Abreast (σ : Shift) (s t : State) : Prop extends State.Agrees s t where
  scope : t.scope = s.scope ++ σ.behind
  operations : s.operations = t.operations + σ.lead
  remarks : t.remarks = s.remarks
  exceeded : t.exceeded = s.exceeded
  known : ∀ name ∈ σ.known, name ∈ s.names

namespace State.Abreast

variable {σ : Shift} {s s' t t' : State}

theorem none_iff : s.Abreast .none t ↔ t = s := by
  constructor
  · rintro ⟨⟨this, cells, constants⟩, scope, operations, remarks, exceeded, -⟩
    obtain ⟨_, _, _, _, _, _, _⟩ := t
    obtain ⟨_, _, _, _, _, _, _⟩ := s
    have scope := scope.trans (List.append_nil _)
    have operations := operations.trans (Nat.add_zero _)
    dsimp only at scope this cells operations remarks constants exceeded
    subst scope this cells operations remarks constants exceeded
    rfl
  · rintro rfl
    exact ⟨.refl _, (List.append_nil _).symm, rfl, rfl, rfl, fun _ none => nomatch none⟩

/-- A name that stands for the same in both runs is found as the same variable. -/
theorem find? (abreast : s.Abreast σ s') {name : String} (own : σ.Owns name) :
    s'.scope.find? (·.name = name) = s.scope.find? (·.name = name) := by
  rw [abreast.scope, List.find?_append]
  cases found : s.scope.find? (·.name = name) with
  | some x => rfl
  | none =>
    have absent : name ∉ σ.known := fun known => by
      obtain ⟨x, inside, named⟩ := List.mem_map.mp (abreast.known name known)
      exact List.find?_eq_none.mp found x inside (decide_eq_true named)
    refine List.find?_eq_none.mpr fun x inside named => ?_
    exact own.resolve_left absent (List.mem_map.mpr ⟨x, inside, of_decide_eq_true named⟩)

theorem knowing (abreast : s.Abreast σ s') {names : List String} (there : ∀ name ∈ names, name ∈ s.names) :
    s.Abreast (σ.knowing names) s' :=
  { abreast with
    known := fun name known => (List.mem_append.mp known).elim (there name) (abreast.known name) }

theorem of_knowing {names : List String} (abreast : s.Abreast (σ.knowing names) s') : s.Abreast σ s' :=
  { abreast with known := fun name known => abreast.known name (List.mem_append_right _ known) }

/-- A variable is added in both runs. -/
theorem defined (abreast : s.Abreast σ s') (x : Variable) :
    State.Abreast σ { s with scope := x :: s.scope } { s' with scope := x :: s'.scope } :=
  { abreast with
    scope := congrArg (x :: ·) abreast.scope
    known := fun name known => List.mem_cons_of_mem _ (abreast.known name known) }

/-- A variable of both runs gets another slot. -/
theorem slotted (abreast : s.Abreast σ s') {name : String} {x : Variable}
    (found : s.scope.find? (·.name = name) = some x) (slot : Slot) :
    State.Abreast σ { s with scope := Run.withSlot name slot s.scope }
      { s' with scope := Run.withSlot name slot s'.scope } :=
  { abreast with
    scope := by
      have there : ∃ x ∈ s.scope, x.name = name :=
        ⟨x, List.mem_of_find?_eq_some found, by simpa using List.find?_some found⟩
      dsimp only
      rw [abreast.scope, Run.withSlot_append _ there]
    known := fun y known => by
      unfold State.names
      rw [Run.map_withSlot Variable.name fun _ _ => rfl]
      exact abreast.known y known }

/-- Both runs leave out the variables that came later. -/
theorem rewound (further : t.Abreast σ t') (abreast : s.Abreast σ s') (later : s.Later t) :
    State.Abreast σ { t with scope := t.scope.drop (t.scope.length - s.scope.length) }
      { t' with scope := t'.scope.drop (t'.scope.length - s'.scope.length) } :=
  { further with
    scope := by
      have drop : t'.scope.length - s'.scope.length = t.scope.length - s.scope.length := by
        rw [further.scope, abreast.scope, List.length_append, List.length_append, Nat.add_sub_add_right]
      rw [drop]
      dsimp only
      rw [further.scope, List.drop_append_of_le_length (Nat.sub_le _ _)]
    known := fun name known => later.rewound.mem_names (abreast.known name known) }

/-- Both runs enter a function, where they have the same variables. -/
theorem framed (abreast : s.Abreast σ s') (locals : List Variable) (this : Option Receiver) :
    State.Abreast σ.inside { s with scope := locals, this := this }
      { s' with scope := locals, this := this } :=
  { abreast with
    this := rfl
    scope := (List.append_nil _).symm
    known := fun _ none => nomatch none }

/-- Both runs leave a function, and have the variables again that they had. -/
theorem restored (further : t.Abreast σ.inside t') (abreast : s.Abreast σ s') :
    State.Abreast σ { t with scope := s.scope, this := s.this }
      { t' with scope := s'.scope, this := s'.this } :=
  { further with this := abreast.this, scope := abreast.scope, known := abreast.known }

end State.Abreast

end ScriptGate.Script
