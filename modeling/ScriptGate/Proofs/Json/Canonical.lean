import ScriptGate.Json.Value

/-!
# Values without doubles, and objects in order

A value is exact if no number in it is a double, and ordered if the members of every object in it
stand in strictly ascending order of their names. Order is what objects promise: `Members.ofList`
makes it, whatever it is given, and changes nothing where it is there already.
-/

namespace ScriptGate.Json

namespace Value

mutual

/-- Whether no number in a value is a double. -/
def isExact : Value → Bool
  | .number (.double _) => false
  | .list items => itemsExact items
  | .object members => membersExact members
  | _ => true

/-- Whether no number in the items is a double. -/
def itemsExact : List Value → Bool
  | [] => true
  | item :: rest => item.isExact && itemsExact rest

/-- Whether no number in the members is a double. -/
def membersExact : List (String × Value) → Bool
  | [] => true
  | (_, value) :: rest => value.isExact && membersExact rest

end

end Value

namespace Members

/-- Whether members stand in strictly ascending order of their names. -/
def Ascending (members : Members) : Prop := members.Pairwise fun a b => a.1 < b.1

instance (members : Members) : Decidable members.Ascending :=
  inferInstanceAs (Decidable (List.Pairwise _ members))

/-- Order is a matter of the names alone. -/
theorem ascending_of_names {members : Members} {names : List String}
    (named : members.map Prod.fst = names) (ascending : names.Pairwise (· < ·)) :
    members.Ascending := by
  rw [← named] at ascending
  exact List.pairwise_map.mp ascending

end Members

namespace Value

mutual

/-- Whether the members of every object in a value are in order. -/
def isOrdered : Value → Bool
  | .list items => itemsOrdered items
  | .object members => decide (Members.Ascending members) && membersOrdered members
  | _ => true

/-- Whether the members of every object in the items are in order. -/
def itemsOrdered : List Value → Bool
  | [] => true
  | item :: rest => item.isOrdered && itemsOrdered rest

/-- Whether the members of every object inside the members are in order. -/
def membersOrdered : List (String × Value) → Bool
  | [] => true
  | (_, value) :: rest => value.isOrdered && membersOrdered rest

end

theorem itemsExact_iff {items : List Value} :
    itemsExact items = true ↔ ∀ v ∈ items, v.isExact = true := by
  induction items with
  | nil => simp [itemsExact]
  | cons item rest ih => simp [itemsExact, ih]

theorem membersExact_iff {members : Members} :
    membersExact members = true ↔ ∀ m ∈ members, m.2.isExact = true := by
  induction members with
  | nil => simp [membersExact]
  | cons member rest ih => simp [membersExact, ih]

theorem itemsOrdered_iff {items : List Value} :
    itemsOrdered items = true ↔ ∀ v ∈ items, v.isOrdered = true := by
  induction items with
  | nil => simp [itemsOrdered]
  | cons item rest ih => simp [itemsOrdered, ih]

theorem membersOrdered_iff {members : Members} :
    membersOrdered members = true ↔ ∀ m ∈ members, m.2.isOrdered = true := by
  induction members with
  | nil => simp [membersOrdered]
  | cons member rest ih => simp [membersOrdered, ih]

theorem isOrdered_object_iff {members : Members} :
    (Value.object members).isOrdered = true ↔
      members.Ascending ∧ ∀ m ∈ members, m.2.isOrdered = true := by
  rw [isOrdered, Bool.and_eq_true, decide_eq_true_eq, membersOrdered_iff]

theorem itemsDepth_le_iff {items : List Value} {d : Nat} :
    itemsDepth items ≤ d ↔ ∀ v ∈ items, v.depth ≤ d := by
  induction items with
  | nil => simp [itemsDepth]
  | cons item rest ih => rw [itemsDepth, Nat.max_le, ih, List.forall_mem_cons]

theorem membersDepth_le_iff {members : Members} {d : Nat} :
    membersDepth members ≤ d ↔ ∀ m ∈ members, m.2.depth ≤ d := by
  induction members with
  | nil => simp [membersDepth]
  | cons member rest ih => rw [membersDepth, Nat.max_le, ih, List.forall_mem_cons]

end Value

/-! ## Inserting members -/

namespace Members

variable {name : String} {value : Value} {members : Members}

theorem mem_insert {m : String × Value} (h : m ∈ insert name value members) :
    m = (name, value) ∨ m ∈ members := by
  induction members with
  | nil =>
    rw [insert, List.mem_singleton] at h
    exact Or.inl h
  | cons first rest ih =>
    rw [insert] at h
    split at h
    · simpa using h
    · split at h
      · rcases List.mem_cons.mp h with here | later
        · exact Or.inl here
        · exact Or.inr (List.mem_cons_of_mem _ later)
      · rcases List.mem_cons.mp h with here | later
        · exact Or.inr (here ▸ List.mem_cons_self)
        · exact (ih later).imp_right (List.mem_cons_of_mem _)

/-- Inserting keeps the order. -/
theorem Ascending.insert (ascending : Ascending members) :
    Ascending (insert name value members) := by
  induction members with
  | nil => exact List.pairwise_singleton _ _
  | cons first rest ih =>
    obtain ⟨smaller, tail⟩ := List.pairwise_cons.mp ascending
    rw [Members.insert]
    split
    · rename_i below
      refine List.pairwise_cons.mpr ⟨fun m found => ?_, ascending⟩
      rcases List.mem_cons.mp found with here | later
      · rw [here]; exact below
      · exact String.lt_trans below (smaller m later)
    · rename_i notBelow
      split
      · rename_i same
        subst same
        exact List.pairwise_cons.mpr ⟨smaller, tail⟩
      · rename_i other
        refine List.pairwise_cons.mpr ⟨fun m found => ?_, ih tail⟩
        rcases mem_insert found with here | later
        · rw [here]
          exact Std.lt_of_le_of_ne (String.not_lt.mp notBelow) (Ne.symm other)
        · exact smaller m later

/-- A member whose name is greater than all others comes last. -/
theorem insert_eq_append (greater : ∀ m ∈ members, m.1 < name) :
    insert name value members = members ++ [(name, value)] := by
  induction members with
  | nil => rfl
  | cons first rest ih =>
    have below : first.1 < name := greater first List.mem_cons_self
    rw [insert, if_neg (String.lt_asymm below), if_neg (Ne.symm (String.ne_of_lt below)),
      ih fun m found => greater m (List.mem_cons_of_mem _ found)]
    rfl

/-! ## Collecting members -/

/-- Members that are collected are in order, however they were written. -/
theorem ascending_ofList (written : Members) : Ascending (ofList written) := by
  suffices ∀ sofar : Members, Ascending sofar →
      Ascending (written.foldl (fun members m => insert m.1 m.2 members) sofar) from
    this [] List.Pairwise.nil
  induction written with
  | nil => exact fun _ ascending => ascending
  | cons m rest ih => exact fun _ ascending => ih _ ascending.insert

/-- Only members that were written are collected. -/
theorem mem_of_mem_ofList {written : Members} {m : String × Value} (h : m ∈ ofList written) :
    m ∈ written := by
  suffices ∀ sofar : Members,
      m ∈ written.foldl (fun members m => insert m.1 m.2 members) sofar →
        m ∈ sofar ∨ m ∈ written from
    (this [] h).resolve_left List.not_mem_nil
  clear h
  induction written with
  | nil => exact fun _ found => Or.inl found
  | cons first rest ih =>
    intro sofar found
    rcases ih _ found with before | later
    · rcases mem_insert before with here | before
      · exact Or.inr (here ▸ List.mem_cons_self)
      · exact Or.inl before
    · exact Or.inr (List.mem_cons_of_mem _ later)

/-- Members in order are collected as they are. -/
theorem ofList_eq_self (ascending : Ascending members) : ofList members = members := by
  suffices ∀ (sofar rest : Members), Ascending (sofar ++ rest) →
      rest.foldl (fun members m => insert m.1 m.2 members) sofar = sofar ++ rest from
    this [] members ascending
  intro sofar rest
  induction rest generalizing sofar with
  | nil => intro _; rw [List.append_nil]; rfl
  | cons m rest ih =>
    obtain ⟨name, value⟩ := m
    intro ascending
    have greater : ∀ other ∈ sofar, other.1 < name := fun other found =>
      (List.pairwise_append.mp ascending).2.2 other found (name, value) List.mem_cons_self
    have shifted : Ascending ((sofar ++ [(name, value)]) ++ rest) := by
      rw [List.append_assoc]
      exact ascending
    rw [List.foldl_cons]
    dsimp only
    rw [insert_eq_append greater, ih _ shifted, List.append_assoc]
    rfl

end Members

end ScriptGate.Json
