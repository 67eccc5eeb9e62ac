import ScriptGate.Proofs.Json.Bare
import ScriptGate.Proofs.Json.Canonical

/-!
# What readers yield

Whatever stands in a text, a value that is read from it has its objects in order and is nested no
deeper than the reader allows (`Reader.value_yields`). `Reader.Yields` says such a thing of a reader;
a container yields what its items yield.
-/

namespace ScriptGate.Json

variable {α β : Type} {P : α → Prop}

namespace Reader

/-- Whether all that a reader yields has a property. -/
def Yields (r : Reader α) (P : α → Prop) : Prop :=
  ∀ s x rest, r.bare s = .ok (x, rest) → P x

/-- A reader takes something. -/
theorem length_lt_of_bare {r : Reader α} {s rest : List Char} {x : α}
    (taken : r.bare s = .ok (x, rest)) : rest.length < s.length := by
  obtain ⟨⟨_, rest, short⟩, -, same⟩ := exists_of_map_eq_ok taken
  cases same
  exact short

/-! ## Lists and objects -/

section Containers

variable {b : Bracket} {item : Reader α}

/-- The items behind earlier ones are as those are, if all are that the item's reader yields. -/
theorem Yields.moreItems (yields : item.Yields P) {before : List α} (earlier : ∀ x ∈ before, P x) :
    (moreItems b item before).Yields fun xs => ∀ x ∈ xs, P x := by
  intro s
  -- The text gets shorter with every item, but not by its tail, and the items before grow.
  induction length : s.length using Nat.strongRecOn generalizing before s with
  | ind n ih =>
    intro xs rest taken
    rw [bare_moreItems] at taken
    split at taken
    · cases taken
    · next c tail start =>
      split at taken
      · cases taken
        exact fun x found => earlier x (List.mem_reverse.mp found)
      split at taken
      · split at taken
        · split at taken
          · cases taken
          · obtain ⟨⟨x, more⟩, first, others⟩ := exists_of_bind_eq_ok taken
            have shorter := length_lt_of_skipBlank start
            have short := length_lt_of_bare first
            exact ih more.length (by omega) (List.forall_mem_cons.mpr ⟨yields _ _ _ first, earlier⟩)
              more rfl xs rest others
        · cases taken
      · cases taken

theorem Yields.items (yields : item.Yields P) :
    (items b item).Yields fun xs => ∀ x ∈ xs, P x := by
  intro s xs rest taken
  rw [bare_items] at taken
  split at taken
  · cases taken
  · split at taken
    · cases taken
      exact fun _ found => absurd found List.not_mem_nil
    · obtain ⟨⟨x, more⟩, first, others⟩ := exists_of_bind_eq_ok taken
      exact yields.moreItems (List.forall_mem_singleton.mpr (yields _ _ _ first)) _ _ _ others

theorem Yields.member {value : Reader α} (yields : value.Yields P) :
    (member value).Yields fun m => P m.2 := by
  intro s m rest taken
  rw [bare_member] at taken
  obtain ⟨⟨key, afterKey⟩, -, taken⟩ := exists_of_bind_eq_ok taken
  obtain ⟨⟨_, afterColon⟩, -, taken⟩ := exists_of_bind_eq_ok taken
  obtain ⟨⟨v, afterValue⟩, read, same⟩ := exists_of_bind_eq_ok taken
  cases same
  exact yields _ _ _ read

end Containers

/-! ## Values -/

/-- What every value is like that is read down to a depth. -/
structure Bounded (d : Nat) (v : Value) : Prop where
  isOrdered : v.isOrdered = true
  depth_le : v.depth ≤ d

theorem Bounded.list {d : Nat} {items : List Value} (inside : ∀ v ∈ items, Bounded d v) :
    Bounded (d + 1) (.list items) := by
  constructor
  case isOrdered => exact Value.itemsOrdered_iff.mpr fun v found => (inside v found).isOrdered
  case depth_le =>
    rw [Value.depth]
    exact Nat.succ_le_succ (Value.itemsDepth_le_iff.mpr fun v found => (inside v found).depth_le)

theorem Bounded.object {d : Nat} {written : Members}
    (inside : ∀ m ∈ written, Bounded d m.2) : Bounded (d + 1) (.object (Members.ofList written)) := by
  have collected : ∀ m ∈ Members.ofList written, Bounded d m.2 := fun m found =>
    inside m (Members.mem_of_mem_ofList found)
  constructor
  case isOrdered =>
    exact Value.isOrdered_object_iff.mpr
      ⟨Members.ascending_ofList written, fun m found => (collected m found).isOrdered⟩
  case depth_le =>
    rw [Value.depth]
    exact Nat.succ_le_succ (Value.membersDepth_le_iff.mpr fun m found => (collected m found).depth_le)

theorem Bounded.scalar {d : Nat} {v : Value} (isOrdered : v.isOrdered = true) (flat : v.depth = 0) :
    Bounded d v :=
  ⟨isOrdered, flat ▸ Nat.zero_le d⟩

theorem valueWith_yields {inner : Option (Reader Value)} {d : Nat}
    (inside : ∀ r, inner = some r → ∃ e, d = e + 1 ∧ r.Yields (Bounded e)) :
    (valueWith inner).Yields (Bounded d) := by
  intro s v rest taken
  rw [bare_valueWith] at taken
  split at taken
  · cases taken
  -- A scalar is in order whatever it is, so only the two containers look inside.
  iterate 6
    split at taken
    · obtain ⟨_, -, same⟩ := exists_of_map_eq_ok taken
      cases same
      exact .scalar rfl rfl
  split at taken
  · split at taken
    · cases taken
    · next r =>
      obtain ⟨e, rfl, yields⟩ := inside r rfl
      obtain ⟨⟨items, more⟩, read, same⟩ := exists_of_map_eq_ok taken
      cases same
      exact .list (yields.items _ _ _ read)
  split at taken
  · split at taken
    · cases taken
    · next r =>
      obtain ⟨e, rfl, yields⟩ := inside r rfl
      obtain ⟨⟨written, more⟩, read, same⟩ := exists_of_map_eq_ok taken
      cases same
      exact .object (yields.member.items _ _ _ read)
  · cases taken

theorem value_yields (d : Nat) : (value d).Yields (Bounded d) := by
  induction d with
  | zero => exact valueWith_yields nofun
  | succ d ih =>
    refine valueWith_yields ?_
    rintro _ ⟨⟩
    exact ⟨d, rfl, ih⟩

/-- What is read from a whole text is what its reader yields. -/
theorem Yields.run {r : Reader α} (yields : r.Yields P) {text : String} {x : α}
    (read : r.run text = .ok x) : P x := by
  rw [run_eq_bare] at read
  obtain ⟨⟨y, rest⟩, taken, left⟩ := exists_of_bind_eq_ok (eq_ok_of_mapError_eq_ok read)
  dsimp only at left
  split at left
  · cases left
    exact yields _ _ _ taken
  · cases left

end Reader

/-- A value that is read from a text is in order, and within the depth of the reader. -/
theorem bounded_of_read {text : String} {v : Value} (found : read text = .ok v) :
    Reader.Bounded Reader.maxDepth v :=
  (Reader.value_yields Reader.maxDepth).run found

/-- A list that is read as a value is read the same by the reader of lists. -/
theorem Reader.bare_list_of_value {d : Nat} {s rest : List Char} {xs : List Value}
    (taken : (value (d + 1)).bare s = .ok (.list xs, rest)) : (list d).bare s = .ok (xs, rest) := by
  rw [value, bare_valueWith] at taken
  rw [bare_list]
  split at taken
  · cases taken
  next c tail start =>
  -- No other opening character makes a list.
  iterate 6
    split at taken
    · obtain ⟨_, -, same⟩ := exists_of_map_eq_ok taken
      cases same
  split at taken
  · next bracket =>
    subst bracket
    obtain ⟨⟨items, more⟩, read, same⟩ := exists_of_map_eq_ok taken
    cases same
    rw [start]
    exact read
  split at taken
  · obtain ⟨_, -, same⟩ := exists_of_map_eq_ok taken
    cases same
  · cases taken

/-- Behind an opening bracket a list is read the same by both readers. -/
theorem Reader.bare_value_of_bracket {d : Nat} {s t : List Char} (start : skipBlank s = '[' :: t) :
    (value (d + 1)).bare s = ((list d).bare s).map fun (xs, rest) => (.list xs, rest) := by
  rw [value, bare_valueWith, bare_list, start]
  rfl

/-- A text that begins with a bracket is read as a value just as it is where a list is wanted. -/
theorem read_of_bracket {text : String} {t : List Char}
    (start : Reader.skipBlank text.toList = '[' :: t) : read text = (readList text).map .list := by
  rw [read, readList, Reader.run_eq_bare, Reader.run_eq_bare, Reader.maxDepth,
    Reader.bare_value_of_bracket start]
  cases (Reader.list 126).bare text.toList with
  | error failure => rfl
  | ok taken =>
    obtain ⟨xs, rest⟩ := taken
    simp only [Except.map, bind, Except.bind]
    cases Reader.skipBlank rest <;> rfl

/-- A text that holds a list is read as that list where a list is wanted. -/
theorem readList_of_read {text : String} {xs : List Value} (found : read text = .ok (.list xs)) :
    readList text = .ok xs := by
  rw [read, Reader.run_eq_bare] at found
  obtain ⟨⟨v, rest⟩, taken, left⟩ := exists_of_bind_eq_ok (eq_ok_of_mapError_eq_ok found)
  dsimp only at left
  split at left
  · next ended =>
    cases left
    rw [readList, Reader.run_eq_bare, Reader.maxDepth, Reader.bare_list_of_value taken]
    simp only [bind, Except.bind, ended]
    rfl
  · cases left

end ScriptGate.Json
