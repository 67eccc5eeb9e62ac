import ScriptGate.Proofs.Json.RoundTrip
import ScriptGate.Proofs.Json.Yield

/-!
# Reading back whole texts

Writing has no limit and reading has one: what is written for a value is read back exactly if it
is nested at most `maxDepth` deep, and is no JSON for the reader otherwise. An argument list is
itself one level, which leaves each argument one level less.
-/

namespace ScriptGate.Json

open Reader

variable {v : Value}

/-- A written value is read back if it is not too deep. -/
theorem read_render (exact : v.isExact = true) (ordered : v.isOrdered = true)
    (fits : v.depth ≤ maxDepth) : read v.render = .ok v := by
  have taken := value_write v maxDepth [] exact ordered endsNumber_nil fits
  rw [read, run_eq_bare, Value.render, String.toList_ofList, taken]
  rfl

/-- A written value that is too deep is refused for that reason. -/
theorem read_render_tooDeep (exact : v.isExact = true) (ordered : v.isOrdered = true)
    (deep : maxDepth < v.depth) :
    ∃ line column, read v.render = .error ⟨.nestedTooDeep, line, column⟩ := by
  obtain ⟨left, refused⟩ := value_write_tooDeep v maxDepth [] exact ordered deep
  rw [read, run_eq_bare, Value.render, String.toList_ofList, refused]
  exact ⟨_, _, rfl⟩

theorem Value.text?_eq_some_iff {s : String} : v.text? = some s ↔ v = .text s := by
  cases v <;> simp [text?]

theorem read?_eq_some_iff {text : String} : read? text = some v ↔ read text = .ok v :=
  toOption_eq_some_iff

theorem read?_render (exact : v.isExact = true) (ordered : v.isOrdered = true)
    (fits : v.depth ≤ maxDepth) : read? v.render = some v := by
  rw [read?, read_render exact ordered fits]
  rfl

theorem read?_render_tooDeep (exact : v.isExact = true) (ordered : v.isOrdered = true)
    (deep : maxDepth < v.depth) : read? v.render = none := by
  obtain ⟨line, column, refused⟩ := read_render_tooDeep exact ordered deep
  rw [read?, refused]
  rfl

/-- A written object is read back with its members in order, whatever order they were written in. -/
theorem read_render_object {members : Members} (exact : (Value.object members).isExact = true)
    (ordered : ∀ m ∈ members, m.2.isOrdered = true)
    (fits : (Value.object members).depth ≤ maxDepth) :
    read (Value.object members).render = .ok (.object (Members.ofList members)) := by
  have taken : (value maxDepth).bare ((Value.object members).write []) =
      .ok (.object (Members.ofList members), []) := by
    cases members with
    | nil => exact value_write (.object []) maxDepth [] rfl rfl endsNumber_nil fits
    | cons member members =>
      obtain ⟨name, v⟩ := member
      simp only [Value.isExact, Value.membersExact, Bool.and_eq_true] at exact
      rw [List.forall_mem_cons] at ordered
      simp only [Value.depth, Value.membersDepth, maxDepth] at fits
      have inside := value_write v 126 (Value.writeMembers members []) exact.1 ordered.1
        (endsNumber_writeMembers members []) (by omega)
      have more := moreItems_writeMembers members 126 [(name, v)] [] exact.2
        (Value.membersOrdered_iff.mpr ordered.2) (by omega)
      obtain ⟨tail, start⟩ :=
        skipBlank_writeText name (':' :: v.write (Value.writeMembers members []))
      rw [Value.write, maxDepth, value_object,
        items_first start (by decide) (by rw [member_write, inside]; rfl), more]
      rfl
  rw [read, run_eq_bare, Value.render, String.toList_ofList, taken]
  rfl

/-! ## Texts that are no JSON -/

/-- Whether a value can begin with a character. -/
def beginsValue (c : Char) : Bool :=
  c = 'n' || c = 't' || c = 'f' || c = '-' || (digit? c).isSome || c = '"' || c = '[' || c = '\x7b'

/-- A text is refused for its first character, if no value begins with that. -/
theorem read_of_not_beginsValue {text : String} {c : Char} {tail : List Char}
    (start : text.toList = c :: tail) (visible : isBlank c = false)
    (foreign : beginsValue c = false) :
    ∃ line column, read text = .error ⟨.valueWanted, line, column⟩ := by
  simp only [beginsValue, Bool.or_eq_false_iff, decide_eq_false_iff_not] at foreign
  obtain ⟨⟨⟨⟨⟨⟨⟨n, t⟩, f⟩, minus⟩, digit⟩, quote⟩, bracket⟩, brace⟩ := foreign
  have refused : (value maxDepth).bare (c :: tail) = .error (.past .valueWanted (c :: tail)) := by
    rw [maxDepth, value, bare_valueWith, skipBlank_cons visible]
    simp only [if_neg n, if_neg t, if_neg f, if_neg minus, digit, Bool.false_eq_true, if_false,
      if_neg quote, if_neg bracket, if_neg brace]
  rw [read, run_eq_bare, start, refused]
  exact ⟨_, _, rfl⟩

/-! ## Argument lists -/

section ArgumentLists

variable {args : List Value}

/-- An argument list is exact if its arguments are. -/
theorem isExact_list (exact : ∀ v ∈ args, v.isExact = true) : (Value.list args).isExact = true :=
  Value.itemsExact_iff.mpr exact

/-- An argument list is ordered if its arguments are. -/
theorem isOrdered_list (ordered : ∀ v ∈ args, v.isOrdered = true) :
    (Value.list args).isOrdered = true :=
  Value.itemsOrdered_iff.mpr ordered

/-- A list is within the depth of the reader if its items leave one level for it. -/
theorem depth_list_le_iff : (Value.list args).depth ≤ maxDepth ↔ ∀ v ∈ args, v.depth ≤ 126 := by
  rw [← Value.itemsDepth_le_iff, Value.depth, maxDepth]
  omega

theorem read_renderList (args : List Value) :
    read (renderList args) = (readList (renderList args)).map .list := by
  have start : ∃ t, (Value.list args).write [] = '[' :: t := by
    cases args with
    | nil => exact ⟨_, rfl⟩
    | cons v rest => exact ⟨_, rfl⟩
  obtain ⟨t, start⟩ := start
  refine read_of_bracket (t := t) ?_
  rw [renderList, Value.render, String.toList_ofList, start, skipBlank_cons (by decide)]

/-- Where a list is wanted, a written argument list is read back as well. -/
theorem readList_renderList (exact : ∀ v ∈ args, v.isExact = true)
    (ordered : ∀ v ∈ args, v.isOrdered = true) (fits : ∀ v ∈ args, v.depth ≤ 126) :
    readList (renderList args) = .ok args := by
  refine readList_of_read ?_
  exact read_render (isExact_list exact) (isOrdered_list ordered) (depth_list_le_iff.mpr fits)

/-- Where a list is wanted, an argument that is too deep is refused for that reason. -/
theorem readList_renderList_tooDeep (exact : ∀ v ∈ args, v.isExact = true)
    (ordered : ∀ v ∈ args, v.isOrdered = true) (deep : ∃ v ∈ args, 126 < v.depth) :
    ∃ line column, readList (renderList args) = .error ⟨.nestedTooDeep, line, column⟩ := by
  have tooDeep : maxDepth < (Value.list args).depth := by
    refine Nat.not_le.mp fun fits => ?_
    obtain ⟨v, found, deep⟩ := deep
    have shallow := depth_list_le_iff.mp fits v found
    omega
  obtain ⟨line, column, refused⟩ :=
    read_render_tooDeep (isExact_list exact) (isOrdered_list ordered) tooDeep
  change read (renderList args) = _ at refused
  rw [read_renderList] at refused
  cases listed : readList (renderList args) with
  | ok xs =>
    rw [listed] at refused
    cases refused
  | error e =>
    rw [listed] at refused
    cases refused
    exact ⟨line, column, rfl⟩

/-- An argument list is always written, and what is written is read back as that list exactly if
each of the arguments is nested at most 126 deep; otherwise it is no JSON for the reader. -/
theorem read?_renderList_eq_some_iff (exact : ∀ v ∈ args, v.isExact = true)
    (ordered : ∀ v ∈ args, v.isOrdered = true) :
    (read? (renderList args) = some (.list args) ↔ ∀ v ∈ args, v.depth ≤ 126) ∧
      ((∃ v ∈ args, 126 < v.depth) → read? (renderList args) = none) := by
  have refused : ¬ (Value.list args).depth ≤ maxDepth → read? (renderList args) = none :=
    fun deep => read?_render_tooDeep (isExact_list exact) (isOrdered_list ordered)
      (Nat.not_le.mp deep)
  refine ⟨⟨fun readBack => ?_, fun fits => ?_⟩, ?_⟩
  · by_cases fits : (Value.list args).depth ≤ maxDepth
    · exact depth_list_le_iff.mp fits
    · rw [refused fits] at readBack
      cases readBack
  · exact read?_render (isExact_list exact) (isOrdered_list ordered) (depth_list_le_iff.mpr fits)
  · rintro ⟨v, found, deep⟩
    refine refused fun fits => ?_
    have shallow := depth_list_le_iff.mp fits v found
    omega

/-- Two argument lists at the limit: one that comes back, and one with an argument a level deeper.
-/
theorem read?_renderList_at_limit :
    read? (renderList [.object [("\"", .text "\\\n\u0001😀"), ("é", .list [])],
        .number (.whole ⟨-0x8000000000000000, by decide, by decide⟩), .nested 126]) =
      some (.list [.object [("\"", .text "\\\n\u0001😀"), ("é", .list [])],
        .number (.whole ⟨-0x8000000000000000, by decide, by decide⟩), .nested 126]) ∧
      read? (renderList [.null, .nested 127]) = none :=
  ⟨(read?_renderList_eq_some_iff (by decide +kernel) (by decide +kernel)).1.mpr (by decide +kernel),
    (read?_renderList_eq_some_iff (by decide +kernel) (by decide +kernel)).2
      ⟨.nested 127, List.mem_cons_of_mem _ List.mem_cons_self, by decide +kernel⟩⟩

end ArgumentLists

end ScriptGate.Json
