import ScriptGate.Proofs.Script.Mirror.Library

/-!
# Literals and parts under a change of function bodies
-/

namespace ScriptGate.Script

variable (c : Recast)

/-! ## Literals -/

theorem bareLiteralEntries_eq (entries : List (String × Literal)) :
    bareLiteralEntries entries = entries.map fun e => (e.1, e.2.bare) := by
  induction entries with
  | nil => rfl
  | cons entry rest ih => exact congrArg ((entry.1, entry.2.bare) :: ·) ih

theorem lookup_bareLiteralEntries (name : String) (entries : List (String × Literal)) :
    (bareLiteralEntries entries).lookup name = (entries.lookup name).map Literal.bare := by
  induction entries with
  | nil => rfl
  | cons entry rest ih =>
    obtain ⟨other, v⟩ := entry
    simp only [bareLiteralEntries, List.lookup_cons, ih]
    split <;> rfl

mutual

theorem Value.isLiteral_recast (v : Value) (key : Literal) :
    (recast c v).isLiteral key.bare = v.isLiteral key := by
  cases v with
  | array items =>
    cases key with
    | array keys => simp only [recast_array, Literal.bare, isLiteral, areLiterals_recast items keys]
    | _ => simp [Literal.bare, isLiteral]
  | object entries =>
    cases key with
    | object keys =>
      simp only [recast_object, Literal.bare, isLiteral, areLiteralEntries_recast entries keys]
    | _ => simp [Literal.bare, isLiteral]
  | function name body cells bound =>
    cases key <;> cases body <;> simp [Literal.bare, isLiteral]
  | _ => cases key <;> rfl

theorem Value.areLiterals_recast (vs : List Value) (keys : List Literal) :
    areLiterals (vs.map (recast c)) (bareLiterals keys) = areLiterals vs keys := by
  cases vs with
  | nil => cases keys <;> rfl
  | cons v vs =>
    cases keys with
    | nil => rfl
    | cons key keys =>
      simp only [List.map_cons, bareLiterals, areLiterals, isLiteral_recast v key,
        areLiterals_recast vs keys]

theorem Value.areLiteralEntries_recast (vs : Entries) (keys : List (String × Literal)) :
    areLiteralEntries (vs.map (recast c)) (bareLiteralEntries keys) = areLiteralEntries vs keys := by
  cases vs with
  | nil => cases keys <;> rfl
  | cons entry vs =>
    obtain ⟨name, v⟩ := entry
    have others : (bareLiteralEntries keys).filter (fun e => e.1 ≠ name) =
        bareLiteralEntries (keys.filter fun e => e.1 ≠ name) := by
      rw [bareLiteralEntries_eq, bareLiteralEntries_eq, List.filter_map]
      rfl
    simp only [List.map_cons, recast_pair, recast_string, areLiteralEntries,
      lookup_bareLiteralEntries, others, areLiteralEntries_recast vs]
    cases keys.lookup name with
    | none => rfl
    | some key => simp only [Option.map_some, isLiteral_recast v key]

end

mutual

/-- The value of a literal without places is the value without places. -/
theorem Value.ofLiteral_bare (v : Literal) : ofLiteral v.bare = recast .bare (ofLiteral v) := by
  cases v with
  | array items => simp only [Literal.bare, ofLiteral, recast_array, ofLiterals_bare items]
  | object entries => simp only [Literal.bare, ofLiteral, recast_object, ofLiteralEntries_bare entries]
  | closure params body =>
    simp only [Literal.bare, ofLiteral, recast_function, List.map_nil]
    rfl
  | _ => rfl

theorem Value.ofLiterals_bare (vs : List Literal) :
    ofLiterals (bareLiterals vs) = (ofLiterals vs).map (recast .bare) := by
  cases vs with
  | nil => rfl
  | cons v vs => simp only [bareLiterals, ofLiterals, List.map_cons, ofLiteral_bare v, ofLiterals_bare vs]

theorem Value.ofLiteralEntries_bare (vs : List (String × Literal)) :
    ofLiteralEntries (bareLiteralEntries vs) = (ofLiteralEntries vs).map (recast .bare) := by
  cases vs with
  | nil => rfl
  | cons entry vs =>
    obtain ⟨name, v⟩ := entry
    simp only [bareLiteralEntries, ofLiteralEntries, ofLiteral_bare v, ofLiteralEntries_bare vs,
      Entries.insert_recast]

end

section Plain

variable {constants : Bool}

mutual

/-- The value of a plain literal is plain. -/
theorem Value.ofLiteral_plain {v : Literal} (plain : v.isPlain constants = true) :
    recast (.cleaned constants) (ofLiteral v) = ofLiteral v := by
  cases v with
  | array items =>
    rw [ofLiteral, recast_array, ofLiterals_plain plain]
  | object entries =>
    rw [ofLiteral, recast_object, ofLiteralEntries_plain plain]
  | closure params body =>
    rw [ofLiteral, recast_function]
    have kept : (if isPlainBody constants body then body else []) = body := if_pos plain
    exact congrArg (fun body => Value.function Value.anonymous (some ⟨Value.anonymous, params, body⟩) [] [])
      kept
  | _ => rfl

theorem Value.ofLiterals_plain {vs : List Literal} (plain : arePlainLiterals constants vs = true) :
    (ofLiterals vs).map (recast (.cleaned constants)) = ofLiterals vs := by
  cases vs with
  | nil => rfl
  | cons v vs =>
    obtain ⟨here, others⟩ := Bool.and_eq_true_iff.mp plain
    rw [ofLiterals, List.map_cons, ofLiteral_plain here, ofLiterals_plain others]

theorem Value.ofLiteralEntries_plain {vs : List (String × Literal)}
    (plain : arePlainLiteralEntries constants vs = true) :
    (ofLiteralEntries vs).map (recast (.cleaned constants)) = ofLiteralEntries vs := by
  cases vs with
  | nil => rfl
  | cons entry vs =>
    obtain ⟨name, v⟩ := entry
    obtain ⟨here, others⟩ := Bool.and_eq_true_iff.mp plain
    rw [ofLiteralEntries, ← Entries.insert_recast, ofLiteral_plain here, ofLiteralEntries_plain others]

end

end Plain

/-! ## Parts -/

/-- Two parts are the same but for a change of bodies, and so is what the wholes become when something
is put in their places. -/
structure Part.Recasts (part part' : Part) : Prop where
  value : part'.value = recast c part.value
  isOwn : part'.isOwn = part.isOwn
  put? : Option.Rel (fun put put' => ∀ v, put' (recast c v) = recast c (put v)) part.put? part'.put?

/-- Two looks at a part find the same but for a change of bodies and places. -/
inductive Part.Finds {ε : Type} [Castable ε] : Except ε Part → Except ε Part → Prop where
  | ok {part part' : Part} (same : part.Recasts c part') : Finds (.ok part) (.ok part')
  | error (e : ε) : Finds (.error e) (.error (recast c e))

namespace Part

theorem own_recasts {v : Value} {put put' : Value → Value}
    (same : ∀ w, put' (recast c w) = recast c (put w)) :
    Recasts c (own v put) (own (recast c v) put') :=
  ⟨rfl, rfl, .some fun w => congrArg Except.ok (same w)⟩

/-- A part that is made when it is asked for. -/
theorem made_recasts {v : Value} (inert : recast c v = v) {put put' : Value → Except ErrorCause Value}
    (same : ∀ w, put' (recast c w) = recast c (put w)) :
    Recasts c ⟨v, false, some put⟩ ⟨v, false, some put'⟩ :=
  ⟨inert.symm, rfl, .some same⟩

theorem item_finds (items : List Value) (i : Int64) :
    Finds c (item items i) (item (items.map (recast c)) i) := by
  unfold item
  rw [List.length_map]
  split
  · next n found =>
    have value : (items.map (recast c)).getD n .unit = recast c (items.getD n .unit) := by
      simp [List.getD_eq_getElem?_getD]
    rw [value]
    exact .ok (own_recasts c fun w => by simp [List.map_set])
  · exact .error _

theorem entry_finds (entries : Entries) (name : String) :
    Finds c (entry entries name) (entry (entries.map (recast c)) name) := by
  unfold entry
  rw [Entries.get?_recast]
  cases entries.get? name with
  | some v => exact .ok (own_recasts c fun w => by simp)
  | none => exact .error _

theorem character_finds (s : String) (i : Int64) : Finds c (character s i) (character s i) := by
  unfold character
  dsimp only
  split
  · exact .ok (made_recasts c rfl fun w => by cases w with
      | range a b i => cases i <;> rfl
      | _ => rfl)
  · exact .error _

theorem stretch_finds (s : String) (first last : Int64) (inclusive : Bool) :
    Finds c (stretch s first last inclusive) (stretch s first last inclusive) := by
  unfold stretch
  dsimp only
  split
  · exact .ok (made_recasts c rfl fun w => by simp)
  · exact .error _

theorem bit_finds (n i : Int64) : Finds c (bit n i) (bit n i) := by
  unfold bit
  dsimp only
  split
  · exact .ok (made_recasts c rfl fun w => by cases w with
      | range a b i => cases i <;> rfl
      | boolean b => cases b <;> rfl
      | _ => rfl)
  · exact .error _

theorem bits_finds (n first last : Int64) (inclusive : Bool) :
    Finds c (bits n first last inclusive) (bits n first last inclusive) := by
  unfold bits
  dsimp only
  split
  · exact .error _
  · split
    · exact .error _
    · exact .ok (made_recasts c rfl fun w => by cases w with
        | range a b i => cases i <;> rfl
        | _ => rfl)

theorem byte_finds (bytes : List UInt8) (i : Int64) : Finds c (byte bytes i) (byte bytes i) := by
  unfold byte
  split
  · exact .ok (made_recasts c rfl fun w => by cases w with
      | range a b i => cases i <;> rfl
      | _ => rfl)
  · exact .error _

/-- What is found at an index, with the fault at its place: `q` is that of the index, `p` that of the
bracket. -/
def indexed (q p : Position) : Except ErrorCause Part → Except Error Part
  | .ok part => .ok part
  | .error (.noIndexer signature) => .error (.plain (.noIndexer signature) (some p))
  | .error cause => .error (.plain cause (some q))

theorem indexed_finds {found found' : Except ErrorCause Part} (same : Finds c found found')
    (q p : Position) :
    Finds c (indexed q p found) (indexed (recast c q) (recast c p) found') := by
  cases same with
  | ok same => exact .ok same
  | error cause => cases cause <;> exact .error (Error.plain _ _)

theorem atIndex_finds (whole key : Value) (q p : Position) :
    Finds c (atIndex whole key q p)
      (atIndex (recast c whole) (recast c key) (recast c q) (recast c p)) := by
  have found {found found' : Except ErrorCause Part} (same : Finds c found found') :=
    indexed_finds c same q p
  cases whole with
  | array items =>
    rw [recast_array]
    cases key with
    | integer i => exact found (item_finds c items i)
    | _ => exact .error _
  | object entries =>
    rw [recast_object]
    cases key with
    | text name => exact found (entry_finds c entries name)
    | _ => exact .error _
  | text s =>
    cases key with
    | integer i => exact found (character_finds c s i)
    | range first last inclusive => exact found (stretch_finds c s first last inclusive)
    | _ => exact .error _
  | integer n =>
    cases key with
    | integer i => exact found (bit_finds c n i)
    | range first last inclusive => exact found (bits_finds c n first last inclusive)
    | _ => exact .error _
  | blob bytes =>
    cases key with
    | integer i => exact found (byte_finds c bytes i)
    | _ => exact .error _
  | _ => cases key <;> exact .error _

/-- The property of a value that is no object. -/
def computed (name : String) (v : Value) : Except ErrorCause Part :=
  match Library.property? name v with
  | some result => result.map fun v => ⟨v, false, none⟩
  | none => .error (.noGetter name v.kind)

theorem computed_finds (name : String) (v : Value) :
    Finds c (computed name v) (computed name (recast c v)) := by
  unfold computed
  rw [Library.recast_property?, Value.kind_recast]
  cases Library.property? name v with
  | none => exact .error _
  | some result =>
    cases result with
    | error cause => exact .error cause
    | ok v => exact .ok ⟨rfl, rfl, .none⟩

theorem named_finds (whole : Value) (name : String) (p : Position) :
    Finds c (named whole name p) (named (recast c whole) name (recast c p)) := by
  have placed {found found' : Except ErrorCause Part} (same : Finds c found found') :
      Finds c (found.mapError fun cause => Error.plain cause (some p))
        (found'.mapError fun cause => Error.plain cause (some (recast c p))) := by
    cases same with
    | ok same => exact .ok same
    | error cause => exact .error (Error.plain cause (some p))
  have asked := placed (computed_finds c name whole)
  cases whole with
  | object entries =>
    rw [recast_object]
    exact placed (entry_finds c entries name)
  | _ => exact asked

end Part

end ScriptGate.Script
