import ScriptGate.Proofs.Script.Follow

/-!
# Values within caps

A value is within caps if each text in it is short enough and each array and object small enough
(`Value.Fits`). A check of the size of a whole finds too much for sure if any part is too large, since it counts
through all parts (`Value.Built.fits`). But not all that a value holds has a size: the names of entries and of
functions do not count, nor does what is bound to a function, and an entry is replaced in its place only where
entries are in order. So what a function of the library makes is first known to be built of what it was given
(`Value.Built`), and then measured.

A script keeps what it writes out within caps, and stays clear of the few ways around the
checks (`Statement.measured`).
-/

namespace ScriptGate.Script

/-! ## Caps -/

/-- Caps on the bytes of texts and on the elements of arrays and objects; zero is no cap. -/
structure Caps where
  texts : Nat
  items : Nat

namespace Caps

variable (k : Caps)

/-- Whether a text is within its cap. -/
def holdsText (s : String) : Bool := k.texts = 0 ∨ s.utf8ByteSize ≤ k.texts

/-- Whether so many elements are within their cap. -/
def holdsCount (n : Nat) : Bool := k.items = 0 ∨ n ≤ k.items

/-- Whether settings see to caps, which have room for a character and the name of anonymous functions, and
for the description of a fault if texts have no cap. -/
structure KeptBy (c : Settings) : Prop where
  texts : CapWithin c.maxStringLen k.texts
  items : CapWithin c.maxCollectionLen k.items
  textRoom : k.texts = 0 ∨ 5 ≤ k.texts
  itemRoom : k.texts = 0 → k.items = 0 ∨ 6 ≤ k.items

variable {k}

theorem holdsText_iff {s : String} : k.holdsText s = true ↔ k.texts = 0 ∨ s.utf8ByteSize ≤ k.texts :=
  decide_eq_true_iff

theorem holdsCount_iff {n : Nat} : k.holdsCount n = true ↔ k.items = 0 ∨ n ≤ k.items := decide_eq_true_iff

theorem holdsText_of_le {s t : String} (held : k.holdsText t = true) (le : s.utf8ByteSize ≤ t.utf8ByteSize) :
    k.holdsText s = true :=
  holdsText_iff.mpr ((holdsText_iff.mp held).imp_right (Nat.le_trans le))

theorem holdsCount_of_le {n m : Nat} (held : k.holdsCount m = true) (le : n ≤ m) : k.holdsCount n = true :=
  holdsCount_iff.mpr ((holdsCount_iff.mp held).imp_right (Nat.le_trans le))

theorem KeptBy.holdsText {c : Settings} (kept : k.KeptBy c) {s : String} (short : s.utf8ByteSize ≤ 5) :
    k.holdsText s = true :=
  holdsText_iff.mpr (kept.textRoom.imp_right (Nat.le_trans short))

end Caps

/-! ## Scripts within caps -/

/-- How a chain goes on. -/
inductive LinkKind where
  | property
  | index
  | method
deriving DecidableEq

/-- The kind of a link. -/
def Link.kind : Link → LinkKind
  | .property .. => .property
  | .index .. => .index
  | .method .. => .method

/-- Whether a target is a part of something else. -/
def Expr.isChain : Expr → Bool
  | .chain .. => true
  | _ => false

/-- The kinds of the links of a target. -/
def Expr.kinds : Expr → List LinkKind
  | .chain _ links => links.map Link.kind
  | _ => []

/-- Whether a chain changes no part of a text, which would be put back into the text unmeasured. A key may stand
for such a part, which has no entries. `changes` tells that what the chain leads to is changed in the end. -/
def LinkKind.spare (changes : Bool) : List LinkKind → Bool
  | [] => true
  | .index :: rest =>
    (rest.head?.all (· = .property) || (!changes && !rest.contains .method)) && spare changes rest
  | _ :: rest => spare changes rest

mutual

/-- Whether what a literal stands for is within caps. -/
def Literal.measured (k : Caps) : Literal → Bool
  | .text s | .function s => k.holdsText s
  | .array items => k.holdsCount items.length && measuredLiterals k items
  | .object entries => k.holdsCount entries.length && measuredLiteralEntries k entries
  | .closure _ body => measuredBody k body
  | .unit | .boolean _ | .integer _ | .double _ | .character _ | .range .. | .byte _ | .blob _
  | .timestamp => true

/-- Whether all literals are within caps. -/
def measuredLiterals (k : Caps) : List Literal → Bool
  | [] => true
  | v :: rest => v.measured k && measuredLiterals k rest

/-- Whether the literals of all entries are within caps, with the names, which functions may get as texts. -/
def measuredLiteralEntries (k : Caps) : List (String × Literal) → Bool
  | [] => true
  | (name, v) :: rest => k.holdsText name && v.measured k && measuredLiteralEntries k rest

/-- Whether the literals that are bound to names are within caps. -/
def measuredBound (k : Caps) : List (String × Option Literal) → Bool
  | [] => true
  | (_, some v) :: rest => v.measured k && measuredBound k rest
  | (_, none) :: rest => measuredBound k rest

/-- Whether an expression keeps within caps. -/
def Expr.measured (k : Caps) : Expr → Bool
  | .literal v _ => v.measured k
  | .variable .. | .global .. | .this _ => true
  | .array items _ => measuredAll k items
  | .object entries _ => measuredEntries k entries
  | .unary _ operand _ => operand.measured k
  | .binary _ left right _ | .lazy _ left right _ | .member right left _ _ =>
    left.measured k && right.measured k
  | .call _ args _ => measuredAll k args
  | .chain root links =>
    root.measured k && measuredLinks k links && (k.texts = 0 || LinkKind.spare false (links.map Link.kind))
  | .closure captured _ body _ => measuredBound k captured && measuredBody k body
  | .block body _ => measuredBody k body

/-- Whether all expressions keep within caps. -/
def measuredAll (k : Caps) : List Expr → Bool
  | [] => true
  | e :: rest => e.measured k && measuredAll k rest

/-- Whether all entries keep within caps, with their names. -/
def measuredEntries (k : Caps) : List (String × Expr) → Bool
  | [] => true
  | (name, e) :: rest => k.holdsText name && e.measured k && measuredEntries k rest

/-- Whether an expression that may be left out keeps within caps. -/
def measuredGiven (k : Caps) : Option Expr → Bool
  | none => true
  | some e => e.measured k

/-- Whether a link keeps within caps. A property that is assigned to may become an entry, and the characters of a
text come unmeasured if they are read as a property. -/
def Link.measured (k : Caps) : Link → Bool
  | .property name _ _ => k.holdsText name && (k.items = 0 || name != "chars")
  | .index key _ => key.measured k
  | .method _ args _ _ => measuredAll k args

/-- Whether all links keep within caps. -/
def measuredLinks (k : Caps) : List Link → Bool
  | [] => true
  | link :: rest => link.measured k && measuredLinks k rest

/-- Whether a statement keeps within caps. An entry that is joined to something gets its place before it is
known whether it can be joined, and the description of a fault tells whatever there is to tell. -/
def Statement.measured (k : Caps) : Statement → Bool
  | .pass _ | .next _ => true
  | .expression e => e.measured k
  | .define _ _ value _ | .leave value _ | .giveBack value _ | .raise value _ => measuredGiven k value
  | .assign op target value _ =>
    target.measured k && value.measured k && (k.items = 0 || op.isNone || !target.isChain) &&
      (k.texts = 0 || LinkKind.spare true target.kinds)
  | .block body _ | .forever body _ _ => measuredBody k body
  | .branch e yes _ no _ _ => e.measured k && measuredBody k yes && measuredBody k no
  | .switch subject cases otherwise _ =>
    subject.measured k && measuredCases k cases && measuredGiven k otherwise
  | .repeatWhile e body _ _ | .repeatAfter body e _ _ => e.measured k && measuredBody k body
  | .forEach _ _ source body _ _ => source.measured k && measuredBody k body
  | .attempt body name handler _ _ =>
    measuredBody k body && measuredBody k handler && (k.texts = 0 || name.isNone)

/-- Whether statements in turn keep within caps. -/
def measuredBody (k : Caps) : List Statement → Bool
  | [] => true
  | s :: rest => s.measured k && measuredBody k rest

/-- Whether a case keeps within caps. What it matches is only compared. -/
def Case.measured (k : Caps) : Case → Bool
  | .mk _ guard action => measuredGiven k guard && action.measured k

/-- Whether all cases keep within caps. -/
def measuredCases (k : Caps) : List Case → Bool
  | [] => true
  | c :: rest => c.measured k && measuredCases k rest

end

/-- Whether a function keeps within caps, with its name. -/
def Function.measured (k : Caps) (f : Function) : Bool := k.holdsText f.name && measuredBody k f.body

/-! ## Values within caps -/

/-- Whether a value has no parts and is no text. -/
def Value.isFlat : Value → Bool
  | .text _ | .array _ | .object _ | .function .. => false
  | _ => true

/-- A value that is well built: the entries of objects are in order and have names within caps, and functions keep
within caps, with all that is bound to them. If it is `sized`, then all of it is within caps. -/
inductive Value.Built (k : Caps) : (sized : Bool) → Value → Prop where
  | flat {sized : Bool} {v : Value} (flat : v.isFlat = true) : Built k sized v
  | text {sized : Bool} {s : String} (held : sized = true → k.holdsText s = true) : Built k sized (.text s)
  | array {sized : Bool} {items : List Value} (held : sized = true → k.holdsCount items.length = true)
      (all : ∀ v ∈ items, Built k sized v) : Built k sized (.array items)
  | object {sized : Bool} {entries : Entries} (held : sized = true → k.holdsCount entries.length = true)
      (ordered : entries.Pairwise fun a b => a.1 < b.1) (names : ∀ e ∈ entries, k.holdsText e.1 = true)
      (all : ∀ e ∈ entries, Built k sized e.2) : Built k sized (.object entries)
  | function {sized : Bool} {name : String} {body : Option Function} {cells : List Nat} {bound : List Value}
      (held : k.holdsText name = true) (measured : ∀ f ∈ body, measuredBody k f.body = true)
      (all : ∀ v ∈ bound, Built k true v) : Built k sized (.function name body cells bound)

/-- A value with all of it within caps. -/
abbrev Value.Fits (k : Caps) (v : Value) : Prop := v.Built k true

/-- A calculation made a value that is well built, or tells a cause for which nothing was thrown. -/
def ResultBuilt (k : Caps) (sized : Bool) : Except ErrorCause Value → Prop
  | .ok v => v.Built k sized
  | .error cause => ∀ v, cause ≠ .thrown v

/-- A fault that tells of no value beyond caps. -/
def Error.Fits (k : Caps) (e : Error) : Prop := ∀ v, e.cause = .thrown v → v.Fits k

variable {k : Caps}

namespace Value.Built

variable {sized : Bool} {v : Value}

/-- What is within caps is well built. -/
theorem unsized (fits : v.Built k true) : v.Built k sized := by
  generalize whole : true = all at fits
  induction fits with
  | flat flat => exact .flat flat
  | text held => exact .text fun _ => held whole.symm
  | array held _ ih => exact .array (fun _ => held whole.symm) fun v inside => ih v inside whole
  | object held ordered names _ ih =>
    exact .object (fun _ => held whole.symm) ordered names fun e inside => ih e inside whole
  | function held measured all => exact .function held measured all

theorem items {items : List Value} (built : (Value.array items).Built k sized) :
    ∀ v ∈ items, v.Built k sized := by
  cases built with
  | array held all => exact all
  | flat flat => cases flat

theorem count_items {items : List Value} (fits : (Value.array items).Fits k) :
    k.holdsCount items.length = true := by
  cases fits with
  | array held all => exact held rfl
  | flat flat => cases flat

theorem entries {entries : Entries} (built : (Value.object entries).Built k sized) :
    ∀ e ∈ entries, e.2.Built k sized := by
  cases built with
  | object held ordered names all => exact all
  | flat flat => cases flat

theorem ordered {entries : Entries} (built : (Value.object entries).Built k sized) :
    entries.Pairwise fun a b => a.1 < b.1 := by
  cases built with
  | object held ordered names all => exact ordered
  | flat flat => cases flat

theorem names {entries : Entries} (built : (Value.object entries).Built k sized) :
    ∀ e ∈ entries, k.holdsText e.1 = true := by
  cases built with
  | object held ordered names all => exact names
  | flat flat => cases flat

theorem count_entries {entries : Entries} (fits : (Value.object entries).Fits k) :
    k.holdsCount entries.length = true := by
  cases fits with
  | object held ordered names all => exact held rfl
  | flat flat => cases flat

theorem holdsText {s : String} (fits : (Value.text s).Fits k) : k.holdsText s = true := by
  cases fits with
  | text held => exact held rfl
  | flat flat => cases flat

section Function

variable {f : String} {code : Option Function} {cells : List Nat} {args : List Value}
  (built : (Value.function f code cells args).Built k sized)

include built

theorem name : k.holdsText f = true := by
  cases built with
  | function held measured all => exact held
  | flat flat => cases flat

theorem body : ∀ f ∈ code, measuredBody k f.body = true := by
  cases built with
  | function held measured all => exact measured
  | flat flat => cases flat

theorem bound : ∀ v ∈ args, v.Fits k := by
  cases built with
  | function held measured all => exact all
  | flat flat => cases flat

end Function

end Value.Built

/-! ## Entries -/

namespace Entries

variable {entries : Entries} {name : String} {value : Value}

theorem mem_insert {e : String × Value} (inside : e ∈ insert name value entries) :
    e = (name, value) ∨ e ∈ entries := by
  induction entries with
  | nil => exact .inl (List.mem_singleton.mp inside)
  | cons first rest ih =>
    unfold insert at inside
    split at inside
    · exact (List.mem_cons.mp inside).imp_right id
    · split at inside
      · exact (List.mem_cons.mp inside).imp_right (List.mem_cons_of_mem _)
      · rcases List.mem_cons.mp inside with rfl | inside
        · exact .inr List.mem_cons_self
        · exact (ih inside).imp_right (List.mem_cons_of_mem _)

/-- An entry that is added in its place keeps the order. -/
theorem ordered_insert (ordered : entries.Pairwise fun a b => a.1 < b.1) :
    (insert name value entries).Pairwise fun a b => a.1 < b.1 := by
  induction entries with
  | nil => exact List.pairwise_singleton _ _
  | cons first rest ih =>
    obtain ⟨below, others⟩ := List.pairwise_cons.mp ordered
    unfold insert
    split
    · next before =>
      refine List.pairwise_cons.mpr ⟨fun e inside => ?_, ordered⟩
      rcases List.mem_cons.mp inside with rfl | inside
      · exact before
      · exact String.lt_trans before (below e inside)
    · next notBefore =>
      split
      · next same => exact List.pairwise_cons.mpr ⟨same ▸ below, others⟩
      · next other =>
        refine List.pairwise_cons.mpr ⟨fun e inside => ?_, ih others⟩
        rcases mem_insert inside with rfl | inside
        · exact Std.lt_of_le_of_ne (String.not_lt.mp notBefore) (Ne.symm other)
        · exact below e inside

/-- An entry that is there is replaced. -/
theorem length_insert_of_get? (ordered : entries.Pairwise fun a b => a.1 < b.1) {old : Value}
    (found : entries.get? name = some old) : (insert name value entries).length = entries.length := by
  induction entries with
  | nil => cases found
  | cons first rest ih =>
    obtain ⟨below, others⟩ := List.pairwise_cons.mp ordered
    obtain ⟨other, v⟩ := first
    unfold insert
    unfold get? at found
    by_cases same : name = other
    · subst same
      rw [if_neg (String.lt_irrefl _), if_pos rfl]
      rfl
    · rw [if_neg same]
      have later : List.lookup name rest = some old := by
        rwa [List.lookup_cons, beq_false_of_ne same] at found
      obtain ⟨front, back, rfl, -⟩ := List.lookup_eq_some_iff.mp later
      have after : other < name := below (name, old) (by simp)
      rw [if_neg (String.lt_asymm after)]
      exact congrArg (· + 1) (ih others later)

theorem length_insert_le : (insert name value entries).length ≤ entries.length + 1 := by
  induction entries with
  | nil => exact Nat.le_refl _
  | cons first rest ih =>
    unfold insert
    split
    · exact Nat.le_refl _
    · split
      · exact Nat.le_succ _
      · exact Nat.succ_le_succ ih

theorem mem_of_get? (found : entries.get? name = some value) : (name, value) ∈ entries := by
  obtain ⟨front, back, rfl, -⟩ := List.lookup_eq_some_iff.mp found
  simp

end Entries

namespace Value.Built

variable {sized : Bool} {name : String} {v : Value} {entries more : Entries}

/-- An object gets another entry, or one in the place of another. -/
theorem insert (built : (Value.object entries).Built k sized) (named : k.holdsText name = true)
    (value : v.Built k sized) (held : sized = true → k.holdsCount (entries.insert name v).length = true) :
    (Value.object (entries.insert name v)).Built k sized := by
  refine .object held (Entries.ordered_insert built.ordered) (fun e inside => ?_) fun e inside => ?_
  · rcases Entries.mem_insert inside with rfl | inside
    · exact named
    · exact built.names e inside
  · rcases Entries.mem_insert inside with rfl | inside
    · exact value
    · exact built.entries e inside

/-- An object gets more entries, one after the other. -/
theorem insertAll (built : (Value.object entries).Built k sized)
    (names : ∀ e ∈ more, k.holdsText e.1 = true) (values : ∀ e ∈ more, e.2.Built k sized)
    (held : sized = true → k.holdsCount (entries.length + more.length) = true) :
    (Value.object (more.foldl (fun entries (name, value) => Entries.insert name value entries)
      entries)).Built k sized := by
  induction more generalizing entries with
  | nil => exact built
  | cons e rest ih =>
    obtain ⟨name, names⟩ := List.forall_mem_cons.mp names
    obtain ⟨value, values⟩ := List.forall_mem_cons.mp values
    have grown : (entries.insert e.1 e.2).length + rest.length ≤ entries.length + (rest.length + 1) := by
      have : (entries.insert e.1 e.2).length ≤ entries.length + 1 := Entries.length_insert_le
      omega
    exact ih (built.insert name value fun all =>
      Caps.holdsCount_of_le (held all) (Nat.le_trans (Nat.le_add_right _ _) grown)) names values
      fun all => Caps.holdsCount_of_le (held all) grown

theorem get? (built : (Value.object entries).Built k sized) (found : entries.get? name = some v) :
    v.Built k sized :=
  built.entries _ (Entries.mem_of_get? found)

/-- A function with no body of its own, that nothing is bound to. -/
theorem named (held : k.holdsText name = true) : (Value.function name none [] []).Built k sized :=
  .function held (fun _ found => absurd found (Option.not_mem_none _)) (List.forall_mem_nil _)

/-- Some of the entries of an object. -/
theorem sublist (built : (Value.object entries).Built k false) (some : more.Sublist entries) :
    (Value.object more).Built k false :=
  .object nofun (built.ordered.sublist some) (fun e inside => built.names e (some.subset inside))
    fun e inside => built.entries e (some.subset inside)

/-- Some of the entries of an object, under the same names. -/
theorem left (built : (Value.object entries).Built k false) {left after : Entries} (some : left.Sublist entries)
    (all : List.Forall₂ (fun e e' => e.1 = e'.1 ∧ e'.2.Fits k) left after) :
    (Value.object after).Built k false := by
  have part := built.sublist some
  obtain ⟨same, values⟩ : left.map Prod.fst = after.map Prod.fst ∧ ∀ e ∈ after, e.2.Fits k := by
    clear part some
    induction all with
    | nil => exact ⟨rfl, List.forall_mem_nil _⟩
    | cons first _ ih => exact ⟨congrArg₂ List.cons first.1 ih.1, List.forall_mem_cons.mpr ⟨first.2, ih.2⟩⟩
  have names (e : String × Value) (inside : e ∈ after) : k.holdsText e.1 = true := by
    have there : e.1 ∈ left.map Prod.fst := same ▸ List.mem_map_of_mem inside
    obtain ⟨e', inside, same⟩ := List.mem_map.mp there
    exact same ▸ part.names e' inside
  have ordered : after.Pairwise fun a b => a.1 < b.1 := by
    have ordered := part.ordered
    rwa [← List.pairwise_map, same, List.pairwise_map] at ordered
  exact .object nofun ordered names fun e inside => (values e inside).unsized

end Value.Built

/-! ## Literals -/

namespace Value

theorem length_ofLiterals (items : List Literal) : (ofLiterals items).length = items.length := by
  induction items with
  | nil => rfl
  | cons v rest ih => exact congrArg (· + 1) ih

theorem length_ofLiteralEntries_le (entries : List (String × Literal)) :
    (ofLiteralEntries entries).length ≤ entries.length := by
  induction entries with
  | nil => exact Nat.le_refl _
  | cons e rest ih => exact Nat.le_trans Entries.length_insert_le (Nat.succ_le_succ ih)

mutual

/-- What a literal within caps stands for is within caps. -/
theorem fits_ofLiteral (room : k.holdsText anonymous = true) (v : Literal) (measured : v.measured k = true) :
    (ofLiteral v).Fits k := by
  match v with
  | .text s => exact .text fun _ => measured
  | .array items =>
    obtain ⟨count, all⟩ := Bool.and_eq_true_iff.mp measured
    refine .array (fun _ => ?_) (fits_ofLiterals room items all)
    rw [length_ofLiterals]
    exact count
  | .object entries =>
    obtain ⟨count, all⟩ := Bool.and_eq_true_iff.mp measured
    obtain ⟨ordered, built⟩ := built_ofLiteralEntries room entries all
    exact .object (fun _ => Caps.holdsCount_of_le count (length_ofLiteralEntries_le entries)) ordered
      (fun e inside => (built e inside).1) fun e inside => (built e inside).2
  | .function name => exact .named measured
  | .closure params body => exact .function room (fun f same => by cases same; exact measured) (List.forall_mem_nil _)
  | .unit | .boolean _ | .integer _ | .double _ | .character _ | .range .. | .byte _ | .blob _
  | .timestamp => exact .flat rfl

theorem fits_ofLiterals (room : k.holdsText anonymous = true) (items : List Literal)
    (measured : measuredLiterals k items = true) : ∀ v ∈ ofLiterals items, v.Fits k := by
  match items with
  | [] => exact List.forall_mem_nil _
  | v :: rest =>
    obtain ⟨first, others⟩ := Bool.and_eq_true_iff.mp measured
    intro w inside
    rcases List.mem_cons.mp inside with rfl | inside
    · exact fits_ofLiteral room v first
    · exact fits_ofLiterals room rest others w inside

theorem built_ofLiteralEntries (room : k.holdsText anonymous = true) (entries : List (String × Literal))
    (measured : measuredLiteralEntries k entries = true) :
    ((ofLiteralEntries entries).Pairwise fun a b => a.1 < b.1) ∧
      ∀ e ∈ ofLiteralEntries entries, k.holdsText e.1 = true ∧ e.2.Fits k := by
  match entries with
  | [] => exact ⟨.nil, List.forall_mem_nil _⟩
  | (name, v) :: rest =>
    obtain ⟨first, others⟩ := Bool.and_eq_true_iff.mp measured
    obtain ⟨named, value⟩ := Bool.and_eq_true_iff.mp first
    obtain ⟨ordered, all⟩ := built_ofLiteralEntries room rest others
    refine ⟨Entries.ordered_insert ordered, fun e inside => ?_⟩
    rcases Entries.mem_insert inside with rfl | inside
    · exact ⟨named, fits_ofLiteral room v value⟩
    · exact all e inside

end

end Value

/-! ## Sizes -/

/-- Whether settings allow a size. -/
structure Value.Size.Allowed (c : Settings) (size : Value.Size) : Prop where
  bytes : c.maxStringLen = 0 ∨ size.bytes ≤ c.maxStringLen
  items : c.maxCollectionLen = 0 ∨ size.items ≤ c.maxCollectionLen
  entries : c.maxCollectionLen = 0 ∨ size.entries ≤ c.maxCollectionLen

namespace Value.Size

variable {c : Settings} {a b : Value.Size}

theorem Allowed.mono (allowed : b.Allowed c) (bytes : a.bytes ≤ b.bytes) (items : a.items ≤ b.items)
    (entries : a.entries ≤ b.entries) : a.Allowed c :=
  ⟨allowed.bytes.imp_right (Nat.le_trans bytes), allowed.items.imp_right (Nat.le_trans items),
    allowed.entries.imp_right (Nat.le_trans entries)⟩

theorem Allowed.left (allowed : (a.add b).Allowed c) : a.Allowed c :=
  allowed.mono (Nat.le_add_right _ _) (Nat.le_add_right _ _) (Nat.le_add_right _ _)

theorem Allowed.right (allowed : (a.add b).Allowed c) : b.Allowed c :=
  allowed.mono (Nat.le_add_left _ _) (Nat.le_add_left _ _) (Nat.le_add_left _ _)

end Value.Size

theorem Run.allowed_of_excess? {c : Settings} {size : Value.Size} (none : Run.excess? c size = none) :
    size.Allowed c := by
  unfold Run.excess? at none
  split at none; · cases none
  split at none; · cases none
  split at none; · cases none
  constructor <;> omega

namespace Value

variable {c : Settings}

theorem allowed_of_mem_items {items : List Value} (allowed : (itemsSize items).Allowed c) :
    (c.maxCollectionLen = 0 ∨ items.length ≤ c.maxCollectionLen) ∧ ∀ v ∈ items, v.size.Allowed c := by
  have count : items.length ≤ (itemsSize items).items := by
    clear allowed
    induction items with
    | nil => exact Nat.le_refl _
    | cons v rest ih =>
      change rest.length + 1 ≤ 1 + (v.size.items + (itemsSize rest).items)
      omega
  refine ⟨allowed.items.imp_right (Nat.le_trans count), ?_⟩
  clear count
  induction items with
  | nil => exact nofun
  | cons v rest ih =>
    intro w inside
    rcases List.mem_cons.mp inside with rfl | inside
    · exact allowed.right.left
    · exact ih allowed.right.right w inside

theorem allowed_of_mem_entries {entries : Entries} (allowed : (entriesSize entries).Allowed c) :
    (c.maxCollectionLen = 0 ∨ entries.length ≤ c.maxCollectionLen) ∧ ∀ e ∈ entries, e.2.size.Allowed c := by
  have count : entries.length ≤ (entriesSize entries).entries := by
    clear allowed
    induction entries with
    | nil => exact Nat.le_refl _
    | cons e rest ih =>
      change rest.length + 1 ≤ 1 + (e.2.size.entries + (entriesSize rest).entries)
      omega
  refine ⟨allowed.entries.imp_right (Nat.le_trans count), ?_⟩
  clear count
  induction entries with
  | nil => exact nofun
  | cons e rest ih =>
    intro w inside
    rcases List.mem_cons.mp inside with rfl | inside
    · exact allowed.right.left
    · exact ih allowed.right.right w inside

theorem Built.holdsCount (kept : k.KeptBy c) {n : Nat}
    (allowed : c.maxCollectionLen = 0 ∨ n ≤ c.maxCollectionLen) : k.holdsCount n = true := by
  have items := kept.items
  unfold CapWithin at items
  exact Caps.holdsCount_iff.mpr (by omega)

/-- What is well built and of a size that is allowed is within caps, in all its parts. -/
theorem Built.fits (kept : k.KeptBy c) {sized : Bool} {v : Value} (built : v.Built k sized)
    (allowed : v.size.Allowed c) : v.Fits k := by
  induction built with
  | flat flat => exact .flat flat
  | @text _ s held =>
    have bytes := allowed.bytes
    have texts := kept.texts
    unfold CapWithin at texts
    change c.maxStringLen = 0 ∨ s.utf8ByteSize ≤ c.maxStringLen at bytes
    exact .text fun _ => Caps.holdsText_iff.mpr (by omega)
  | @array _ items held all ih =>
    obtain ⟨count, each⟩ := allowed_of_mem_items allowed
    exact .array (fun _ => holdsCount kept count) fun v inside => ih v inside (each v inside)
  | @object _ entries held ordered names all ih =>
    obtain ⟨count, each⟩ := allowed_of_mem_entries allowed
    exact .object (fun _ => holdsCount kept count) ordered names fun e inside => ih e inside (each e inside)
  | function held measured all => exact .function held measured all

end Value

end ScriptGate.Script
