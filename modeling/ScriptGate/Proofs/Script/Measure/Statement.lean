import ScriptGate.Proofs.Script.Measure.Chain
import ScriptGate.Proofs.Script.Follow.Statement

/-!
# Evaluation that keeps within caps

Arrays and objects that a script writes out are measured as they grow, sums once they are made. So evaluation to any
depth keeps within caps (`Eval.keeps_toDepth`): each level does by the rules for expressions and statements.
-/

namespace ScriptGate.Script

variable {k : Caps} {ev : Eval} {env : Env} {G : Prop}

/-! ## Descriptions of faults -/

section Descriptions

variable (uncapped : k.texts = 0)

include uncapped

theorem Value.fits_text (s : String) : (Value.text s).Fits k :=
  .text fun _ => Caps.holdsText_iff.mpr (.inl uncapped)

theorem ErrorCause.fits_particulars {cause : ErrorCause} (plain : ∀ v, cause ≠ .thrown v) :
    cause.particulars.length ≤ 2 ∧ ∀ e ∈ cause.particulars, e.2.Fits k := by
  have text := Value.fits_text uncapped
  have flat (n : Int64) : (Value.integer n).Fits k := .flat rfl
  cases cause with
  | thrown v => exact (plain v rfl).elim
  | _ => simp [particulars, text, flat]

/-- What a script gets that catches a fault: what was thrown, or a description that tells anything. -/
theorem Error.fits_caught (room : k.items = 0 ∨ 6 ≤ k.items) {e : Error} (fits : e.Fits k) : e.caught.Fits k := by
  have text := Value.fits_text uncapped
  have flat (n : Int64) : (Value.integer n).Fits k := .flat rfl
  -- At most six entries: a message, two for the place, and three of its own.
  have described {place own : List (String × Value)} {message : String}
      (placed : place.length ≤ 2 ∧ ∀ e ∈ place, e.2.Fits k) (owned : own.length ≤ 3 ∧ ∀ e ∈ own, e.2.Fits k) :
      (Value.object ((("message", .text message) :: place ++ own).foldl
        (fun entries e => Entries.insert e.1 e.2 entries) [])).Fits k := by
    refine Value.Built.insertAll (.object (fun _ => ?_) .nil (List.forall_mem_nil _) (List.forall_mem_nil _))
      (fun _ _ => Caps.holdsText_iff.mpr (.inl uncapped)) (fun e inside => ?_) fun _ => ?_
    · exact Caps.holdsCount_iff.mpr (.inr (Nat.zero_le _))
    · rcases List.mem_cons.mp inside with rfl | inside
      · exact text _
      · exact (List.mem_append.mp inside).elim (placed.2 e) (owned.2 e)
    · refine Caps.holdsCount_iff.mpr (room.imp_right fun room => ?_)
      simp only [List.cons_append, List.length_cons, List.length_append, List.length_nil]
      omega
  unfold caught
  split
  · next v thrown => exact fits v thrown
  · next plain =>
    refine described ?_ ?_
    · cases e.pos with
      | none => exact ⟨Nat.zero_le _, List.forall_mem_nil _⟩
      | some p => simp [flat]
    · cases e with
      | plain cause p =>
        obtain ⟨few, all⟩ := ErrorCause.fits_particulars uncapped plain
        exact ⟨Nat.succ_le_succ few, List.forall_mem_cons.mpr ⟨text _, all⟩⟩
      | inCall function inner p => simp [text]

end Descriptions

namespace Eval.Keeps

variable (h : Eval.Keeps k ev) (w : G → env.Fits k)

/-! ## Expressions -/

section Plain

include w

protected theorem named (name : String) (p : Position) : Run.Keeps k G (Value.Fits k) (named env name p) := by
  refine .bind (.lookup? name) fun found => ?_
  split
  · next x => exact .get fun s => .pure fun g => g.2.read (g.1.2 x rfl)
  · split
    · next f found => exact .pure fun g => (w g.1).functionNamed? found
    · exact .fail _ nofun

omit w in
protected theorem constant (name : String) (p : Position) : Run.Keeps k G (Value.Fits k) (constant name p) := by
  refine .get fun s => ?_
  split
  · next v found =>
    obtain ⟨front, back, same, -⟩ := List.lookup_eq_some_iff.mp found
    exact .pure fun g => g.2.constants (name, v) (by simp [same])
  · exact .fail _ nofun

omit w in
protected theorem this (p : Position) : Run.Keeps k G (Value.Fits k) (this p) := by
  refine .get fun s => ?_
  split
  · next this held => exact .pure fun g => g.2.this this held
  · exact .fail _ nofun

protected theorem operated (op : String) (args : List Value) (p : Position)
    {found : Option (Except ErrorCause Value)} (built : G → ∀ r, found = some r → ResultBuilt k false r) :
    Run.Keeps k G (Value.Fits k) (operated env op args p found) := by
  cases found with
  | none => exact .bind (.tick _ env) fun _ => .fail _ ErrorCause.unknownCall_ne_thrown
  | some result =>
    exact .bind (.tick _ env) fun _ => .bind (.ofResult _ fun g => built g.1 result rfl) fun v =>
      .checked _ (fun g => (w g.1.1).kept) And.right

protected theorem opposite (v : Value) (p : Position) : Run.Keeps k G (Value.Fits k) (opposite env v p) := by
  unfold opposite
  split
  · exact .pure fun _ => .flat rfl
  · exact Keeps.operated w _ _ p fun _ => nofun

omit w in
protected theorem ticks (p : Position) (n : Nat) : Run.Keeps k G (fun _ => True) (ticks env p n) := by
  induction n generalizing G with
  | zero => exact .pure fun _ => trivial
  | succ n ih => exact .bind (.tick _ env) fun _ => ih

omit w in
protected theorem capture (p : Position) (names : List String) : Run.Keeps k G (fun _ => True) (capture p names) := by
  induction names generalizing G with
  | nil => exact .pure fun _ => trivial
  | cons name rest ih =>
    refine .bind (.share? name) fun found => ?_
    split
    · exact .bind ih fun _ => .pure fun _ => trivial
    · exact .fail _ nofun

omit w in
theorem fits_bound (room : k.holdsText Value.anonymous = true) {captured : List (String × Option Literal)}
    (measured : measuredBound k captured = true) {e : String × Literal}
    (inside : e ∈ captured.filterMap fun (name, value) => value.map fun v => (name, v)) :
    (Value.ofLiteral e.2).Fits k := by
  induction captured with
  | nil => cases inside
  | cons first rest ih =>
    obtain ⟨name, value⟩ := first
    cases value with
    | none => exact ih measured inside
    | some v =>
      obtain ⟨here, later⟩ := Bool.and_eq_true_iff.mp measured
      rcases List.mem_cons.mp inside with rfl | inside
      · exact Value.fits_ofLiteral room v here
      · exact ih later inside

protected theorem closure {captured : List (String × Option Literal)} {params : List String}
    {body : List Statement} (p : Position) (bound : G → measuredBound k captured = true)
    (measured : G → measuredBody k body = true) :
    Run.Keeps k G (Value.Fits k) (closure env captured params body p) := by
  refine .bind (Keeps.ticks p _) fun _ => .bind (Keeps.capture p _) fun cells => .bind (Keeps.ticks p _) fun _ =>
    .pure fun ⟨⟨⟨g, _⟩, _⟩, _⟩ => ?_
  refine .function (w g).room (fun f same => Option.some.inj same ▸ measured g) fun v inside => ?_
  obtain ⟨e, there, rfl⟩ := List.mem_map.mp inside
  exact fits_bound (w g).room (bound g) there

end Plain

/-! ## Arrays and objects -/

section Sizes

include h w

/-- An array as large as is allowed, together with what was before. -/
protected theorem items (size : Value.Size) (es : List Expr) (measured : G → measuredAll k es = true)
    (within : G → env.settings.maxCollectionLen = 0 ∨ size.items ≤ env.settings.maxCollectionLen) :
    Run.Keeps k G (fun vs => (Value.array vs).Fits k ∧ (env.settings.maxCollectionLen = 0 ∨
      size.items + vs.length ≤ env.settings.maxCollectionLen)) (items ev env size es) := by
  induction es generalizing G size with
  | nil =>
    refine .pure fun g => ⟨.array (fun _ => ?_) nofun, within g⟩
    exact Caps.holdsCount_iff.mpr (.inr (Nat.zero_le _))
  | cons e rest ih =>
    have here (g : G) := Bool.and_eq_true_iff.mp (measured g)
    refine .bind (h (.expression e) w fun g => (here g).1) fun v => .bind (.checkSize _ env _) fun _ =>
      .bind (ih (fun g => w g.1.1) _ (fun g => (here g.1.1).2) fun g => g.2.items) fun vs => .pure fun g => ?_
    have count : env.settings.maxCollectionLen = 0 ∨
        size.items + (v :: vs).length ≤ env.settings.maxCollectionLen := by
      refine g.2.2.imp_right fun le => ?_
      change size.items + (v.size.items + 1) + vs.length ≤ _ at le
      rw [List.length_cons]
      omega
    refine ⟨.array (fun _ => ?_) (List.forall_mem_cons.mpr ⟨g.1.1.2, g.2.1.items⟩), count⟩
    exact Value.Built.holdsCount (w g.1.1.1).kept (count.imp_right (Nat.le_trans (Nat.le_add_left _ _)))

/-- An object as large as is allowed, together with what was before. -/
protected theorem entries (size : Value.Size) (es : List (String × Expr)) (measured : G → measuredEntries k es = true)
    (within : G → env.settings.maxCollectionLen = 0 ∨ size.entries ≤ env.settings.maxCollectionLen) :
    Run.Keeps k G (fun vs => (Value.object vs).Fits k ∧ (env.settings.maxCollectionLen = 0 ∨
      size.entries + vs.length ≤ env.settings.maxCollectionLen)) (entries ev env size es) := by
  induction es generalizing G size with
  | nil =>
    refine .pure fun g => ⟨.object (fun _ => ?_) .nil nofun nofun, within g⟩
    exact Caps.holdsCount_iff.mpr (.inr (Nat.zero_le _))
  | cons e rest ih =>
    obtain ⟨name, e⟩ := e
    have here (g : G) : k.holdsText name = true ∧ e.measured k = true ∧ measuredEntries k rest = true := by
      obtain ⟨first, others⟩ := Bool.and_eq_true_iff.mp (measured g)
      obtain ⟨named, value⟩ := Bool.and_eq_true_iff.mp first
      exact ⟨named, value, others⟩
    refine .bind (h (.expression e) w fun g => (here g).2.1) fun v => .bind (.checkSize _ env _) fun _ =>
      .bind (ih (fun g => w g.1.1) _ (fun g => (here g.1.1).2.2) fun g => g.2.entries) fun vs => .pure fun g => ?_
    have count : env.settings.maxCollectionLen = 0 ∨
        size.entries + (Entries.insert name v vs).length ≤ env.settings.maxCollectionLen := by
      refine g.2.2.imp_right fun le => ?_
      change size.entries + (v.size.entries + 1) + vs.length ≤ _ at le
      have : (Entries.insert name v vs).length ≤ vs.length + 1 := Entries.length_insert_le
      omega
    refine ⟨g.2.1.insert (here g.1.1.1).1 g.1.1.2 fun _ => ?_, count⟩
    exact Value.Built.holdsCount (w g.1.1.1).kept (count.imp_right (Nat.le_trans (Nat.le_add_left _ _)))

end Sizes

/-! ## Operators -/

section Operators

include h w

protected theorem binary (op : Binary) {left right : Expr} (p : Position) (measured : G → left.measured k = true)
    (measured' : G → right.measured k = true) : Run.Keeps k G (Value.Fits k) (binary ev env op left right p) := by
  refine .bind (h (.expression left) w measured) fun a =>
    .bind (h (.expression right) (fun g => w g.1) fun g => measured' g.1) fun b => ?_
  split
  · next result found =>
    by_cases plain : isPlainSum a b = true
    · refine .bind (.ofResult _ fun g =>
        Operator.fits_plainSum g.1.2 g.2 (w g.1.1).charRoom plain found) fun v => ?_
      rw [if_pos plain]
      exact .pure And.right
    · refine .bind (.ofResult _ fun _ => Operator.built_builtin? found) fun v => ?_
      rw [if_neg plain]
      exact .checked _ (fun g => (w g.1.1.1).kept) And.right
  · exact Keeps.operated (fun g => w g.1.1) _ _ p fun g r found => Operator.built_library? g.1.2 g.2 found

protected theorem unary (op : Unary) {operand : Expr} (p : Position) (measured : G → operand.measured k = true) :
    Run.Keeps k G (Value.Fits k) (unary ev env op operand p) := by
  refine .bind (h (.expression operand) w measured) fun a => ?_
  split
  · exact Keeps.opposite (fun g => w g.1) a p
  · split
    · next result found => exact .ofResult _ fun _ => Operator.built_unary? found
    · exact Keeps.operated (fun g => w g.1) _ _ p fun _ => nofun

protected theorem lazy (op : Lazy) {left right : Expr} (measured : G → left.measured k = true)
    (measured' : G → right.measured k = true) : Run.Keeps k G (Value.Fits k) (lazy ev env op left right) := by
  have second : Run.Keeps k (G ∧ True) (fun _ => True) (condition ev env right) :=
    Keeps.condition h (fun g => w g.1) right fun g => measured' g.1
  unfold Eval.lazy
  split
  · refine .bind (Keeps.condition h w left measured) fun holds => ?_
    split
    · exact .bind second fun _ => .pure fun _ => .flat rfl
    · exact .pure fun _ => .flat rfl
  · refine .bind (Keeps.condition h w left measured) fun holds => ?_
    split
    · exact .pure fun _ => .flat rfl
    · exact .bind second fun _ => .pure fun _ => .flat rfl
  · refine .bind (h (.expression left) w measured) fun v => ?_
    split
    · exact h (.expression right) (fun g => w g.1) fun g => measured' g.1
    · exact .pure And.right

protected theorem member {item container : Expr} (negated : Bool) (p : Position)
    (measured : G → item.measured k = true) (measured' : G → container.measured k = true) :
    Run.Keeps k G (Value.Fits k) (member ev env item container negated p) := by
  have both (g : G) : measuredAll k [container, item] = true := by
    simp only [measuredAll, measured g, measured' g, Bool.and_self]
  unfold member
  split
  · exact .bind (.tick _ env) fun _ => .bind (Keeps.apply h (fun g => w g.1) _ p fun g => both g.1) fun v =>
      Keeps.opposite (fun g => w g.1.1) v p
  · exact Keeps.apply h w _ p both

end Operators

/-! ## All expressions -/

include h w in
protected theorem evaluate (e : Expr) (measured : G → e.measured k = true) :
    Run.Keeps k G (Value.Fits k) (evaluate ev env e) := by
  have both {a b : Bool} (g : (a && b) = true) : a = true ∧ b = true := Bool.and_eq_true_iff.mp g
  have further {v : Run Value} (keeps : Run.Keeps k (G ∧ True) (Value.Fits k) v) :
      Run.Keeps k G (Value.Fits k) (Run.tick env (some e.pos) >>= fun _ => v) := .bind (.tick _ env) fun _ => keeps
  cases e with
  | call name args p => exact Keeps.call h w name p measured
  | chain root links =>
    exact Keeps.chain h w (fun g => (both (both (measured g)).1).1) (fun g => (both (both (measured g)).1).2)
      fun g => by simpa using (both (measured g)).2
  | literal v p => exact further (.pure fun g => Value.fits_ofLiteral (w g.1).room v (measured g.1))
  | «variable» name p => exact further (Keeps.named (fun g => w g.1) name p)
  | global name p => exact further (Keeps.constant name p)
  | this p => exact further (Keeps.this p)
  | array es p =>
    exact further (.bind (Keeps.items h (fun g => w g.1) _ es (fun g => measured g.1) fun _ => .inr (Nat.zero_le _))
      fun vs => .pure fun g => g.2.1)
  | object es p =>
    exact further (.bind (Keeps.entries h (fun g => w g.1) _ es (fun g => measured g.1) fun _ => .inr (Nat.zero_le _))
      fun vs => .pure fun g => g.2.1)
  | unary op operand p => exact further (Keeps.unary h (fun g => w g.1) op p fun g => measured g.1)
  | binary op left right p =>
    exact further (Keeps.binary h (fun g => w g.1) op p (fun g => (both (measured g.1)).1)
      fun g => (both (measured g.1)).2)
  | lazy op left right p =>
    exact further (Keeps.lazy h (fun g => w g.1) op (fun g => (both (measured g.1)).1)
      fun g => (both (measured g.1)).2)
  | member item container negated p =>
    exact further (Keeps.member h (fun g => w g.1) negated p (fun g => (both (measured g.1)).2)
      fun g => (both (measured g.1)).1)
  | closure captured params body p =>
    exact further (Keeps.closure (fun g => w g.1) p (fun g => (both (measured g.1)).1)
      fun g => (both (measured g.1)).2)
  | block body p => exact further (Keeps.block h (fun g => w g.1) body fun g => measured g.1)

/-! ## Definitions and branches -/

section Branches

include h w

protected theorem define (name : String) (constant : Bool) {value : Option Expr}
    (measured : G → measuredGiven k value = true) :
    Run.Keeps k G (Value.Fits k) (define ev env name constant value) := by
  have defined {H : Prop} {v : Value} (fits : H → v.Fits k) : Run.Keeps k H (Value.Fits k) (do
      if constant && env.atTop && !env.functions.isEmpty then
        modify fun s => { s with constants := (name, v) :: s.constants }
      Run.define name v constant
      return .unit) := by
    split
    · refine .bind (.modify (fun g s state => { state with constants := ?_ }) fun _ before => before) fun _ =>
        .bind (.define name constant fun g => fits g.1) fun _ => .pure fun _ => .flat rfl
      exact List.forall_mem_cons.mpr ⟨fits g, state.constants⟩
    · exact .bind (.define name constant fits) fun _ => .pure fun _ => .flat rfl
  cases value with
  | some e => exact .bind (h (.expression e) w measured) fun v => defined And.right
  | none => exact defined fun _ => .flat rfl

protected theorem holds {test : Option Expr} (measured : G → measuredGiven k test = true) :
    Run.Keeps k G (fun _ => True) (holds ev env test) := by
  unfold holds
  split
  · exact .pure fun _ => trivial
  · exact .pure fun _ => trivial
  · exact Keeps.condition h w _ measured

protected theorem select? (ranges : Bool) (v : Value) (cases : List Case)
    (measured : G → measuredCases k cases = true) :
    Run.Keeps k G (fun found => ∀ e ∈ found, e.measured k = true) (select? ev env ranges v cases) := by
  induction cases generalizing G with
  | nil => exact .pure fun _ => nofun
  | cons first rest ih =>
    obtain ⟨keys, guard, action⟩ := first
    have here (g : G) : measuredGiven k guard = true ∧ action.measured k = true := by
      exact Bool.and_eq_true_iff.mp (Bool.and_eq_true_iff.mp (measured g)).1
    have later (g : G) : measuredCases k rest = true := (Bool.and_eq_true_iff.mp (measured g)).2
    unfold select?
    split
    · refine .bind (Keeps.holds h w fun g => (here g).1) fun held => ?_
      split
      · exact .pure fun g _ same => Option.mem_some.mp same ▸ (here g.1).2
      · exact ih (fun g => w g.1) fun g => later g.1
    · exact ih w later

protected theorem given {value : Option Expr} (measured : G → measuredGiven k value = true) :
    Run.Keeps k G (Value.Fits k) (given ev env value) := by
  cases value with
  | some e => exact h (.expression e) w measured
  | none => exact .pure fun _ => .flat rfl

protected theorem switch {subject : Expr} {cases : List Case} {otherwise : Option Expr}
    (measured : G → subject.measured k = true) (all : G → measuredCases k cases = true)
    (other : G → measuredGiven k otherwise = true) :
    Run.Keeps k G (Value.Fits k) (switch ev env subject cases otherwise) := by
  have chosen {H : Prop} (w : H → env.Fits k) {found : Option Expr} (fits : H → ∀ e ∈ found, e.measured k = true)
      (there : found.isSome = true) : Run.Keeps k H (Value.Fits k) (given ev env found) := by
    cases found with
    | some action => exact Keeps.given h w fun g => fits g action rfl
    | none => cases there
  refine .bind (h (.expression subject) w measured) fun v =>
    .bind (Keeps.select? h (fun g => w g.1) false v cases fun g => all g.1) fun found => ?_
  cases found with
  | some action => exact chosen (fun g => w g.1.1) And.right rfl
  | none =>
    refine .bind (Keeps.select? h (fun g => w g.1.1) true v cases fun g => all g.1.1) fun found => ?_
    cases found with
    | some action => exact chosen (fun g => w g.1.1.1) And.right rfl
    | none => exact Keeps.given h (fun g => w g.1.1.1) fun g => other g.1.1.1

end Branches

/-! ## Loops -/

section Loops

include h w

protected theorem foreverTurn {body : List Statement} (brace : Position) (measured : G → measuredBody k body = true) :
    Run.Keeps k G (FitsIfAny k) (foreverTurn ev env body brace) := by
  unfold foreverTurn
  split
  · exact .bind (.tick _ env) fun _ => .pure fun _ => .none
  · exact .turn (Keeps.block h w body measured)

protected theorem whileTurn {e : Expr} {body : List Statement} (measured : G → e.measured k = true)
    (measured' : G → measuredBody k body = true) : Run.Keeps k G (FitsIfAny k) (whileTurn ev env e body) := by
  refine .bind (Keeps.condition h w e measured) fun holds => ?_
  split
  · split
    · exact .pure fun _ => .none
    · exact .turn (Keeps.block h (fun g => w g.1) body fun g => measured' g.1)
  · exact .pure fun _ => .some (.flat rfl)

protected theorem untilTurn {body : List Statement} {e : Expr} (goal : Bool) (measured : G → measuredBody k body = true)
    (measured' : G → e.measured k = true) : Run.Keeps k G (FitsIfAny k) (untilTurn ev env body e goal) := by
  rw [untilTurn_eq]
  refine .andThen (Keeps.block h w body measured) (fun _ => ?_) fun stop => ?_
  · refine .bind (Keeps.condition h (fun g => w g.1) e fun g => measured' g.1) fun answer => .pure fun _ => ?_
    split
    · exact .none
    · exact .some (.flat rfl)
  · cases stop with
    | next => exact .pure fun _ => .none
    | leave v => exact .pure fun g => .some g.2
    | fault | giveBack | exit => exact .throw And.right

omit h w in
protected theorem forValues {turn : Value → Nat → Run (Option Value)}
    (turns : ∀ v i, Run.Keeps k (G ∧ v.Fits k) (FitsIfAny k) (turn v i)) (index : Nat) (vs : List Value)
    (all : G → ∀ v ∈ vs, v.Fits k) : Run.Keeps k G (Value.Fits k) (forValues turn index vs) := by
  have onward {H : Prop} (more : H → G) (vs : List Value) (all : H → ∀ v ∈ vs, v.Fits k) (index : Nat) :
      Run.Keeps k H (Value.Fits k) (forValues turn index vs) := by
    induction vs generalizing H index with
    | nil => exact .pure fun _ => .flat rfl
    | cons v rest ih =>
      refine .bind ((turns v index).given fun g => ⟨more g, all g v List.mem_cons_self⟩) fun ended => ?_
      split
      · next v => exact .pure fun g => g.2 v rfl
      · exact ih (fun g => more g.1) (fun g v inside => all g.1 v (List.mem_cons_of_mem _ inside)) (index + 1)
  exact onward id vs all index

omit h w in
protected theorem forIntegers {turn : Value → Nat → Run (Option Value)}
    (turns : ∀ v i, Run.Keeps k (G ∧ v.Fits k) (FitsIfAny k) (turn v i)) (first : Int64) (index count : Nat) :
    Run.Keeps k G (Value.Fits k) (forIntegers turn first index count) := by
  have onward {H : Prop} (more : H → G) (index : Nat) :
      Run.Keeps k H (Value.Fits k) (forIntegers turn first index count) := by
    induction count generalizing H index with
    | zero => exact .pure fun _ => .flat rfl
    | succ count ih =>
      refine .bind ((turns _ index).given fun g => ⟨more g, .flat rfl⟩) fun ended => ?_
      split
      · next v => exact .pure fun g => g.2 v rfl
      · exact ih (fun g => more g.1) (index + 1)
  exact onward id index

omit h w in
protected theorem forEach {turn : Value → Nat → Run (Option Value)}
    (turns : ∀ v i, Run.Keeps k (G ∧ v.Fits k) (FitsIfAny k) (turn v i)) {source : Value} (q : Position)
    (fits : G → source.Fits k) : Run.Keeps k G (Value.Fits k) (forEach source q turn) := by
  have flat {α : Type} {f : α → Value} (all : ∀ a, (f a).isFlat = true) (as : List α) (v : Value)
      (inside : v ∈ as.map f) : v.Fits k := by
    obtain ⟨a, -, rfl⟩ := List.mem_map.mp inside
    exact .flat (all a)
  unfold Eval.forEach
  split
  · exact Keeps.forValues turns 0 _ fun g => (fits g).items
  · exact Keeps.forValues turns 0 _ fun _ => flat (fun _ => rfl) _
  · exact Keeps.forValues turns 0 _ fun _ => flat (fun _ => rfl) _
  · exact Keeps.forIntegers turns _ 0 _
  · exact .fail _ nofun

protected theorem eachTurn (name : String) (counter : Option String) {body : List Statement} (brace : Position)
    (measured : G → measuredBody k body = true) (v : Value) (index : Nat) :
    Run.Keeps k (G ∧ v.Fits k) (FitsIfAny k) (eachTurn ev env name counter body brace v index) := by
  have taken {H : Prop} (more : H → G ∧ v.Fits k) : Run.Keeps k H (FitsIfAny k) (do
      Run.store name v
      if body.isEmpty then
        Run.tick env (some brace)
        return none
      Run.turn (block ev env body)) := by
    refine .bind (.store name fun g => (more g).2) fun _ => ?_
    split
    · exact .bind (.tick _ env) fun _ => .pure fun _ => .none
    · exact .turn (Keeps.block h (fun g => w (more g.1).1) body fun g => measured (more g.1).1)
  unfold eachTurn
  dsimp only
  split
  · exact .bind (.store _ fun _ => .flat rfl) fun _ => taken And.left
  · exact taken id

protected theorem loopOver (name : String) (counter : Option String) {source : Expr} {body : List Statement}
    (brace : Position) (measured : G → source.measured k = true) (measured' : G → measuredBody k body = true) :
    Run.Keeps k G (Value.Fits k) (loopOver ev env name counter source body brace) := by
  refine .bind (h (.expression source) w measured) fun v => .inBlock ?_
  have looped {H : Prop} (more : H → G ∧ v.Fits k) : Run.Keeps k H (Value.Fits k) (do
      Run.define name .unit false
      forEach v source.first (eachTurn ev env name counter body brace)) :=
    .bind (.define name false fun _ => .flat rfl) fun _ =>
      Keeps.forEach (fun v i => Keeps.eachTurn h (fun g => w (more g.1).1) name counter brace
        (fun g => measured' (more g.1).1) v i) _ fun g => (more g.1).2
  dsimp only
  split
  · exact .bind (.define _ false fun _ => .flat rfl) fun _ => looped And.left
  · exact looped id

end Loops

/-! ## Faults -/

section Faults

omit h w in
protected theorem handled {caught : Error} {m : Run Value} (keeps : Run.Keeps k G (Value.Fits k) m)
    (fits : G → caught.Fits k) : Run.Keeps k G (Value.Fits k) fun s => handled caught (m s) := by
  rw [handled_eq]
  refine .andThen keeps (fun _ => .pure fun _ => .flat rfl) fun stop => ?_
  obtain ⟨raised, same, ended⟩ := handled_error caught stop
  rw [ended]
  refine .throw fun g => ?_
  rcases same with rfl | ⟨p, rfl⟩
  · exact g.2
  · exact Error.Fits.of_cause (fits g.1) (caught.cause_atPlace p)

include h w

protected theorem handle (name : Option String) {handler : List Statement} {caught : Error}
    (measured : G → measuredBody k handler = true) (fits : G → caught.Fits k)
    (unnamed : G → k.texts = 0 ∨ name = none) :
    Run.Keeps k G (Value.Fits k) (handle ev env name handler caught) := by
  refine .inBlock ?_
  cases name with
  | some name =>
    have uncapped (g : G) : k.texts = 0 := (unnamed g).resolve_right nofun
    exact .bind (.define name false fun g =>
      Error.fits_caught (uncapped g) ((w g).kept.itemRoom (uncapped g)) (fits g)) fun _ =>
      Keeps.block h (fun g => w g.1) handler fun g => measured g.1
  | none => exact Keeps.block h w handler measured

protected theorem attempt {body : List Statement} (name : Option String) {handler : List Statement}
    (measured : G → measuredBody k body = true) (measured' : G → measuredBody k handler = true)
    (unnamed : G → k.texts = 0 ∨ name = none) :
    Run.Keeps k G (Value.Fits k) (attempt ev env body name handler) := by
  rw [attempt_eq]
  refine .andThen (Keeps.block h w body measured) (fun _ => .pure And.right) fun stop => ?_
  cases stop with
  | fault e =>
    by_cases ends : e.endsRun = true
    · simp only [ends, if_true]
      exact .throw And.right
    · simp only [if_neg ends]
      exact Keeps.handled (Keeps.handle h (fun g => w g.1) name (fun g => measured' g.1) And.right
        fun g => unnamed g.1) And.right
  | leave | next | giveBack | exit => exact .throw And.right

end Faults

/-! ## Statements -/

include h w in
protected theorem perform (s : Statement) (measured : G → s.measured k = true) :
    Run.Keeps k G (Value.Fits k) (perform ev env s) := by
  have both {a b : Bool} (g : (a && b) = true) : a = true ∧ b = true := Bool.and_eq_true_iff.mp g
  have inside (g : G ∧ True) : env.Fits k := w g.1
  refine .bind (.tick _ env) fun _ => ?_
  cases s with
  | pass => exact .pure fun _ => .flat rfl
  | expression e => exact h (.expression e) inside fun g => measured g.1
  | define name constant value p => exact Keeps.define h inside name constant fun g => measured g.1
  | assign op target value p =>
    have parts (g : G ∧ True) := both (both (measured g.1)).1
    exact Keeps.assign h inside p (fun g => (both (parts g).1).1) (fun g => (both (parts g).1).2)
      (fun g => by simpa [or_assoc] using (parts g).2) fun g => by simpa using (both (measured g.1)).2
  | block body p => exact Keeps.block h inside body fun g => measured g.1
  | branch e yes yesPos no noPos p =>
    refine .bind (Keeps.condition h inside e fun g => (both (both (measured g.1)).1).1) fun holds => ?_
    split
    · exact Keeps.block h (fun g => w g.1.1) yes fun g => (both (both (measured g.1.1)).1).2
    · exact Keeps.block h (fun g => w g.1.1) no fun g => (both (measured g.1.1)).2
  | switch subject cases otherwise p =>
    exact Keeps.switch h inside (fun g => (both (both (measured g.1)).1).1)
      (fun g => (both (both (measured g.1)).1).2) fun g => (both (measured g.1)).2
  | forever body brace p =>
    exact .turns env (Keeps.foreverTurn h inside brace fun g => measured g.1) _
  | repeatWhile e body brace p =>
    exact .turns env (Keeps.whileTurn h inside (fun g => (both (measured g.1)).1)
      fun g => (both (measured g.1)).2) _
  | repeatAfter body e goal p =>
    exact .turns env (Keeps.untilTurn h inside goal (fun g => (both (measured g.1)).2)
      fun g => (both (measured g.1)).1) _
  | forEach name counter source body brace p =>
    exact Keeps.loopOver h inside name counter brace (fun g => (both (measured g.1)).1)
      fun g => (both (measured g.1)).2
  | leave value p => exact .bind (Keeps.given h inside fun g => measured g.1) fun _ => .throw And.right
  | next p => exact .throw fun _ => trivial
  | giveBack value p => exact .bind (Keeps.given h inside fun g => measured g.1) fun _ => .throw And.right
  | raise value p =>
    refine .bind (Keeps.given h inside fun g => measured g.1) fun v => .raise fun g w thrown => ?_
    cases thrown
    exact g.2
  | attempt body name handler brace p =>
    refine Keeps.attempt h inside name (fun g => (both (both (measured g.1)).1).1)
      (fun g => (both (both (measured g.1)).1).2) fun g => ?_
    simpa using (both (measured g.1)).2

include h w in
protected theorem execute (s : Statement) (measured : G → s.measured k = true) :
    Run.Keeps k G (Value.Fits k) (execute ev env s) := by
  unfold execute
  split
  · exact h (.expression _) w measured
  · exact h (.expression _) w measured
  · exact h (.expression _) w measured
  · exact h (.expression _) w measured
  · exact Keeps.perform h w s measured

include h in
/-- One level of evaluation keeps within caps, if what is inside does. -/
protected theorem step : Eval.Keeps k (step ev) := by
  intro G env task w measured
  cases task with
  | expression e => exact Keeps.evaluate h w e measured
  | statement s => exact Keeps.execute h w s measured

end Eval.Keeps

namespace Eval

/-- Evaluation to a depth keeps within caps. -/
theorem keeps_toDepth (depth : Nat) : Eval.Keeps k (toDepth depth) := by
  induction depth with
  | zero => exact fun _ _ _ => .raise_limit rfl
  | succ depth ih => exact Keeps.step ih

/-- All of evaluation keeps within caps. -/
theorem keeps_full : Eval.Keeps k full := fun task w measured => keeps_toDepth _ task w measured

end Eval

end ScriptGate.Script
