import ScriptGate.Proofs.Script.Measure.CallBack
import ScriptGate.Script.Evaluate.Assign

/-!
# Chains and assignments that keep within caps

What is done to a part within caps leaves the whole within caps, if the whole is not made anew of the part: a text
is, from a character or a stretch of it, and nobody measures it then. So a part of a text is only looked at, or
assigned to. An assignment is measured when it is done, and notes what it exceeds.
-/

namespace ScriptGate.Script

variable {k : Caps}

/-! ## Steps -/

/-- The kind of the link that a step takes. -/
def Step.kind : Step → LinkKind
  | .property .. => .property
  | .index .. => .index
  | .method .. => .method

/-- A step that leads from a value within caps to such a value. A key may be large, if it names no entry. -/
def Step.Fits (k : Caps) : Step → Prop
  | .property name _ _ => k.holdsText name = true ∧ (k.items = 0 ∨ name ≠ "chars")
  | .index key .. => ∀ name, key = .text name → k.holdsText name = true
  | .method _ args _ _ _ => ∀ v ∈ args, v.Fits k

/-- A property of a link that is measured is within caps. -/
theorem Step.fits_property {name : String} {p : Position} {joint : Joint}
    (measured : (Link.property name p joint).measured k = true) (optional : Bool) :
    (Step.property name p optional).Fits k := by
  obtain ⟨held, other⟩ := Bool.and_eq_true_iff.mp measured
  exact ⟨held, by simpa using other⟩

/-- After an index the chain ends, goes on with a property, or calls nothing and changes nothing in the end. -/
theorem LinkKind.spare_index {changes : Bool} {rest : List LinkKind}
    (spared : spare changes (.index :: rest) = true) :
    rest = [] ∨ (∃ later, rest = .property :: later) ∨ changes = false ∧ .method ∉ rest := by
  have here := (Bool.and_eq_true_iff.mp spared).1
  rcases Bool.or_eq_true_iff.mp here with single | calm
  · cases rest with
    | nil => exact .inl rfl
    | cons kind later =>
      have property : kind = .property := by simpa using single
      exact .inr (.inl ⟨later, property ▸ rfl⟩)
  · exact .inr (.inr (by simpa using calm))

theorem LinkKind.spare_cons {changes : Bool} {kind : LinkKind} {rest : List LinkKind}
    (spared : spare changes (kind :: rest) = true) : spare changes rest = true := by
  cases kind with
  | index => exact (Bool.and_eq_true_iff.mp spared).2
  | property => exact spared
  | method => exact spared

/-- What is done to a part is done to the whole. -/
theorem Called.Fits.within {part : Part} {c : Called} (called : c.Fits k) (fits : part.Fits k) (p : Position)
    (back : k.texts = 0 ∨ part.isOwn = true ∨ part.put? = none ∨ c.target = none) : (c.within part p).Fits k := by
  have alone : Called.Fits k ⟨c.outcome, none⟩ := ⟨called.answer, called.stop, .none⟩
  unfold Called.within
  split
  · next v put changed place =>
    have free : part.isOwn = true ∨ k.texts = 0 := by
      rcases back with uncapped | own | none | none
      · exact .inr uncapped
      · exact .inl own
      · rw [place] at none
        cases none
      · rw [changed] at none
        cases none
    have built := fits.put put place true v (fun _ => free) (called.target v changed)
    split
    · next whole same =>
      rw [same] at built
      exact ⟨called.answer, called.stop, .some built⟩
    · next cause same =>
      rw [same] at built
      split
      · exact .refused built
      · exact alone
  · exact alone

/-! ## Chains that only look -/

namespace Eval

/-- A call that changes nothing of what it is given. -/
abbrev Unchanging (m : Run Called) : Prop := Run.Yields (·.target = none) m

/-- A way to go on that changes nothing of a value without entries. -/
def Spares (onward : Held → Run Called) : Prop :=
  ∀ held : Held, (∀ entries, held.value ≠ .object entries) → Unchanging (onward held)

variable {ev : Eval} {env : Env} {onward : Held → Run Called}

theorem Unchanging.guard {m : Run Called} (h : Unchanging m) : Unchanging (Called.guard m) := by
  intro s c t ended
  unfold Called.guard at ended
  split at ended
  · next c' t' same =>
    cases ended
    exact h s c t same
  · cases ended
    rfl

theorem Unchanging.noted {c : Called} (none : c.target = none) : Unchanging c.noted := by
  intro s c' t ended
  rcases Run.Follows.noted_cases c with ⟨e, same⟩ | same
  · rw [same] at ended
    cases ended
    exact none
  · rw [same] at ended
    cases ended
    exact none

theorem unchanging_throughPart {held : Held} {p : Position} {look : Value → Except Error Part}
    (further : ∀ part, look held.value = .ok part →
      part.put? = none ∨ Unchanging (onward ⟨part.value, Part.made? look held.made⟩)) :
    Unchanging (throughPart held onward p look) := by
  have within {part : Part} {c : Called} (alone : part.put? = none ∨ c.target = none) :
      (c.within part p).target = none := by
    unfold Called.within
    split
    · next changed place =>
      rw [changed, place] at alone
      rcases alone with none | none <;> cases none
    · rfl
  unfold throughPart
  split
  · exact .pure rfl
  · next part found =>
    rcases further part found with none | same
    · exact .bind fun c => .pure (within (.inl none))
    · exact .map same fun c none => within (.inr none)

/-- A property of a value without entries has no place. -/
theorem spares_property (name : String) (p : Position) (optional : Bool) :
    Spares fun held => enter ev env held (.property name p optional) onward := by
  intro held single
  change Unchanging (enter ev env held (.property name p optional) onward)
  unfold enter
  split
  · exact .pure rfl
  · refine .bind fun _ => unchanging_throughPart fun part found => .inl ?_
    exact (Part.own_named found).resolve_left fun ⟨_, entries, whole⟩ => single entries whole

/-- Only calls change what a chain leads to. -/
theorem unchanging_follow {steps : List Step} (calm : .method ∉ steps.map Step.kind) (held : Held) :
    Unchanging (follow ev env held steps) := by
  induction steps generalizing held with
  | nil => exact .pure rfl
  | cons step rest ih =>
    obtain ⟨plain, later⟩ : Step.kind step ≠ .method ∧ .method ∉ rest.map Step.kind := by simpa [eq_comm] using calm
    refine Unchanging.guard ?_
    unfold enter
    split
    · exact .pure rfl
    · refine .bind fun _ => ?_
      cases step with
      | property => exact unchanging_throughPart fun _ _ => .inr (ih later _)
      | index => exact unchanging_throughPart fun _ _ => .inr (ih later _)
      | method => exact (plain rfl).elim

end Eval

namespace Eval.Keeps

variable {ev : Eval} {env : Env} {G : Prop} (h : Eval.Keeps k ev) (w : G → env.Fits k)

/-! ## Arguments -/

/-- A name that is known stands in the script. -/
theorem holdsText_of_known? {e : Expr} {v : Literal} {name : String} (known : e.known? = some v)
    (same : Value.ofLiteral v = .text name) (measured : e.measured k = true) : k.holdsText name = true := by
  have text : v = .text name := by
    cases v with
    | text s => exact congrArg Literal.text (Value.text.inj same)
    | _ => cases same
  subst text
  unfold Expr.known? at known
  split at known
  · cases known
    exact measured
  · obtain ⟨_, -, other⟩ := Option.map_eq_some_iff.mp known
    cases other
  · obtain ⟨_, -, other⟩ := Option.map_eq_some_iff.mp known
    cases other
  · cases known

section Arguments

include h w

protected theorem stepOf (link : Link) (measured : G → link.measured k = true) :
    Run.Keeps k G (fun step => step.Fits k ∧ step.kind = link.kind) (stepOf ev env link) := by
  cases link with
  | property name p joint => exact .pure fun g => ⟨Step.fits_property (measured g) _, rfl⟩
  | index e joint =>
    refine .bind (h (.expression e) w measured) fun v => .pure fun g => ⟨fun name same => ?_, rfl⟩
    subst same
    exact g.2.holdsText
  | method name args p joint =>
    exact .bind (Keeps.arguments h w args measured) fun vs => .pure fun g => ⟨g.2, rfl⟩

/-- Steps within caps that lead along links. -/
abbrev StepsFit (k : Caps) (links : List Link) (steps : List Step) : Prop :=
  (∀ step ∈ steps, step.Fits k) ∧ steps.map Step.kind = links.map Link.kind

protected theorem stepsOf (links : List Link) (measured : G → measuredLinks k links = true) :
    Run.Keeps k G (StepsFit k links) (stepsOf ev env links) := by
  induction links generalizing G with
  | nil => exact .pure fun _ => ⟨List.forall_mem_nil _, rfl⟩
  | cons link rest ih =>
    have parts (g : G) := Bool.and_eq_true_iff.mp (measured g)
    refine .bind (.tick _ env) fun _ => .bind (Keeps.stepOf h (fun g => w g.1) link fun g => (parts g.1).1)
      fun step => .bind (ih (fun g => w g.1.1) fun g => (parts g.1.1).2) fun steps => .pure fun g => ?_
    exact ⟨List.forall_mem_cons.mpr ⟨g.1.2.1, g.2.1⟩, congrArg₂ List.cons g.1.2.2 g.2.2⟩

protected theorem steps (links : List Link) (measured : G → measuredLinks k links = true) :
    Run.Keeps k G (StepsFit k links) (steps ev env links) := by
  have first {link : Link} {rest : List Link} (g : measuredLinks k (link :: rest) = true) : link.measured k = true :=
    (Bool.and_eq_true_iff.mp g).1
  unfold steps
  split
  · next name p joint =>
    exact .pure fun g => ⟨List.forall_mem_singleton.mpr (Step.fits_property (first (measured g)) _), rfl⟩
  · exact .pure fun _ => ⟨List.forall_mem_singleton.mpr nofun, rfl⟩
  · next e joint =>
    split
    · next v known =>
      refine .pure fun g => ⟨List.forall_mem_singleton.mpr fun name same => ?_, rfl⟩
      exact holdsText_of_known? known same (first (measured g))
    · exact Keeps.stepsOf h w _ measured
  · exact Keeps.stepsOf h w links measured

end Arguments

/-! ## Methods -/

section Methods

variable {held : Held} {name : String} {args : List Value} (fits : G → held.value.Fits k)
  (all : G → ∀ v ∈ args, v.Fits k)

include h w fits all

protected theorem callMethod (p : Position) :
    Run.Keeps k G (Called.Fits k) (callMethod ev env held name args p) := by
  have this (g : G) : ∀ r ∈ some (⟨held.value, held.made⟩ : Receiver), r.value.Fits k :=
    fun r same => Option.mem_some.mp same ▸ fits g
  unfold callMethod
  dsimp only
  split
  · next f body cells bound found =>
    refine Keeps.callPointer h w _ (fun g => ?_) all this
    have whole := fits g
    split at found
    · next entries same =>
      rw [same] at whole
      exact whole.get? found
    · cases found
  · next found _ => exact Keeps.callByName h w _ args _ _ (fun g => (w g).find? found) all this
  · refine .bind (keeps_callNative h name _ w fun g => List.forall_mem_cons.mpr ⟨fits g, all g⟩) fun called => ?_
    split
    · exact .pure fun _ => .refused nofun
    · exact .pure And.right

protected theorem method (p first : Position) :
    Run.Keeps k G (Called.Fits k) (method ev env held name args p first) := by
  unfold method
  split
  · next f body cells bound same =>
    exact Keeps.callPointer h w _ (fun g => same ▸ fits g) all fun _ => nofun
  · exact .pure fun _ => .refused nofun
  · exact Keeps.callPointer h w _ (fun g => all g _ List.mem_cons_self)
      (fun g v inside => all g v (List.mem_cons_of_mem _ inside))
      fun g r same => Option.mem_some.mp same ▸ fits g
  · exact .pure fun _ => .refused nofun
  · next same => exact .pure fun g => .ok (fits_curried (same ▸ fits g) (all g)) .none
  · exact .pure fun _ => .refused nofun
  · exact Keeps.callMethod h w fits all p

end Methods

/-! ## Following a chain -/

section Chains

omit h w in
protected theorem tickPart (whole : Value) (step : Step) :
    Run.Keeps k G (fun _ => True) (tickPart env whole step) := by
  unfold tickPart
  split
  · exact .tick _ env
  · exact .tick _ env
  · exact .tick _ env
  · exact .pure fun _ => trivial

variable {onward : Held → Run Called}
  (goesOn : ∀ held : Held, Run.Keeps k (G ∧ held.value.Fits k) (Called.Fits k) (onward held))

include goesOn

omit h w in
protected theorem throughPart {held : Held} {p : Position} {look : Value → Except Error Part}
    (found : G → Part.LookFits k (look held.value))
    (back : G → ∀ part, look held.value = .ok part →
      k.texts = 0 ∨ part.isOwn = true ∨ part.put? = none ∨ Spares onward) :
    Run.Keeps k G (Called.Fits k) (throughPart held onward p look) := by
  unfold throughPart
  split
  · next e same =>
    exact .pure fun g => .error ((congrArg (Part.LookFits k) same).mp (found g)) .none
  · next part same =>
    have fits (g : G) : part.Fits k := (congrArg (Part.LookFits k) same).mp (found g)
    have onto := (goesOn ⟨part.value, Part.made? look held.made⟩).given fun g => ⟨g, (fits g).value⟩
    by_cases spares : Spares onward ∧ ∀ entries, part.value ≠ .object entries
    · refine .bind (onto.and (spares.1 _ spares.2)) fun called => .pure fun g => ?_
      exact g.2.1.within (fits g.1) p (.inr (.inr (.inr g.2.2)))
    · refine .bind onto fun called => .pure fun g => g.2.within (fits g.1) p ?_
      rcases back g.1 part same with uncapped | own | none | calm
      · exact .inl uncapped
      · exact .inr (.inl own)
      · exact .inr (.inr (.inl none))
      · rcases (fits g.1).apart with own | none | single
        · exact .inr (.inl own)
        · exact .inr (.inr (.inl none))
        · exact absurd ⟨calm, single⟩ spares

section Roots

include w

omit h in
protected theorem chainFromVariable (name : String) (q : Position) :
    Run.Keeps k G (Value.Fits k) (chainFromVariable env name q onward) := by
  refine .bind (.tick _ env) fun _ => .bind (.lookup? name) fun found => ?_
  split
  · next x =>
    refine .get fun s => .bind ((goesOn _).given fun g => ⟨g.1.1.1, g.2.read (g.1.2 x rfl)⟩) fun called => ?_
    split
    · next v changed => exact .bind (.store name fun g => g.2.target v changed) fun _ => .finish fun g => g.1.2
    · exact .finish And.right
  · split
    · next f named =>
      exact .bind ((goesOn _).given fun g => ⟨g.1.1, (w g.1.1).functionNamed? named⟩) fun called =>
        .finish And.right
    · exact .fail _ nofun

omit h w in
protected theorem chainFromThis (q : Position) : Run.Keeps k G (Value.Fits k) (chainFromThis env q onward) := by
  refine .bind (.tick _ env) fun _ => .get fun s => ?_
  split
  · exact .fail _ nofun
  · next this held =>
    refine .bind ((goesOn _).given fun g => ⟨g.1.1, g.2.this this held⟩) fun called => ?_
    split
    · next v changed => exact .bind (.setThis fun g => g.2.target v changed) fun _ => .finish fun g => g.1.2
    · exact .finish And.right

end Roots

include h w

protected theorem enter {held : Held} {step : Step} (fits : G → held.value.Fits k) (leads : G → step.Fits k)
    (free : G → k.texts = 0 ∨ step.kind ≠ .index ∨ Spares onward) :
    Run.Keeps k G (Called.Fits k) (enter ev env held step onward) := by
  unfold enter
  split
  · exact .pure fun _ => .ok (.flat rfl) .none
  · refine .bind (Keeps.tickPart held.value step) fun _ => ?_
    cases step with
    | property name p optional =>
      refine Keeps.throughPart (fun held => (goesOn held).given fun g => ⟨g.1.1, g.2⟩)
        (fun g => Part.fits_named (fits g.1) (leads g.1).2 p) fun _ part found => ?_
      exact .inr ((Part.own_named found).imp And.left .inl)
    | index key q p optional =>
      refine Keeps.throughPart (fun held => (goesOn held).given fun g => ⟨g.1.1, g.2⟩)
        (fun g => Part.fits_atIndex (fits g.1) key q p) fun g part _ => ?_
      exact (free g.1).imp_right fun other => .inr (.inr (other.resolve_left (· rfl)))
    | method name args p first optional =>
      refine .bind (Keeps.method h (fun g => w g.1) (fun g => fits g.1) (fun g => leads g.1) p first) fun called => ?_
      split
      · exact .pure And.right
      · next answer ended =>
        refine .bind ((goesOn _).given fun g => ⟨g.1.1, g.2.answer answer ended⟩) fun after => .pure fun g => ?_
        exact ⟨g.2.answer, g.2.stop, g.1.2.target⟩

end Chains

include h w

protected theorem follow {held : Held} {steps : List Step} (fits : G → held.value.Fits k)
    (leads : G → ∀ step ∈ steps, step.Fits k) (free : G → k.texts = 0 ∨ LinkKind.spare false (steps.map Step.kind)) :
    Run.Keeps k G (Called.Fits k) (follow ev env held steps) := by
  induction steps generalizing G held with
  | nil => exact .pure fun g => .ok (fits g) .none
  | cons step rest ih =>
    have parts (g : G) := List.forall_mem_cons.mp (leads g)
    refine .guard (Keeps.enter h w (fun held => ih (fun g => w g.1) And.right (fun g => (parts g.1).2)
      fun g => (free g.1).imp_right LinkKind.spare_cons) fits (fun g => (parts g).1) fun g => ?_)
    refine (free g).imp_right fun spared => ?_
    by_cases index : step.kind = .index
    · refine .inr ?_
      rw [List.map_cons, index] at spared
      rcases LinkKind.spare_index spared with none | ⟨later, property⟩ | ⟨-, calm⟩
      · rw [List.map_eq_nil_iff.mp none]
        exact fun held _ => .pure rfl
      · obtain ⟨next, rest, rfl, same, -⟩ := List.map_eq_cons_iff.mp property
        cases next with
        | property name p optional => exact fun held single => (spares_property name p optional held single).guard
        | index => cases same
        | method => cases same
      · exact fun held _ => unchanging_follow calm held
    · exact .inl index

protected theorem chain {root : Expr} {links : List Link} (measured : G → root.measured k = true)
    (measured' : G → measuredLinks k links = true)
    (free : G → k.texts = 0 ∨ LinkKind.spare false (links.map Link.kind)) :
    Run.Keeps k G (Value.Fits k) (chain ev env root links) := by
  refine .bind (.tick _ env) fun _ => .bind (Keeps.steps h (fun g => w g.1) links fun g => measured' g.1) fun steps => ?_
  have goesOn (held : Held) : Run.Keeps k (((G ∧ True) ∧ StepsFit k links steps) ∧ held.value.Fits k) (Called.Fits k)
      (follow ev env held steps) :=
    Keeps.follow h (fun g => w g.1.1.1) And.right (fun g => g.1.2.1) fun g => g.1.2.2 ▸ free g.1.1.1
  dsimp only
  split
  · exact Keeps.chainFromVariable (fun g => w g.1.1) goesOn _ _
  · exact Keeps.chainFromThis goesOn _
  · exact .bind (h (.expression _) (fun g => w g.1.1) fun g => measured g.1.1) fun v =>
      .bind (goesOn ⟨v, none⟩) fun called => .finish And.right

end Eval.Keeps

/-! ## Assignments -/

namespace Assignment

variable {env : Env} (a : Assignment)

/-- What a value becomes is well built, or the fault tells of no value beyond caps. -/
def AppliedFits (k : Caps) : Except Error Value → Prop
  | .ok v => v.Built k false
  | .error e => e.Fits k

theorem built_joined (env : Env) (old new : String) : AppliedFits k (a.joined env old new) := by
  unfold joined
  dsimp only
  split
  · next e found =>
    split
    · exact .text nofun
    · obtain ⟨what, -, rfl⟩ := Option.map_eq_some_iff.mp found
      exact nofun
  · exact .text nofun

theorem built_apply (env : Env) {old : Value} (given : a.value.Fits k) (fits : old.Fits k) :
    AppliedFits k (a.apply env old) := by
  have appended {items more : List Value} (fits : (Value.array items).Fits k) (all : ∀ v ∈ more, v.Fits k) :
      (Value.array (items ++ more)).Built k false :=
    .array nofun fun v inside => (List.mem_append.mp inside).elim (fun inside => (fits.items v inside).unsized)
      fun inside => (all v inside).unsized
  unfold apply
  split
  · exact given.unsized
  · split
    · next same _ => exact appended fits (same ▸ given).items
    · exact appended fits (List.forall_mem_singleton.mpr given)
    · exact .flat rfl
    · exact .flat rfl
    · exact .flat rfl
    · exact .flat rfl
    · exact a.built_joined env _ _
    · exact a.built_joined env _ _
    · split
      · next result found =>
        have built := Operator.built_binary? fits given found
        cases result with
        | ok v => exact built
        | error cause => exact fun v same => (built v same).elim
      · exact nofun

/-- An assignment that is done exceeds a limit, or the whole is of a size that is allowed. -/
theorem done_cases (env : Env) (whole : Value) :
    (∃ e, a.done env whole = ⟨.error (.fault e), some whole⟩ ∧ e.isLimit = true) ∨
      a.done env whole = ⟨.ok .unit, some whole⟩ ∧ whole.size.Allowed env.settings := by
  unfold done
  cases found : Run.sizeFault? env whole.size (some a.pos) with
  | some e => exact .inl ⟨e, rfl, Run.isLimit_of_sizeFault? found⟩
  | none => exact .inr ⟨rfl, Run.allowed_of_sizeFault? found⟩

theorem judged_done (kept : k.KeptBy env.settings) {whole : Value} (built : whole.Built k false) :
    (a.done env whole).Fits k ∨ (a.done env whole).Exceeds := by
  rcases a.done_cases env whole with ⟨e, same, limit⟩ | ⟨same, allowed⟩
  · exact .inr ⟨e, congrArg Called.outcome same, limit⟩
  · rw [same]
    exact .inl (.ok (.flat rfl) (.some (built.fits kept allowed)))

variable (kept : k.KeptBy env.settings) (given : a.value.Fits k)

include kept given

theorem judged_toPart {part : Part} (fits : part.Fits k) :
    (a.toPart env part).Fits k ∨ (a.toPart env part).Exceeds := by
  have applied := a.built_apply env given fits.value
  unfold toPart
  split
  · next e same =>
    rw [same] at applied
    exact .inl (.error applied .none)
  · next v same =>
    rw [same] at applied
    split
    · next put place =>
      have built := fits.put put place false v nofun applied
      split
      · next whole same =>
        rw [same] at built
        exact a.judged_done kept built
      · next cause same =>
        rw [same] at built
        exact .inl (.fault _ built .none)
    · exact .inl (.ok (.flat rfl) .none)

/-- An entry gets its place before it is known whether the value can be joined to it. -/
theorem judged_toEntry {fixed : Bool} {entries : Entries} {name : String}
    (fits : (Value.object entries).Fits k) (named : k.holdsText name = true)
    (placed : k.items = 0 ∨ a.op = none) :
    (a.toEntry env fixed entries name).Fits k ∨ (a.toEntry env fixed entries name).Exceeds := by
  have old : ((entries.get? name).getD .unit).Fits k := by
    cases found : entries.get? name with
    | none => exact .flat rfl
    | some v => exact fits.get? found
  have applied := a.built_apply env given old
  unfold toEntry
  dsimp only
  split
  · exact .inl (.refused nofun)
  · split
    · next e same =>
      rw [same] at applied
      have uncapped : k.items = 0 := by
        rcases placed with uncapped | plain
        · exact uncapped
        · unfold apply at same
          rw [plain] at same
          cases same
      exact .inl (.error applied (.some (fits.insert named old fun _ => Caps.holdsCount_iff.mpr (.inl uncapped))))
    · next v same =>
      rw [same] at applied
      exact a.judged_done kept (fits.unsized.insert named applied nofun)

omit kept in
theorem fits_toProperty {whole : Value} (fits : whole.Fits k) {name : String}
    (other : k.items = 0 ∨ name ≠ "chars") (p : Position) : (a.toProperty env whole name p).Fits k := by
  have found := Part.fits_named fits other p
  unfold toProperty
  split
  · next e same =>
    rw [same] at found
    exact .error found .none
  · dsimp only
    have old : (((Part.named whole name p).map Part.value).toOption.getD .unit).Fits k := by
      cases same : Part.named whole name p with
      | ok part =>
        rw [same] at found
        exact found.value
      | error e => exact .flat rfl
    have applied := a.built_apply env given old
    split
    · next e same =>
      rw [same] at applied
      exact .error applied .none
    · exact .refused nofun

theorem judged_toStep {held : Held} {step : Step} (fits : held.value.Fits k) (leads : step.Fits k)
    (placed : k.items = 0 ∨ a.op = none) :
    (a.toStep env held step).Fits k ∨ (a.toStep env held step).Exceeds := by
  unfold toStep
  split
  · exact .inl (.ok (.flat rfl) .none)
  · dsimp only
    split
    · next same _ =>
      exact a.judged_toEntry kept given (same ▸ fits) leads.1 placed
    · next same _ =>
      exact a.judged_toEntry kept given (same ▸ fits) (leads _ rfl) placed
    · exact .inl (a.fits_toProperty given fits leads.2 _)
    · next key q p optional _ _ =>
      have found := Part.fits_atIndex fits key q p
      split
      · exact .inl (.error nofun .none)
      · next e _ same =>
        rw [same] at found
        exact .inl (.error found .none)
      · next part same =>
        rw [same] at found
        split
        · exact .inl (.refused nofun)
        · exact a.judged_toPart kept given found
    · exact .inl (.ok fits .none)

omit kept given in
/-- Only objects have properties that are assigned to. -/
theorem target_toStep {held : Held} (single : ∀ entries, held.value ≠ .object entries) (name : String)
    (p : Position) (optional : Bool) : (a.toStep env held (.property name p optional)).target = none := by
  unfold toStep
  split
  · rfl
  · dsimp only
    split
    · next same => exact (single _ same).elim
    · next equal _ => cases equal
    · unfold toProperty
      split
      · rfl
      · dsimp only
        split <;> rfl
    · next equal _ => cases equal
    · next equal => cases equal

end Assignment

theorem Eval.spares_assignAlong {ev : Eval} {env : Env} (a : Assignment) (name : String) (p : Position)
    (optional : Bool) (rest : List Step) :
    Spares fun held => assignAlong ev env a held (.property name p optional :: rest) := by
  intro held single
  cases rest with
  | nil => exact Unchanging.guard (.bind fun _ => .bind fun _ => Unchanging.noted (a.target_toStep single name p optional))
  | cons next rest => exact (spares_property name p optional held single).guard

namespace Eval.Keeps

variable {ev : Eval} {env : Env} {G : Prop} (h : Eval.Keeps k ev) (w : G → env.Fits k) (a : Assignment)
  (given : G → a.value.Fits k)

section Targets

omit given in
protected theorem tickCalls (n : Nat) : Run.Keeps k G (fun _ => True) (tickCalls env a n) := by
  induction n generalizing G with
  | zero => exact .pure fun _ => trivial
  | succ n ih => exact .bind (.tick _ env) fun _ => ih

include w given

/-- What is assigned to a variable, or to what a function is called on, once its old value is known. A value that
is stored beyond caps exceeds a limit. -/
protected theorem applied {old : Value} {store : Value → Run Unit} (fits : G → old.Fits k)
    (modifies : ∀ v, ∃ f, store v = modify f)
    (stores : ∀ v, Run.Keeps k (G ∧ v.Fits k) (fun _ => True) (store v)) :
    Run.Keeps k G (Value.Fits k)
      (match a.apply env old with
        | .error e => Run.raise e
        | .ok v => do
          store v
          (← (a.done env v).noted).finish) := by
  have applied (g : G) := a.built_apply env (given g) (fits g)
  split
  · next e same =>
    rw [same] at applied
    exact .raise applied
  · next v same =>
    rw [same] at applied
    rcases a.done_cases env v with ⟨e, done, limit⟩ | ⟨done, allowed⟩
    · obtain ⟨f, eq⟩ := modifies v
      rw [done, eq]
      exact .of_exceeding fun s => Bool.or_eq_true_iff.mpr (.inr limit)
    · have fits (g : G) : v.Fits k := (applied g).fits (w g).kept allowed
      rw [done]
      exact .bind ((stores v).given fun g => ⟨g, fits g⟩) fun _ =>
        .bind (.noted fun g => .inl (.ok (.flat rfl) (.some (fits g.1)))) fun called => .finish And.right

protected theorem assignVariable : Run.Keeps k G (Value.Fits k) (assignVariable env a) := by
  refine .bind (.tick _ env) fun _ => .bind (.lookup? a.root) fun found => ?_
  split
  · exact .fail _ nofun
  · next x =>
    refine .get fun s => ?_
    split
    · exact .finish fun _ => .refused nofun
    · exact .bind (Keeps.tickCalls a _) fun _ => Keeps.applied (fun g => w g.1.1.1.1) a (fun g => given g.1.1.1.1)
        (fun g => g.1.2.read (g.1.1.2 x rfl)) (fun v => ⟨_, rfl⟩) fun v => .store a.root And.right

protected theorem assignThis : Run.Keeps k G (Value.Fits k) (assignThis env a) := by
  refine .bind (.tick _ env) fun _ => .get fun s => ?_
  split
  · exact .fail _ nofun
  · next this held =>
    split
    · exact .finish fun _ => .refused nofun
    · exact .bind (Keeps.tickCalls a _) fun _ => Keeps.applied (fun g => w g.1.1.1) a (fun g => given g.1.1.1)
        (fun g => g.1.2.this this held) (fun v => ⟨_, rfl⟩) fun v => .setThis And.right

end Targets

include h w

protected theorem assignAlong {held : Held} {steps : List Step} (given : G → a.value.Fits k)
    (placed : G → k.items = 0 ∨ a.op = none) (fits : G → held.value.Fits k)
    (leads : G → ∀ step ∈ steps, step.Fits k) (free : G → k.texts = 0 ∨ LinkKind.spare true (steps.map Step.kind)) :
    Run.Keeps k G (Called.Fits k) (assignAlong ev env a held steps) := by
  induction steps generalizing G held with
  | nil => exact .pure fun _ => .ok (.flat rfl) .none
  | cons step rest ih =>
    have parts (g : G) := List.forall_mem_cons.mp (leads g)
    cases rest with
    | nil =>
      exact .guard (.bind (Keeps.tickPart held.value step) fun _ => .bind (Keeps.tickCalls a _) fun _ =>
        .noted fun ⟨⟨g, _⟩, _⟩ => a.judged_toStep (w g).kept (given g) (fits g) (parts g).1 (placed g))
    | cons next rest =>
      refine .guard (Keeps.enter h w (fun held => ih (fun g => w g.1) (fun g => given g.1) (fun g => placed g.1)
        And.right (fun g => (parts g.1).2) fun g => (free g.1).imp_right LinkKind.spare_cons) fits
        (fun g => (parts g).1) fun g => (free g).imp_right fun spared => ?_)
      by_cases index : step.kind = .index
      · rw [List.map_cons, index] at spared
        rcases LinkKind.spare_index spared with none | ⟨later, property⟩ | ⟨changes, -⟩
        · cases none
        · cases next with
          | property name p optional => exact .inr (spares_assignAlong a name p optional rest)
          | index => cases property
          | method => cases property
        · cases changes
      · exact .inl index

protected theorem assignChain {root : Expr} {links : List Link} (given : G → a.value.Fits k)
    (placed : G → k.items = 0 ∨ a.op = none) (measured : G → root.measured k = true)
    (measured' : G → measuredLinks k links = true)
    (free : G → k.texts = 0 ∨ LinkKind.spare true (links.map Link.kind)) :
    Run.Keeps k G (Value.Fits k) (assignChain ev env a root links) := by
  refine .bind (Keeps.steps h w links measured') fun steps => ?_
  have goesOn (held : Held) : Run.Keeps k ((G ∧ StepsFit k links steps) ∧ held.value.Fits k) (Called.Fits k)
      (assignAlong ev env a held steps) :=
    Keeps.assignAlong h (fun g => w g.1.1) a (fun g => given g.1.1) (fun g => placed g.1.1) And.right
      (fun g => g.1.2.1) fun g => g.1.2.2 ▸ free g.1.1
  dsimp only
  split
  · exact Keeps.chainFromVariable (fun g => w g.1) goesOn _ _
  · exact Keeps.chainFromThis goesOn _
  · exact .bind (h (.expression _) (fun g => w g.1) fun g => measured g.1) fun v =>
      .bind (goesOn ⟨v, none⟩) fun called => .finish And.right

omit a in
protected theorem assign {op : Option Binary} {target value : Expr} (p : Position)
    (measured : G → target.measured k = true) (measured' : G → value.measured k = true)
    (placed : G → k.items = 0 ∨ op = none ∨ target.isChain = false)
    (free : G → k.texts = 0 ∨ LinkKind.spare true target.kinds) :
    Run.Keeps k G (Value.Fits k) (assign ev env op target value p) := by
  have linked {root : Expr} {links : List Link} (g : (Expr.chain root links).measured k = true) :
      root.measured k = true ∧ measuredLinks k links = true :=
    Bool.and_eq_true_iff.mp (Bool.and_eq_true_iff.mp g).1
  refine .bind (h (.expression value) w measured') fun v => ?_
  split
  · exact Keeps.assignVariable (fun g => w g.1) _ And.right
  · exact Keeps.assignThis (fun g => w g.1) _ And.right
  · exact Keeps.assignChain h (fun g => w g.1) _ And.right
      (fun g => (placed g.1).imp_right fun other => other.resolve_right Bool.noConfusion) (fun _ => rfl)
      (fun g => (linked (measured g.1)).2) fun g => free g.1
  · exact Keeps.assignChain h (fun g => w g.1) _ And.right
      (fun g => (placed g.1).imp_right fun other => other.resolve_right Bool.noConfusion)
      (fun g => (linked (measured g.1)).1) (fun g => (linked (measured g.1)).2) fun g => free g.1
  · exact .pure fun _ => .flat rfl

end Eval.Keeps

end ScriptGate.Script
