import ScriptGate.Proofs.Script.Mirror.Chain
import ScriptGate.Script.Evaluate.Assign

/-!
# Assignments that mirror others

What an assignment does to a value, and whether it is allowed, goes by the values; the places only tell
where a fault is.
-/

namespace ScriptGate.Script

instance : Castable Assignment where
  recast c a := { a with value := recast c a.value, pos := recast c a.pos, first := recast c a.first }

variable {constants : Bool} {lead : Nat} {ground : Ground} {ev ev' : Eval} {env env' : Env}

namespace Assignment

variable (w : Script.Mirrors constants env env') {a a' : Assignment} (same : Script.Mirrors constants a a')

section Parts

include same

theorem mirrors_value : Script.Mirrors constants a.value a'.value := same.natural fun _ _ => rfl
theorem mirrors_pos : Script.Mirrors constants (some a.pos) (some a'.pos) :=
  .some (same.natural fun _ _ => rfl)
theorem mirrors_first : Script.Mirrors constants (some a.first) (some a'.first) :=
  .some (same.natural fun _ _ => rfl)
theorem op_eq : a'.op = a.op := same.eq_of fun _ _ => rfl
theorem root_eq : a'.root = a.root := same.eq_of fun _ _ => rfl

theorem mirrors_fault {cause cause' : ErrorCause} (causes : Script.Mirrors constants cause cause') :
    Script.Mirrors constants (a.fault cause) (a'.fault cause') :=
  .caused causes (mirrors_pos same)

theorem mirrors_refused : Script.Mirrors constants a.refused a'.refused := by
  unfold refused
  rw [root_eq same]
  exact .refusal (fun _ => rfl) (mirrors_first same)

theorem calls_eq {old old' : Value} (values : Script.Mirrors constants old old') :
    a'.calls old' = a.calls old := by
  obtain rfl := same.bare
  obtain rfl := values.bare
  obtain ⟨op, value, pos, root, first⟩ := a
  cases op with
  | none => rfl
  | some op => cases op <;> cases old <;> cases value <;> rfl

end Parts

include w same

theorem mirrors_joined (old new : String) :
    Script.Mirrors constants (a.joined env old new) (a'.joined env' old new) := by
  have text : Script.Mirrors constants (.ok (.text (old ++ new)) : Except Error Value)
      (.ok (.text (old ++ new))) := .ok (.refl_of fun _ => rfl)
  unfold joined
  dsimp only
  rcases (Run.Mirrors.sizeFault? w (mirrors_pos same) ⟨0, 0, (old ++ new).utf8ByteSize⟩).option_cases with
    ⟨none, none'⟩ | ⟨e, e', some, some', faults⟩
  · rw [none, none']
    exact text
  · rw [some, some']
    dsimp only
    split
    · exact text
    · exact .error faults

omit w in
/-- The operator of an assignment, where no texts are joined. -/
theorem mirrors_operated (op : Binary) {old old' new new' : Value} (values : Script.Mirrors constants old old')
    (given : Script.Mirrors constants new new') :
    Script.Mirrors constants
      (match Operator.binary? op old new with
        | some result => result.mapError a.fault
        | none => .error (a.fault (.unknownCall op.text [old, new])))
      (match Operator.binary? op old' new' with
        | some result => result.mapError a'.fault
        | none => .error (a'.fault (.unknownCall op.text [old', new']))) := by
  have results : Script.Mirrors constants (Operator.binary? op old new) (Operator.binary? op old' new') :=
    .natural₂ (fun c old new => Operator.binary?_recast c op old new) values given
  rcases results.option_cases with ⟨none, none'⟩ | ⟨r, r', some, some', results⟩
  · rw [none, none']
    refine .error (mirrors_fault same ?_)
    exact (Script.Mirrors.cons values (.cons given .nil)).natural (f := ErrorCause.unknownCall op.text)
      fun c vs => ErrorCause.unknownCall_recast c op.text vs
  · rw [some, some']
    rcases results.except_cases with ⟨v, v', rfl, rfl, values⟩ | ⟨e, e', rfl, rfl, causes⟩
    · exact values.ok
    · exact .error (mirrors_fault same causes)

theorem mirrors_apply {old old' : Value} (values : Script.Mirrors constants old old') :
    Script.Mirrors constants (a.apply env old) (a'.apply env' old') := by
  have given := mirrors_value same
  have joined := mirrors_joined w same
  unfold apply
  rw [op_eq same]
  cases a.op with
  | none => exact given.ok
  | some op =>
    dsimp only
    generalize a.value = new, a'.value = new' at given
    have usual := mirrors_operated same op values given
    cases op with
    | add =>
      cases old with
      | array items =>
        obtain ⟨items', rfl, lists⟩ := values.of_array
        cases new with
        | array more =>
          obtain ⟨more', rfl, others⟩ := given.of_array
          exact .ok (.array (lists.append others))
        | _ =>
          obtain rfl := given.bare
          exact .ok (.array (lists.append (.cons given .nil)))
      | blob bytes =>
        obtain rfl := values.bare
        obtain rfl := given.bare
        cases new with
        | blob | integer | text | character => exact .ok (.refl_of fun _ => rfl)
        | _ => exact usual
      | text s =>
        obtain rfl := values.bare
        obtain rfl := given.bare
        cases new with
        | text | character => exact joined _ _
        | _ => exact usual
      | _ =>
        obtain rfl := values.bare
        exact usual
    | _ => exact usual

theorem mirrors_done {whole whole' : Value} (wholes : Script.Mirrors constants whole whole') :
    Script.Mirrors constants (a.done env whole) (a'.done env' whole') := by
  unfold done
  rw [wholes.eq_of Value.size_recast]
  rcases (Run.Mirrors.sizeFault? w (mirrors_pos same) whole.size).option_cases with
    ⟨none, none'⟩ | ⟨e, e', some, some', faults⟩
  · rw [none, none']
    exact .called (.ok (.refl_of fun _ => rfl)) (.some wholes)
  · rw [some, some']
    exact .called (.error faults.fault) (.some wholes)

theorem mirrors_toPart {part part' : Part} (parts : part.Mirrors constants part') :
    Script.Mirrors constants (a.toPart env part) (a'.toPart env' part') := by
  have applied := mirrors_apply w same parts.value
  have puts := parts.put?
  unfold toPart
  rcases applied.except_cases with ⟨v, v', done, done', values⟩ | ⟨e, e', failed, failed', faults⟩
  · rw [done, done']
    dsimp only
    generalize part.put? = put?, part'.put? = put?' at puts
    cases puts with
    | none => exact .answer (.refl_of fun _ => rfl)
    | some puts =>
      dsimp only
      rcases (puts values).except_cases with ⟨w, w', put, put', wholes⟩ | ⟨e, e', failed, failed', causes⟩
      · rw [put, put']
        exact mirrors_done ‹_› same wholes
      · rw [failed, failed']
        exact .called (.error (mirrors_fault same causes).fault) .none
  · rw [failed, failed']
    exact .called (.error faults.fault) .none

theorem mirrors_toEntry {isFixed isFixed' : Bool} (fixed : isFixed' = isFixed) {entries entries' : Entries}
    (lists : Script.Mirrors constants entries entries') (name : String) :
    Script.Mirrors constants (a.toEntry env isFixed entries name)
      (a'.toEntry env' isFixed' entries' name) := by
  have inserted {v v' : Value} (values : Script.Mirrors constants v v') :
      Script.Mirrors constants (Value.object (entries.insert name v)) (.object (entries'.insert name v')) :=
    .object (.natural₂ (f := fun (v : Value) (entries : Entries) => entries.insert name v)
      (fun c v entries => Entries.insert_recast c name v entries) values lists)
  have old : Script.Mirrors constants ((entries.get? name).getD .unit) ((entries'.get? name).getD .unit) :=
    .getD (lists.natural (f := fun entries : Entries => Entries.get? entries name)
      fun c entries => Entries.get?_recast c entries name) (.refl_of fun _ => rfl)
  unfold toEntry
  rw [fixed]
  dsimp only
  split
  · exact mirrors_refused same
  · rcases (mirrors_apply w same old).except_cases with
      ⟨v, v', done, done', values⟩ | ⟨e, e', failed, failed', faults⟩
    · rw [done, done']
      exact mirrors_done w same (inserted values)
    · rw [failed, failed']
      exact .called (.error faults.fault) (.some (inserted old))

/-- A property that cannot be set, once the new value is known. -/
theorem mirrors_noSetter {whole whole' : Value} (wholes : Script.Mirrors constants whole whole') (name : String)
    {p p' : Position} (places : Script.Mirrors constants p p') {part part' : Except Error Part}
    (parts : Part.Alike constants part part') :
    Script.Mirrors constants
      (match a.apply env ((part.map Part.value).toOption.getD .unit) with
        | .error e => ⟨.error (.fault e), none⟩
        | .ok v => .fault (.noSetter name whole.kind v.kind) p : Called)
      (match a'.apply env' ((part'.map Part.value).toOption.getD .unit) with
        | .error e => ⟨.error (.fault e), none⟩
        | .ok v => .fault (.noSetter name whole'.kind v.kind) p') := by
  rcases (mirrors_apply w same parts.valueOrUnit).except_cases with
    ⟨v, v', done, done', values⟩ | ⟨e, e', failed, failed', faults⟩
  · rw [done, done']
    dsimp only
    rw [wholes.eq_of Value.kind_recast, values.eq_of Value.kind_recast]
    exact .refusal (fun _ => rfl) (.some places)
  · rw [failed, failed']
    exact .called (.error faults.fault) .none

theorem mirrors_toProperty {whole whole' : Value} (wholes : Script.Mirrors constants whole whole')
    (name : String) {p p' : Position} (places : Script.Mirrors constants p p') :
    Script.Mirrors constants (a.toProperty env whole name p) (a'.toProperty env' whole' name p') := by
  have found := Part.mirrors_named wholes name places
  unfold toProperty
  rw [op_eq same]
  generalize Part.named whole name p = part, Part.named whole' name p' = part' at found
  cases a.op with
  | none => exact mirrors_noSetter w same wholes name places found
  | some op =>
    cases found with
    | ok parts => exact mirrors_noSetter w same wholes name places (.ok parts)
    | error faults => exact .called (.error faults.fault) .none

omit w same in
theorem mirrors_before {held held' : Held} (helds : Script.Mirrors constants held held')
    {step step' : Step} (steps : Script.Mirrors constants step step') :
    Script.Mirrors constants (before held step) (before held' step') := by
  obtain ⟨rfl, plain⟩ := steps
  cases step with
  | property name p optional => exact (Part.mirrors_named helds.heldValue name (.place p)).valueOrUnit
  | index key q p optional =>
    exact (Part.mirrors_atIndex helds.heldValue ⟨rfl, (Step.index.inj plain).1⟩ (.place q) (.place p)).valueOrUnit
  | method name args p first optional => exact .refl_of fun _ => rfl

/-- A part at an index is assigned to unless there is none, which is told with the kind of the new value. -/
theorem mirrors_toIndexed {whole whole' key key' : Value} {q q' p p' : Position}
    (found : Part.Alike constants (Part.atIndex whole key q p) (Part.atIndex whole' key' q' p'))
    {fixed fixed' : Bool} (both : fixed' = fixed) :
    Script.Mirrors constants
      (match Part.atIndex whole key q p with
        | .error (.plain (.noIndexer signature) p) =>
          ⟨.error (.fault (.plain (.noIndexer (signature ++ " = " ++ a.value.kind)) p)), none⟩
        | .error e => ⟨.error (.fault e), none⟩
        | .ok part => if fixed then a.refused else a.toPart env part : Called)
      (match Part.atIndex whole' key' q' p' with
        | .error (.plain (.noIndexer signature) p) =>
          ⟨.error (.fault (.plain (.noIndexer (signature ++ " = " ++ a'.value.kind)) p)), none⟩
        | .error e => ⟨.error (.fault e), none⟩
        | .ok part => if fixed' then a'.refused else a'.toPart env' part) := by
  generalize Part.atIndex whole key q p = part, Part.atIndex whole' key' q' p' = part' at found
  cases found with
  | ok parts =>
    dsimp only
    rw [both]
    split
    · exact mirrors_refused same
    · exact mirrors_toPart w same parts
  | error faults =>
    have kind := (mirrors_value same).eq_of Value.kind_recast
    have told : Script.Mirrors constants (⟨.error (.fault _), none⟩ : Called) _ :=
      .called (.error faults.fault) .none
    obtain rfl := faults.bare
    rename_i e
    cases e with
    | inCall => exact told
    | plain cause place =>
      cases cause with
      | noIndexer signature =>
        refine .called (.error (.fault (.caused ?_ ⟨rfl, by cases place <;> rfl⟩))) .none
        rw [kind]
        exact .refl_of fun _ => rfl
      | _ => exact told

theorem mirrors_toStep {held held' : Held} (helds : Script.Mirrors constants held held')
    {step step' : Step} (steps : Script.Mirrors constants step step') :
    Script.Mirrors constants (a.toStep env held step) (a'.toStep env' held' step') := by
  have optional : step'.optional = step.optional :=
    steps.eq_of fun _ step => by cases step <;> rfl
  have isUnit := helds.heldValue.eq_of Value.isUnit_recast
  have fixed {look look' : Value → Except Error Part}
      (looks : ∀ {v v'}, Script.Mirrors constants v v' → Part.Alike constants (look v) (look' v')) :
      (Part.made? look' held'.made).isSome = (Part.made? look held.made).isSome :=
    (Part.mirrors_made? looks helds.heldMade).isSome_eq
  unfold toStep
  dsimp only
  rw [optional, isUnit]
  split
  · exact .answer (.refl_of fun _ => rfl)
  obtain ⟨rfl, plain⟩ := steps
  obtain ⟨whole, made⟩ := held
  obtain ⟨whole', made'⟩ := held'
  have on : Script.Mirrors constants whole whole' := helds.heldValue
  cases step with
  | property name p optional =>
    have looks {v v' : Value} (values : Script.Mirrors constants v v') :
        Part.Alike constants (Part.named v name p) (Part.named v' name (recast .bare p)) :=
      Part.mirrors_named values name (.place p)
    cases whole with
    | object entries =>
      obtain ⟨entries', rfl, lists⟩ := on.of_object
      exact mirrors_toEntry w same (fixed looks) lists name
    | _ =>
      obtain rfl := on.bare
      exact mirrors_toProperty w same on name (.place p)
  | index key q p optional =>
    have keys : Script.Mirrors constants key (recast .bare key) := ⟨rfl, (Step.index.inj plain).1⟩
    have looks {v v' : Value} (values : Script.Mirrors constants v v') :
        Part.Alike constants (Part.atIndex v key q p)
          (Part.atIndex v' (recast .bare key) (recast .bare q) (recast .bare p)) :=
      Part.mirrors_atIndex values keys (.place q) (.place p)
    have indexed := mirrors_toIndexed w same (looks on) (fixed looks)
    cases whole with
    | object entries =>
      obtain ⟨entries', rfl, lists⟩ := on.of_object
      cases key with
      | text name => exact mirrors_toEntry w same (fixed looks) lists name
      | _ => exact indexed
    | _ =>
      obtain rfl := on.bare
      cases key <;> exact indexed
  | method name args p first optional => exact .answer on

end Assignment

namespace Eval.Mirrors

variable (h : Mirrors constants lead ev ev') (w : Script.Mirrors constants env env')
  {a a' : Assignment} (same : Script.Mirrors constants a a')

section Targets

include w same

theorem tickCalls (n : Nat) :
    Run.Alike constants lead ground (Eval.tickCalls env a n) (Eval.tickCalls env' a' n) := by
  induction n with
  | zero => exact .pure (.unit ())
  | succ n ih => exact .bind (.tick w (Assignment.mirrors_pos same)) fun _ => ih

/-- What is assigned to a variable, or to what a function is called on, once its old value is known. -/
theorem applied {old old' : Value} (values : Script.Mirrors constants old old')
    {store store' : Value → Run Unit}
    (stores : ∀ {v v'}, Script.Mirrors constants v v' →
      Run.Alike constants lead ground (store v) (store' v')) :
    Run.Alike constants lead ground
      (match a.apply env old with
        | .error e => Run.raise e
        | .ok v => do
          store v
          (← (a.done env v).noted).finish)
      (match a'.apply env' old' with
        | .error e => Run.raise e
        | .ok v => do
          store' v
          (← (a'.done env' v).noted).finish) := by
  rcases (Assignment.mirrors_apply w same values).except_cases with
    ⟨v, v', done, done', values⟩ | ⟨e, e', failed, failed', faults⟩
  · rw [done, done']
    exact .bind (stores values) fun _ =>
      .bind (.noted (Assignment.mirrors_done w same values)) fun calls => .finish calls
  · rw [failed, failed']
    exact .raise faults

theorem assignVariable :
    Run.Alike constants lead ground (Eval.assignVariable env a) (Eval.assignVariable env' a') := by
  have first := Assignment.mirrors_first same
  have root := Assignment.root_eq same
  unfold Eval.assignVariable
  rw [root]
  refine .bind (.tick w first) fun _ => .bind (.lookup? a.root) fun found => ?_
  rcases found.option_cases with ⟨rfl, rfl⟩ | ⟨x, x', rfl, rfl, slots⟩
  · exact .fail (fun _ => rfl) first
  · refine .bind .get fun {s s'} states => ?_
    have old := Run.Mirrors.read states (Run.Mirrors.slot slots)
    rw [(Run.Mirrors.made? states slots).isSome_eq]
    split
    · exact .finish (Assignment.mirrors_refused same)
    · dsimp only
      rw [Assignment.calls_eq same old]
      exact .bind (tickCalls w same _) fun _ => applied w same old fun values => .store a.root values

theorem assignThis : Run.Alike constants lead ground (Eval.assignThis env a) (Eval.assignThis env' a') := by
  have first := Assignment.mirrors_first same
  refine .bind (.tick w first) fun _ => .bind .get fun {s s'} states => ?_
  rcases states.this.option_cases with ⟨none, none'⟩ | ⟨this, this', some, some', receivers⟩
  · rw [none, none']
    exact .fail (fun _ => rfl) first
  · rw [some, some']
    have old := receivers.receiverValue
    have makes := receivers.receiverMade
    dsimp only
    rw [makes.isSome_eq]
    split
    · exact .finish (Assignment.mirrors_refused same)
    · rw [Assignment.calls_eq same old]
      exact .bind (tickCalls w same _) fun _ => applied w same old fun values =>
        .setThis states some (.receiver values makes)

end Targets

include h w

include same in
protected theorem assignAlong {held held' : Held} (helds : Script.Mirrors constants held held')
    {steps steps' : List Step} (lists : Script.Mirrors constants steps steps') :
    Run.Alike constants lead ground (assignAlong ev env a held steps)
      (assignAlong ev' env' a' held' steps') := by
  induction steps generalizing held held' steps' with
  | nil =>
    obtain rfl : steps' = [] := lists.bare
    exact .pure (.answer (.refl_of fun _ => rfl))
  | cons step rest ih =>
    obtain ⟨⟨⟩, -⟩ | ⟨_, step', _, rest', ⟨⟩, rfl, first, others⟩ := lists.list_cases
    rcases others.list_cases with ⟨rfl, rfl⟩ | ⟨_, _, _, _, rfl, rfl, -, -⟩
    · refine .guard (.bind (tickPart w helds first) fun _ => ?_)
      rw [Assignment.calls_eq same (Assignment.mirrors_before helds first)]
      exact .bind (tickCalls w same _) fun _ => .noted (Assignment.mirrors_toStep w same helds first)
    · exact .guard (h.enter w (fun helds => ih helds others) helds first)

include same in
protected theorem assignChain {root : Expr} {links : List Link}
    (plain : (Expr.chain root links).isPlain constants = true) :
    Run.Alike constants lead ground (assignChain ev env a root links)
      (assignChain ev' env' a' root.bare (bareLinks links)) := by
  obtain ⟨rootPlain, linksPlain⟩ := Bool.and_eq_true_iff.mp plain
  refine .bind (h.steps w linksPlain) fun {steps steps'} lists => ?_
  have goesOn {held held' : Held} (helds : Script.Mirrors constants held held') :
      Run.Alike constants lead ground (assignAlong ev env a held steps)
        (assignAlong ev' env' a' held' steps') :=
    h.assignAlong w same helds lists
  exact h.fromRoot w goesOn rootPlain

protected theorem assign (op : Option Binary) {target value : Expr}
    (targetPlain : target.isPlain constants = true) (valuePlain : value.isPlain constants = true)
    (p : Position) :
    Run.Alike constants lead ground (assign ev env op target value p)
      (assign ev' env' op target.bare value.bare .start) := by
  refine .bind (h.expression w valuePlain) fun {v v'} values => ?_
  have assignment (root : String) {q q' : Position} (places : Script.Mirrors constants q q') :
      Script.Mirrors constants (⟨op, v, p, root, q⟩ : Assignment) ⟨op, v', .start, root, q'⟩ :=
    .natural₂ (f := fun (v : Value × Position) q => (⟨op, v.1, v.2, root, q⟩ : Assignment))
      (fun _ _ _ => rfl) (.pair values (.place p)) places
  split
  · exact assignVariable w (assignment _ (.place _))
  · exact assignThis w (assignment _ (.place _))
  · exact h.assignChain w (assignment _ (.place _)) targetPlain
  · next root links notVariable =>
    have chained : Run.Alike constants lead ground _ _ :=
      h.assignChain w (assignment "" (.first root)) targetPlain
    cases root <;> first
      | exact (notVariable _ _ rfl).elim
      | exact chained
  · next notVariable notThis notFrom notChain =>
    cases target <;> first
      | exact (notVariable _ _ rfl).elim
      | exact (notThis _ rfl).elim
      | exact (notChain _ _ rfl).elim
      | exact .pure (.refl_of fun _ => rfl)

end Eval.Mirrors

end ScriptGate.Script
