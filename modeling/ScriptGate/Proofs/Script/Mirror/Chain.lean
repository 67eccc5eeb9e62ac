import ScriptGate.Proofs.Script.Mirror.CallBack
import ScriptGate.Script.Evaluate.Chain

/-!
# Chains that mirror others

Whatever follows a chain is given how it goes on, so the rules for chains mirror others as long as that
does. Parts mirror parts together with what becomes of the wholes around them.
-/

namespace ScriptGate.Script

instance : Castable Held := ⟨fun c held => ⟨recast c held.value, recast c held.made⟩⟩

instance : Castable Step where
  recast c
    | .property name p optional => .property name (recast c p) optional
    | .index key q p optional => .index (recast c key) (recast c q) (recast c p) optional
    | .method name args p first optional =>
      .method name (recast c args) (recast c p) (recast c first) optional

variable {constants : Bool} {lead : Nat} {ground : Ground} {ev ev' : Eval} {env env' : Env}

/-! ## Parts -/

namespace Part

/-- A part mirrors another one, and so do the wholes that become of putting something in its place. -/
structure Mirrors (constants : Bool) (part part' : Part) : Prop where
  value : Script.Mirrors constants part.value part'.value
  isOwn : part'.isOwn = part.isOwn
  put? : Option.Rel (fun put put' => ∀ {v v'}, Script.Mirrors constants v v' →
    Script.Mirrors constants (put v) (put' v')) part.put? part'.put?

/-- Looks at parts have found parts, or faults, that mirror each other. -/
inductive Alike (constants : Bool) : Except Error Part → Except Error Part → Prop where
  | ok {part part' : Part} (same : part.Mirrors constants part') : Alike constants (.ok part) (.ok part')
  | error {e e' : Error} (same : Script.Mirrors constants e e') : Alike constants (.error e) (.error e')

/-- The value that was found, or none to speak of. -/
theorem Alike.valueOrUnit {found found' : Except Error Part} (h : Alike constants found found') :
    Script.Mirrors constants ((found.map Part.value).toOption.getD .unit)
      ((found'.map Part.value).toOption.getD .unit) := by
  cases h with
  | ok same => exact same.value
  | error => exact .refl_of fun _ => rfl

theorem Finds.cases {c : Recast} {found found' : Except Error Part} (h : Finds c found found') :
    (∃ part part', found = .ok part ∧ found' = .ok part' ∧ part.Recasts c part') ∨
      ∃ e, found = .error e ∧ found' = .error (recast c e) := by
  cases h with
  | ok same => exact .inl ⟨_, _, rfl, rfl, same⟩
  | error e => exact .inr ⟨e, rfl, rfl⟩

/-- What is found under both changes of bodies. -/
theorem Alike.of_finds {found found' : Except Error Part} (bare : Finds .bare found found')
    (plain : Finds (.cleaned constants) found found) : Alike constants found found' := by
  obtain ⟨part, part', rfl, rfl, same⟩ | ⟨e, rfl, rfl⟩ := bare.cases
  · obtain ⟨_, _, ⟨⟩, ⟨⟩, stays⟩ | ⟨_, ⟨⟩, -⟩ := plain.cases
    refine .ok ⟨⟨same.value, stays.value.symm⟩, same.isOwn, ?_⟩
    obtain ⟨value, isOwn, put?⟩ := part
    obtain ⟨value', isOwn', put?'⟩ := part'
    have puts := same.put?
    have stay := stays.put?
    cases puts with
    | none => exact .none
    | some puts =>
      cases stay with
      | some stay =>
        refine .some fun {v v'} values => ⟨?_, ?_⟩
        · rw [values.bare]
          exact puts v
        · exact (stay v).symm.trans (congrArg _ values.plain)
  · obtain ⟨_, _, ⟨⟩, -⟩ | ⟨_, ⟨⟩, fixed⟩ := plain.cases
    exact .error ⟨rfl, (Except.error.inj fixed).symm⟩

theorem mirrors_atIndex {whole whole' key key' : Value}
    (wholes : Script.Mirrors constants whole whole') (keys : Script.Mirrors constants key key')
    {q q' p p' : Position} (indexes : Script.Mirrors constants q q')
    (brackets : Script.Mirrors constants p p') :
    Alike constants (atIndex whole key q p) (atIndex whole' key' q' p') := by
  have finds (c : Recast) := atIndex_finds c whole key q p
  refine .of_finds ?_ ?_
  · rw [wholes.bare, keys.bare, indexes.bare, brackets.bare]
    exact finds _
  · have stays := finds (.cleaned constants)
    rwa [wholes.plain, keys.plain, indexes.plain, brackets.plain] at stays

theorem mirrors_named {whole whole' : Value} (wholes : Script.Mirrors constants whole whole')
    (name : String) {p p' : Position} (places : Script.Mirrors constants p p') :
    Alike constants (named whole name p) (named whole' name p') := by
  have finds (c : Recast) := named_finds c whole name p
  refine .of_finds ?_ ?_
  · rw [wholes.bare, places.bare]
    exact finds _
  · have stays := finds (.cleaned constants)
    rwa [wholes.plain, places.plain] at stays

/-- Looks that find alike find alike in what constants were made with. -/
theorem mirrors_made? {look look' : Value → Except Error Part}
    (looks : ∀ {v v'}, Script.Mirrors constants v v' → Alike constants (look v) (look' v'))
    {made made' : Option Value} (makes : Script.Mirrors constants made made') :
    Script.Mirrors constants (made? look made) (made? look' made') := by
  unfold made?
  rcases makes.option_cases with ⟨rfl, rfl⟩ | ⟨v, v', rfl, rfl, values⟩
  · exact .none
  · have found := looks values
    dsimp only [Option.map_some]
    generalize look v = part, look' v' = part' at found
    cases found with
    | ok same =>
      dsimp only
      rw [same.isOwn]
      split
      · exact .some same.value
      · exact .none
    | error => exact .none

end Part

namespace Mirrors

theorem held {v v' : Value} (values : Mirrors constants v v') {made made' : Option Value}
    (makes : Mirrors constants made made') : Mirrors constants (Held.mk v made) ⟨v', made'⟩ :=
  natural₂ (f := Held.mk) (fun _ _ _ => rfl) values makes

theorem heldValue {held held' : Held} (h : Mirrors constants held held') :
    Mirrors constants held.value held'.value :=
  h.natural fun _ _ => rfl

theorem heldMade {held held' : Held} (h : Mirrors constants held held') :
    Mirrors constants held.made held'.made :=
  h.natural fun _ _ => rfl

/-! ### Steps -/

theorem property (name : String) {p p' : Position} (places : Mirrors constants p p') (optional : Bool) :
    Mirrors constants (Step.property name p optional) (.property name p' optional) :=
  places.natural (f := (Step.property name · optional)) fun _ _ => rfl

theorem index {key key' : Value} (keys : Mirrors constants key key') {q q' p p' : Position}
    (indexes : Mirrors constants q q') (brackets : Mirrors constants p p') (optional : Bool) :
    Mirrors constants (Step.index key q p optional) (.index key' q' p' optional) :=
  (keys.pair indexes).natural₂ (f := fun a p => Step.index a.1 a.2 p optional) (fun _ _ _ => rfl)
    brackets

theorem method (name : String) {args args' : List Value} (values : Mirrors constants args args')
    {p p' first first' : Position} (places : Mirrors constants p p')
    (firsts : Mirrors constants first first') (optional : Bool) :
    Mirrors constants (Step.method name args p first optional) (.method name args' p' first' optional) :=
  (values.pair places).natural₂ (f := fun a first => Step.method name a.1 a.2 first optional)
    (fun _ _ _ => rfl) firsts

/-- What is done to a part is done to the whole. -/
theorem within {part part' : Part} (parts : part.Mirrors constants part') {p p' : Position}
    (places : Mirrors constants p p') {c c' : Called} (calls : Mirrors constants c c') :
    Mirrors constants (c.within part p) (c'.within part' p') := by
  have place : Mirrors constants (some p) (some p') := .some places
  obtain ⟨value, isOwn, put?⟩ := part
  obtain ⟨value', isOwn', put?'⟩ := part'
  obtain ⟨outcome, target⟩ := c
  obtain ⟨outcome', target'⟩ := c'
  have ends : Mirrors constants outcome outcome' := calls.outcome
  have puts := parts.put?
  rcases calls.target.option_cases with ⟨⟨⟩, ⟨⟩⟩ | ⟨v, v', ⟨⟩, ⟨⟩, values⟩
  · exact .called ends .none
  · cases puts with
    | none => exact .called ends .none
    | some puts =>
      unfold Called.within
      dsimp only
      rcases (puts values).except_cases with ⟨w, w', done, done', wholes⟩ | ⟨e, e', failed, failed', causes⟩
      · rw [done, done']
        exact .called ends (.some wholes)
      · rw [failed, failed']
        dsimp only
        rcases ends.except_cases with ⟨_, _, rfl, rfl, -⟩ | ⟨_, _, rfl, rfl, stops⟩
        · exact .called (.error (.fault (.caused causes place))) .none
        · exact .called (.error stops) .none

end Mirrors

/-! ## Methods by name -/

namespace Eval

/-- Calls a method by its name, where there is no function in an entry of that name. -/
def callMethodByName (ev : Eval) (env : Env) (held : Held) (name : String) (args : List Value)
    (p : Position) : Run Called :=
  match env.functions.find? name args.length with
  | some f => callByName ev env f args (some ⟨held.value, held.made⟩) (some p)
  | none => do
    let called ← callNative ev env name (held.value :: args) (some p)
    if held.made.isSome && called.target.isSome then return .fault (.constantCalled name) p
    return called

theorem callMethod_eq (held : Held) (name : String) (args : List Value) (p : Position) :
    callMethod ev env held name args p =
      match held.value with
      | .object entries =>
        match Entries.get? entries name with
        | some (.function g body cells bound) =>
          callPointer ev env (.function g body cells bound) args (some ⟨held.value, held.made⟩) (some p)
        | _ => callMethodByName ev env held name args p
      | _ => callMethodByName ev env held name args p := by
  obtain ⟨value, made⟩ := held
  unfold callMethod callMethodByName
  dsimp only
  generalize env.functions.find? name args.length = found
  cases value with
  | object entries =>
    dsimp only
    cases Entries.get? entries name with
    | none => cases found <;> rfl
    | some v => cases v <;> cases found <;> rfl
  | _ => cases found <;> rfl

end Eval

namespace Eval.Mirrors

variable (h : Mirrors constants lead ev ev') (w : Script.Mirrors constants env env')

/-! ## Arguments -/

section Arguments

include h w

protected theorem stepOf {link : Link} (plain : link.isPlain constants = true) :
    Run.Alike constants lead ground (stepOf ev env link) (stepOf ev' env' link.bare) := by
  cases link with
  | property name p joint => exact .pure (.property name (.place p) _)
  | index e joint =>
    exact .bind (h.expression w plain) fun keys => .pure (.index keys (.first e) (.place _) _)
  | method name args p joint =>
    refine .bind (h.arguments w plain) fun values => .pure (.method name values (.place p) ?_ _)
    cases args with
    | nil => exact .place p
    | cons e rest => exact .first e

protected theorem stepsOf {links : List Link} (plain : arePlainLinks constants links = true) :
    Run.Alike constants lead ground (stepsOf ev env links) (stepsOf ev' env' (bareLinks links)) := by
  induction links with
  | nil => exact .pure .nil
  | cons link rest ih =>
    obtain ⟨here, others⟩ := Bool.and_eq_true_iff.mp plain
    refine .bind (.tick w (.some ?_)) fun _ => .bind (h.stepOf w here) fun steps => .bind (ih others)
      fun more => .pure (.cons steps more)
    cases rest with
    | nil =>
      cases link with
      | index e joint => exact .pos e
      | _ => exact .place _
    | cons next rest =>
      change Script.Mirrors constants next.joint.pos next.bare.joint.pos
      rw [next.joint_bare]
      exact .place _

protected theorem steps {links : List Link} (plain : arePlainLinks constants links = true) :
    Run.Alike constants lead ground (steps ev env links) (steps ev' env' (bareLinks links)) := by
  have usual : Run.Alike constants lead ground _ _ := h.stepsOf w plain
  rcases links with _ | ⟨link, _ | ⟨next, rest⟩⟩
  · exact usual
  · cases link with
    | property name p joint => exact .pure (.cons (.property name (.place p) _) .nil)
    | method name args p joint =>
      cases args with
      | nil => exact .pure (.cons (.method name .nil (.place p) (.place p) _) .nil)
      | cons e rest => exact usual
    | index e joint =>
      obtain ⟨here, -⟩ := Bool.and_eq_true_iff.mp plain
      unfold steps
      dsimp only [bareLinks, Link.bare]
      rw [e.known?_bare]
      cases known : e.known? with
      | some v =>
        exact .pure (.cons (.index (.literal (Expr.isPlain_known constants here known)) (.first e)
          (.place _) _) .nil)
      | none => exact usual
  · cases link with
    | method name args p joint => cases args <;> exact usual
    | _ => exact usual

end Arguments

/-! ## Methods -/

section Methods

include h w

protected theorem callMethod {held held' : Held} (helds : Script.Mirrors constants held held')
    (name : String) {args args' : List Value} (values : Script.Mirrors constants args args')
    {p p' : Position} (places : Script.Mirrors constants p p') :
    Run.Alike constants lead ground (callMethod ev env held name args p)
      (callMethod ev' env' held' name args' p') := by
  have place : Script.Mirrors constants (some p) (some p') := .some places
  have on : Script.Mirrors constants (some (Receiver.mk held.value held.made))
      (some ⟨held'.value, held'.made⟩) := .some (.receiver helds.heldValue helds.heldMade)
  have byName : Run.Alike constants lead ground (callMethodByName ev env held name args p)
      (callMethodByName ev' env' held' name args' p') := by
    unfold callMethodByName
    rw [values.length_eq]
    rcases (Env.mirrors_find? w name args.length).option_cases with
      ⟨none, none'⟩ | ⟨f, f', some, some', functions⟩
    · rw [none, none']
      refine .bind (h.callNative w name (.cons helds.heldValue values) place) fun calls => ?_
      rw [helds.heldMade.isSome_eq, calls.target.isSome_eq]
      split
      · exact .pure (.refusal (fun _ => rfl) place)
      · exact .pure calls
    · rw [some, some']
      exact h.callByName w place on functions values
  rw [callMethod_eq, callMethod_eq]
  obtain ⟨value, made⟩ := held
  obtain ⟨value', made'⟩ := held'
  cases value with
  | object entries =>
    obtain ⟨entries', rfl, lists⟩ := helds.heldValue.of_object
    have entry : Script.Mirrors constants (Entries.get? entries name) (Entries.get? entries' name) :=
      lists.natural (f := fun entries : Entries => Entries.get? entries name)
        fun c entries => Entries.get?_recast c entries name
    dsimp only
    rcases entry.option_cases with ⟨none, none'⟩ | ⟨v, v', some, some', found⟩
    · rw [none, none']
      exact byName
    · rw [some, some']
      cases v with
      | function g body cells bound =>
        obtain ⟨body', bound', rfl, -, -⟩ := found.of_function
        exact h.callPointer w place found values on
      | _ =>
        obtain rfl := found.bare
        exact byName
  | _ =>
    obtain rfl : value' = recast .bare _ := helds.heldValue.bare
    exact byName

omit h w in
theorem method_eq {name : String} (usual : name ≠ "call" ∧ name ≠ "curry") (held : Held)
    (args : List Value) (p first : Position) :
    Eval.method ev env held name args p first = Eval.callMethod ev env held name args p := by
  unfold Eval.method
  split
  case h_7 => rfl
  all_goals exact absurd rfl (by first | exact usual.1 | exact usual.2)

protected theorem method {held held' : Held} (helds : Script.Mirrors constants held held')
    (name : String) {args args' : List Value} (values : Script.Mirrors constants args args')
    {p p' first first' : Position} (places : Script.Mirrors constants p p')
    (firsts : Script.Mirrors constants first first') :
    Run.Alike constants lead ground (method ev env held name args p first)
      (method ev' env' held' name args' p' first') := by
  have place : Script.Mirrors constants (some p) (some p') := .some places
  have unfit {kind kind' : String} (same : kind' = kind) {p p' : Position}
      (places : Script.Mirrors constants p p') : Run.Alike constants lead ground
        (pure (.fault (.typeMismatch kind "Fn") p) : Run Called)
        (pure (.fault (.typeMismatch kind' "Fn") p')) :=
    same ▸ .pure (.refusal (fun _ => rfl) (.some places))
  by_cases usual : name ≠ "call" ∧ name ≠ "curry"
  · rw [method_eq usual, method_eq usual]
    exact h.callMethod w helds name values places
  · have on := helds.heldValue
    have makes := helds.heldMade
    obtain ⟨value, made⟩ := held
    obtain ⟨value', made'⟩ := held'
    obtain rfl | rfl : name = "call" ∨ name = "curry" := by
      simpa only [not_and_or, not_not] using usual
    · cases value with
      | function g body cells bound =>
        obtain ⟨body', bound', rfl, -, -⟩ := on.of_function
        exact h.callPointer w place on values .none
      | _ =>
        rcases values.list_cases with ⟨rfl, rfl⟩ | ⟨f, f', rest, rest', rfl, rfl, callees, others⟩
        · obtain rfl : value' = recast .bare _ := on.bare
          exact unfit rfl places
        · obtain rfl : value' = recast .bare _ := on.bare
          cases f with
          | function g body cells bound =>
            obtain ⟨body', bound', rfl, -, -⟩ := callees.of_function
            exact h.callPointer w place callees others (.some (.receiver on makes))
          | _ =>
            obtain rfl := callees.bare
            exact unfit rfl firsts
    · cases value with
      | function g body cells bound =>
        obtain ⟨body', bound', rfl, bodies, bounds⟩ := on.of_function
        exact .pure (.answer (.function bodies (bounds.append values)))
      | _ =>
        obtain rfl : value' = recast .bare _ := on.bare
        exact unfit rfl places

end Methods

/-! ## Following a chain -/

section Chains

include w in
theorem tickPart {held held' : Held} (helds : Script.Mirrors constants held held') {step step' : Step}
    (steps : Script.Mirrors constants step step') :
    Run.Alike constants lead ground (Eval.tickPart env held.value step)
      (Eval.tickPart env' held'.value step') := by
  have on := helds.heldValue
  obtain rfl := steps.bare
  generalize held.value = whole, held'.value = whole' at on
  cases step with
  | index key q p optional => exact .tick w .nowhere
  | method name args p first optional => exact .pure (.unit ())
  | property name p optional =>
    obtain rfl := on.bare
    cases whole with
    | object entries => exact .tick w .nowhere
    | _ => exact .tick w (.some (.place p))

variable {onward onward' : Held → Run Called}
  (goesOn : ∀ {held held'}, Script.Mirrors constants held held' →
    Run.Alike constants lead ground (onward held) (onward' held'))

include goesOn

theorem throughPart {held held' : Held} (helds : Script.Mirrors constants held held') {p p' : Position}
    (places : Script.Mirrors constants p p') {look look' : Value → Except Error Part}
    (looks : ∀ {v v'}, Script.Mirrors constants v v' → Part.Alike constants (look v) (look' v')) :
    Run.Alike constants lead ground (Eval.throughPart held onward p look)
      (Eval.throughPart held' onward' p' look') := by
  have found := looks helds.heldValue
  have makes := Part.mirrors_made? looks helds.heldMade
  unfold Eval.throughPart
  generalize look held.value = part, look' held'.value = part' at found
  cases found with
  | ok parts =>
    exact .bind (goesOn (.held parts.value makes)) fun calls => .pure (.within parts places calls)
  | error faults => exact .pure (.called (.error faults.fault) .none)

include w

theorem chainFromVariable (name : String) {q q' : Position} (places : Script.Mirrors constants q q') :
    Run.Alike constants lead ground (Eval.chainFromVariable env name q onward)
      (Eval.chainFromVariable env' name q' onward') := by
  refine .bind (.tick w (.some places)) fun _ => .bind (.lookup? name) fun found => ?_
  rcases found.option_cases with ⟨rfl, rfl⟩ | ⟨x, x', rfl, rfl, same⟩
  · dsimp only
    rcases (Env.mirrors_functionNamed? w name).option_cases with
      ⟨none, none'⟩ | ⟨f, f', some, some', functions⟩
    · rw [none, none']
      exact .fail (fun _ => rfl) (.some places)
    · rw [some, some']
      exact .bind (goesOn (.held functions .none)) fun calls => .finish calls
  · refine .bind .get fun {s s'} states => .bind (goesOn (.held
      (Run.Mirrors.read states (Run.Mirrors.slot same)) (Run.Mirrors.made? states same)))
      fun {c c'} calls => ?_
    have ends : Run.Alike constants lead ground c.finish c'.finish := .finish calls
    rcases calls.target.option_cases with ⟨none, none'⟩ | ⟨v, v', some, some', values⟩
    · rw [none, none']
      exact ends
    · rw [some, some']
      exact .bind (.store name values) fun _ => ends

theorem chainFromThis {q q' : Position} (places : Script.Mirrors constants q q') :
    Run.Alike constants lead ground (Eval.chainFromThis env q onward)
      (Eval.chainFromThis env' q' onward') := by
  refine .bind (.tick w (.some places)) fun _ => .bind .get fun {s s'} states => ?_
  rcases states.this.option_cases with ⟨none, none'⟩ | ⟨this, this', held, held', same⟩
  · rw [none, none']
    exact .fail (fun _ => rfl) (.some places)
  · rw [held, held']
    refine .bind (goesOn (.held same.receiverValue same.receiverMade)) fun {c c'} calls => ?_
    have ends : Run.Alike constants lead ground c.finish c'.finish := .finish calls
    rcases calls.target.option_cases with ⟨none, none'⟩ | ⟨v, v', some, some', values⟩
    · rw [none, none']
      exact ends
    · rw [some, some']
      exact .bind (.setThis states held (.receiver values same.receiverMade)) fun _ => ends

include h

protected theorem enter {held held' : Held} (helds : Script.Mirrors constants held held')
    {step step' : Step} (steps : Script.Mirrors constants step step') :
    Run.Alike constants lead ground (enter ev env held step onward)
      (enter ev' env' held' step' onward') := by
  have optional : step'.optional = step.optional :=
    steps.eq_of fun _ step => by cases step <;> rfl
  have isUnit := helds.heldValue.eq_of Value.isUnit_recast
  unfold enter
  rw [optional, isUnit]
  split
  · exact .pure (.answer (.refl_of fun _ => rfl))
  · refine .bind (tickPart w helds steps) fun _ => ?_
    obtain ⟨rfl, plain⟩ := steps
    cases step with
    | property name p optional =>
      exact throughPart goesOn helds (.place p) fun values => Part.mirrors_named values name (.place p)
    | index key q p optional =>
      have keys : Script.Mirrors constants key (recast .bare key) := ⟨rfl, (Step.index.inj plain).1⟩
      exact throughPart goesOn helds (.place q) fun values =>
        Part.mirrors_atIndex values keys (.place q) (.place p)
    | method name args p first optional =>
      have values : Script.Mirrors constants args (recast .bare args) := ⟨rfl, (Step.method.inj plain).2.1⟩
      refine .bind (h.method w helds name values (.place p) (.place first)) fun {c c'} calls => ?_
      have targets := calls.target
      rcases calls.outcome.except_cases with ⟨v, v', ended, ended', answers⟩ | ⟨stop, stop', ended, ended', -⟩
      · rw [ended, ended']
        exact .bind (goesOn (.held answers .none)) fun further => .pure (.called further.outcome targets)
      · rw [ended, ended']
        exact .pure calls

/-- Goes on from the root of a chain: what a variable or `this` stands for may change. -/
protected theorem fromRoot {root : Expr} (plain : root.isPlain constants = true) :
    Run.Alike constants lead ground
      (match root with
        | .variable name q => Eval.chainFromVariable env name q onward
        | .this q => Eval.chainFromThis env q onward
        | root => do (← onward ⟨← Eval.expression ev env root, none⟩).finish)
      (match root.bare with
        | .variable name q => Eval.chainFromVariable env' name q onward'
        | .this q => Eval.chainFromThis env' q onward'
        | root => do (← onward' ⟨← Eval.expression ev' env' root, none⟩).finish) := by
  have usual : Run.Alike constants lead ground
      (do (← onward ⟨← Eval.expression ev env root, none⟩).finish)
      (do (← onward' ⟨← Eval.expression ev' env' root.bare, none⟩).finish) :=
    .bind (h.expression w plain) fun values =>
      .bind (goesOn (.held values .none)) fun calls => .finish calls
  split
  · exact chainFromVariable w goesOn _ (.place _)
  · exact chainFromThis w goesOn (.place _)
  · next notVariable notThis =>
    cases root <;> first
      | exact (notVariable _ _ rfl).elim
      | exact (notThis _ rfl).elim
      | exact usual

end Chains

include h w

protected theorem follow {held held' : Held} (helds : Script.Mirrors constants held held')
    {steps steps' : List Step} (same : Script.Mirrors constants steps steps') :
    Run.Alike constants lead ground (follow ev env held steps) (follow ev' env' held' steps') := by
  induction steps generalizing held held' steps' with
  | nil =>
    obtain rfl : steps' = [] := same.bare
    exact .pure (.answer helds.heldValue)
  | cons step rest ih =>
    obtain ⟨⟨⟩, -⟩ | ⟨_, step', _, rest', ⟨⟩, rfl, first, others⟩ := same.list_cases
    exact .guard (h.enter w (fun helds => ih helds others) helds first)

protected theorem chain {root : Expr} {links : List Link}
    (plain : (Expr.chain root links).isPlain constants = true) :
    Run.Alike constants lead ground (chain ev env root links)
      (chain ev' env' root.bare (bareLinks links)) := by
  obtain ⟨rootPlain, linksPlain⟩ := Bool.and_eq_true_iff.mp plain
  refine .bind (.tick w (.some (.pos (.chain root links)))) fun _ =>
    .bind (h.steps w linksPlain) fun {steps steps'} same => ?_
  have goesOn {held held' : Held} (helds : Script.Mirrors constants held held') :
      Run.Alike constants lead ground (follow ev env held steps) (follow ev' env' held' steps') :=
    h.follow w helds same
  exact h.fromRoot w goesOn rootPlain

end Eval.Mirrors

end ScriptGate.Script
