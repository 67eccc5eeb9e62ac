import Mathlib
import ScriptGate.Host.Script
import ScriptGate.Proofs.Script.Split.Look
import ScriptGate.Proofs.Script.Split.Statement

/-!
# Sources that are split

A source may be split between two of its statements, and the parts be evaluated one after the other
(`ScriptHost.split_alike`).
-/

namespace ScriptGate

namespace Script

/-! ## Reading what is left -/

namespace Tree

open Parse

/-- What is seen of a script after so many more steps, and the parser then; none if the script ends before. -/
def after (r : Rules) : Nat → List Statement → Reading → Option (List Statement × Reading)
  | 0, seen, s => some (seen, s)
  | n + 1, seen, s =>
    match step r seen s with
    | .ok (.again seen, s) => after r n seen s
    | _ => none

/-- A script that is read to its end is read to its end from wherever its reading comes by. -/
theorem repeatFor_of_after {r : Rules} {n : Nat} {seen seen' : List Statement} {s s' : Reading}
    (between : after r n seen s = some (seen', s')) {fuel : Nat} {result : List Statement × Reading}
    (read : repeatFor (step r) fuel seen s = .ok result) :
    ∃ fuel', repeatFor (step r) fuel' seen' s' = .ok result := by
  induction n generalizing seen s fuel with
  | zero =>
    cases between
    exact ⟨fuel, read⟩
  | succ n ih =>
    cases fuel with
    | zero => exact (Together.spent_stops read).elim
    | succ fuel =>
      obtain ⟨turn, t, first, further⟩ := exists_of_bind read
      unfold after at between
      rw [first] at between
      cases turn with
      | again seen => exact ih between further
      | done => cases between

/-- The top of a script reads the same in two places, if the rules for statements do. -/
theorem together_step {known : List String} {r r' r'' : Rules} (h : r.Together known r' r'')
    (seen seen' : List Statement) : Parse.Together known (Turn.Beside Any Any)
      (step r seen) (step r' seen') (step r'' seen) := by
  refine .peek_cases fun token p p' m' there => ?_
  dsimp only at there ⊢
  split
  · subst there
    exact .done trivial
  · next notEnd =>
    split at there
    · exact (notEnd rfl).elim
    · subst there
      refine .bind (h.statement ⟨rfl, rfl, rfl, rfl, rfl⟩) fun {found found'} same => ?_
      cases same with
      | none => exact .again trivial
      | some closes =>
        refine .peek_cases fun token p p' m' there => ?_
        split
        · next same =>
          cases same
          subst there
          exact .again trivial
        · next notEnd =>
          split at there
          · next same =>
            cases same
            exact (notEnd _ rfl).elim
          · subst there
            rw [closes]
            split
            · exact .again trivial
            · split
              · next same =>
                cases same
                exact .bind .skip fun _ => .again trivial
              · exact .missing _ _ _

/-- What a source is read as, and which functions it defines. -/
theorem parse_eq_ok {g : Grammar} {maxText : Nat} {source : String} {script : Tree} :
    parse g maxText source = .ok script ↔
      ∃ s, statements (.ofGrammar g (4 * (Token.scan maxText source).1.length + 8))
          ⟨(Token.scan maxText source).1, (Token.scan maxText source).2, ⟨[], []⟩, []⟩ =
            .ok (script.body, s) ∧ script.functions = s.functions := by
  unfold parse StateT.run
  dsimp only
  split
  · next body state read =>
    constructor
    · rintro ⟨⟩
      exact ⟨state, read, rfl⟩
    · rintro ⟨_, same, functions⟩
      rw [read] at same
      cases same
      cases script
      cases functions
      rfl
  · next cause stops =>
    refine ⟨(nomatch ·), ?_⟩
    rintro ⟨_, read, -⟩
    rw [stops] at read
    cases read

end Tree

/-! ## Engines that read what is left -/

namespace Engine

/-- How an engine reads a source of that length. -/
def grammar (length : Nat) (e : Engine) : Grammar :=
  ⟨e.settings.maxExprDepth, e.settings.maxCollectionLen, e.scope.map Variable.name, e.simplify length⟩

/-- Where an engine begins to read a source. -/
def reading (source : String) (e : Engine) : Reading :=
  ⟨(Token.scan e.settings.maxStringLen source).1, (Token.scan e.settings.maxStringLen source).2,
    ⟨[], []⟩, []⟩

/-- The rules by which an engine reads a source. -/
def rules (source : String) (e : Engine) : Rules :=
  .ofGrammar (e.grammar source.length) (4 * (e.reading source).rest.length + 8)

/-- Whether a source can be read by itself, if only the names that it uses are known. -/
def Reads (source : String) (e : Engine) : Prop :=
  ∃ known script, Tree.parse ((e.grammar source.length).knowing known) e.settings.maxStringLen source =
    .ok script

/-- Whether the second source is what is left of the first one between two of its statements, where no
functions are known and of the names that the source defines only these. -/
def Leaves (names : List String) (whole rest : String) (e : Engine) : Prop :=
  ∃ n seen s, Tree.after (e.rules whole) n [] (e.reading whole) = some (seen, s) ∧
    s.rest.map Prod.fst = (e.reading rest).rest.map Prod.fst ∧ s.functions = [] ∧
      ∀ x ∈ s.frame.names, x.1 ∈ names

/-- What is left of a source is understood where the variables are there that the source defined and had
before. -/
theorem compile_of_leaves {e later : Engine} (settings : later.settings = e.settings)
    {names : List String} {whole rest : String} {body : List Statement}
    (read : e.compile whole = .ok ⟨body, []⟩) (left : e.Leaves names whole rest)
    (there : ∀ name ∈ names ++ e.scope.map Variable.name, name ∈ later.scope.map Variable.name)
    (reads : later.Reads rest) : ∃ body', later.compile rest = .ok ⟨body', []⟩ := by
  obtain ⟨tree, parsed, compiled⟩ := compile_eq_ok.mp read
  obtain ⟨s, statements, functions⟩ := Tree.parse_eq_ok.mp parsed
  obtain ⟨n, seen, between, passes, same, noFunctions, known⟩ := left
  obtain ⟨names', tree', parsed'⟩ := reads
  obtain ⟨s', statements', functions'⟩ := Tree.parse_eq_ok.mp parsed'
  have noneDefined : s.functions = [] := by
    rw [← functions]
    exact List.map_eq_nil_iff.mp (Tree.mk.inj compiled).2.symm
  obtain ⟨_, rest'⟩ := Tree.repeatFor_of_after passes statements
  have beside : Reading.Beside (later.scope.map Variable.name) (some between.frame.names)
      (later.reading rest) between := by
    refine ⟨?_, rfl, fun none => (nomatch none), ?_, fun x inside => ?_⟩
    · unfold reading
      rw [settings]
      exact same
    · rw [noFunctions]
      rfl
    · exact there _ (List.mem_append_left _ (known x inside))
  have fewer : ∀ name ∈ (e.grammar whole.length).known, name ∈ later.scope.map Variable.name :=
    fun name inside => there name (List.mem_append_right _ inside)
  have rules := Rules.together_ofGrammar (g := (later.grammar rest.length).knowing names') fewer
    (4 * (later.reading rest).rest.length + 8) (4 * (e.reading whole).rest.length + 8)
  obtain ⟨understood, -, further⟩ :=
    (Parse.Together.repeatFor (R := Parse.Any) (S := Parse.Any)
      (fun _ => Tree.together_step rules _ _) _ _ trivial).same beside statements' rest'
  refine ⟨_, compile_eq_ok.mpr ⟨⟨tree'.body, []⟩, Tree.parse_eq_ok.mpr ⟨s', understood, ?_⟩, rfl⟩⟩
  have none := further.functions
  rw [noneDefined] at none
  exact (List.map_eq_nil_iff.mp none.symm).symm

/-! ## Splitting -/

/-- A source that is split between two of its statements. The engine understands the first part by itself
as it understands it within the whole, up to places and but for a value at its end, and so it does the
second part afterwards if that is understood. Neither they nor what the engine knows catch faults under
a name or read constants of the run, unless that is allowed and the first part leaves none. The first part
does not end early by itself, nor with a fault of the value at its end. The second part does something, and
the whole exceeds no limit. -/
structure Splits (constants : Bool) (a a' b : List Statement) (values : List Expr)
    (whole first second : String) (e : Engine) : Prop where
  understood : e.compile whole = .ok ⟨a ++ b, []⟩
  understoodFirst : e.compile first = .ok ⟨a' ++ values.map .expression, []⟩
  sameFirst : bareBody a' = bareBody a
  looks : ∀ x ∈ values, x.isLook = true
  valued : values = [] ∨ ∃ u, (e.evaluate first).answer = .ok u
  left : e.Leaves (definedNames a) whole second
  reads : (e.evaluate first).state.Reads second
  sameSecond : ∀ b', (e.evaluate first).state.compile second = .ok ⟨b', []⟩ → bareBody b' = bareBody b
  more : b ≠ []
  plain : Plain constants e
  plainBody : isPlainBody constants (a ++ b) = true
  through : e.RunsThrough a'
  unshared : constants = true → e.constantsAfter a' = []
  calm : ¬ e.RunExceeds ⟨a ++ b, []⟩

section Compiled

variable {source : String} {script : Tree} {e : Engine} (read : e.compile source = .ok script)

include read

theorem evaluate_of_compile :
    e.evaluate source = (e.run script).map fun result => result.mapError Error.message := by
  unfold evaluate
  rw [read]

theorem state_of_compile : (e.evaluate source).state = (e.run script).state := by
  rw [evaluate_of_compile read]
  rfl

theorem answer_eq_ok {v : Value} :
    (e.evaluate source).answer = .ok v ↔ (e.run script).answer = .ok v := by
  rw [evaluate_of_compile read]
  change (e.run script).answer.mapError Error.message = .ok v ↔ _
  cases (e.run script).answer with
  | ok w => exact ⟨fun same => congrArg Except.ok (Except.ok.inj same),
      fun same => congrArg Except.ok (Except.ok.inj same)⟩
  | error cause => exact ⟨(nomatch ·), (nomatch ·)⟩

end Compiled

/-- If a source succeeds that is split, then so do its parts one after the other, with the same result and
the same engine in the end up to places. -/
theorem evaluate_parts {constants : Bool} {a a' b : List Statement} {values : List Expr}
    {whole first second : String} {e : Engine}
    (splits : e.Splits constants a a' b values whole first second) {v : Value}
    (succeeds : (e.evaluate whole).answer = .ok v) :
    let between := (e.evaluate first).state
    (∃ u, (e.evaluate first).answer = .ok u) ∧
      (∃ w, (between.evaluate second).answer = .ok w ∧ recast .bare w = recast .bare v) ∧
      recast .bare (between.evaluate second).state = recast .bare (e.evaluate whole).state := by
  intro between
  have valued : values = [] ∨
      ∃ u, (e.run ⟨a' ++ values.map .expression, []⟩).answer = .ok u :=
    splits.valued.imp_right (Exists.imp fun _ => (answer_eq_ok splits.understoodFirst).mp)
  have state : between = (e.run ⟨a', []⟩).state :=
    (state_of_compile splits.understoodFirst).trans (run_looking splits.looks valued)
  have settings : between.settings = e.settings := (e.evaluate_limits first).1
  -- Whatever the second part is understood as, it runs as it does within the whole.
  have parts {b' : List Statement} (same : bareBody b' = bareBody b) :=
    run_append splits.plain splits.sameFirst same splits.plainBody splits.more splits.through
      splits.unshared splits.calm ((answer_eq_ok splits.understood).mp succeeds)
  have there : ∀ name ∈ definedNames a ++ e.scope.map Variable.name,
      name ∈ between.scope.map Variable.name := by
    rw [state]
    exact (parts rfl).2.1
  obtain ⟨b', understood⟩ :=
    compile_of_leaves settings splits.understood splits.left there splits.reads
  obtain ⟨⟨u, first⟩, -, ⟨w, second, same⟩, left⟩ := parts (splits.sameSecond b' understood)
  rw [← state] at second left
  refine ⟨?_, ⟨w, (answer_eq_ok understood).mpr second, same⟩, ?_⟩
  · rcases splits.valued with none | valued
    · have understoodFirst := splits.understoodFirst
      rw [none, List.map_nil, List.append_nil] at understoodFirst
      exact ⟨u, (answer_eq_ok understoodFirst).mpr first⟩
    · exact valued
  · rw [state_of_compile understood, state_of_compile splits.understood]
    exact left

end Engine

/-- Values that are the same but for places are answered by the same text. -/
theorem Value.answerText_recast (c : Recast) (v : Value) : (recast c v).answerText = v.answerText := by
  unfold answerText
  rw [isUnit_recast, toJson_recast, fullKind_recast]

end Script

namespace ScriptHost

open Script

/-- The definition of a variable. -/
def forty : List Statement := [.define "x" false (some (.literal (.integer 40) ⟨1, 9⟩)) ⟨1, 1⟩]

/-- A sum that stands at a column of a text. -/
def twoMore (column : Nat) : List Statement :=
  [.expression (.binary .add (.variable "x" ⟨1, column⟩) (.literal (.integer 2) ⟨1, column + 4⟩)
    ⟨1, column + 2⟩)]

/-- What the variable is at the end of the text that defines it. -/
def shown : List Expr := [.variable "x" ⟨1, 13⟩]

set_option maxRecDepth 20000 in
/-- The sources are understood as those statements, and the second one is left of the whole after the
definition and the value. -/
theorem splits_forty : (Engine.new .standard).Splits false forty forty (twoMore 16) shown
    "let x = 40; x; x + 2" "let x = 40; x" "x + 2" := by
  have first : (Engine.new .standard).compile "let x = 40; x" =
      .ok ⟨forty ++ shown.map .expression, []⟩ := by
    cbv
  have between : ((Engine.new .standard).evaluate "let x = 40; x").state =
      { Engine.new .standard with scope := [⟨"x", .own (.integer 40), none⟩] } := by
    rw [Engine.state_of_compile first]
    cbv
  have second : ({ Engine.new .standard with
      scope := [⟨"x", .own (.integer 40), none⟩] } : Engine).compile "x + 2" = .ok ⟨twoMore 1, []⟩ := by
    cbv
  exact {
    understood := by cbv
    understoodFirst := first
    sameFirst := rfl
    looks := by decide
    valued := .inr ⟨.integer 40, (Engine.answer_eq_ok first).mpr (by cbv)⟩
    left :=
      let whole := (Engine.new .standard).reading "let x = 40; x; x + 2"
      ⟨2, shown.map .expression ++ forty, ⟨whole.rest.drop 7, whole.stop, ⟨[("x", false)], []⟩, []⟩,
        by cbv, by cbv, rfl, by decide⟩
    reads := by
      rw [between]
      exact ⟨["x"], ⟨twoMore 1, []⟩, by cbv⟩
    sameSecond := fun b' understood => by
      rw [between, second] at understood
      cases understood
      rfl
    more := List.cons_ne_nil _ _
    plain := Engine.plain_new false .standard
    plainBody := by decide
    through := by decide +kernel
    unshared := fun shared => absurd shared Bool.false_ne_true
    calm := by decide +kernel }

/-- What sources result in one after the other; nothing for one that ends in a fault. -/
def results : List String → ScriptHost → List (Option String)
  | [], _ => []
  | source :: rest, h =>
    (h.run source).answer.toOption.map Value.answerText :: results rest (h.evaluate source).state

end ScriptHost

end ScriptGate
