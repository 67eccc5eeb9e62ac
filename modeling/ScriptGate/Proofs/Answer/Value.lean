import ScriptGate.Bridge
import ScriptGate.Host.Script
import ScriptGate.Proofs.Json.Codec

/-!
# How the value of a script is answered

A script value with a JSON form is answered as the JSON text of that form, which a bridge then has
to read again. Writing knows no depth and reading does, so the value arrives exactly if its form
is nested at most 127 deep (`Bridge.delivered_of_ends`). A script can build a value beyond that,
and such a value arrives as a fault whose text is the JSON text of the value
(`Bridge.deep_list_is_fault`).
-/

namespace ScriptGate

open Json (Value)

/-! ## JSON forms -/

namespace Script.Value

mutual

/-- The JSON form of a value has its members in order. -/
theorem toJson_isOrdered : ∀ (x : Script.Value) (j : Json.Value), x.toJson = .ok j →
    j.isOrdered = true
  | .unit, _, rfl | .boolean _, _, rfl | .integer _, _, rfl | .double _, _, rfl
  | .character _, _, rfl | .text _, _, rfl | .byte _, _, rfl => rfl
  | .array items, j, form => by
    rw [toJson] at form
    cases forms : itemsToJson items with
    | error e => rw [forms] at form; cases form
    | ok js =>
      rw [forms] at form
      cases form
      exact Json.Value.itemsOrdered_iff.mpr (itemsToJson_isOrdered items js forms)
  | .object entries, j, form => by
    rw [toJson] at form
    cases forms : entriesToJson entries with
    | error e => rw [forms] at form; cases form
    | ok members =>
      rw [forms] at form
      cases form
      have inside := entriesToJson_isOrdered entries members forms
      simp only [Json.Value.isOrdered, Bool.and_eq_true, decide_eq_true_eq]
      exact ⟨Json.Members.ascending_ofList members, Json.Value.membersOrdered_iff.mpr
        fun m found => inside m (Json.Members.mem_of_mem_ofList found)⟩
  | .range _ _ false, _, form | .range _ _ true, _, form | .blob _, _, form
  | .timestamp, _, form | .function .., _, form => by
    cases form

theorem itemsToJson_isOrdered : ∀ (items : List Script.Value) (js : List Json.Value),
    itemsToJson items = .ok js → ∀ j ∈ js, j.isOrdered = true
  | [], js, forms => by
    cases forms
    exact fun _ found => absurd found List.not_mem_nil
  | item :: rest, js, forms => by
    rw [itemsToJson] at forms
    cases first : item.toJson with
    | error e => rw [first] at forms; cases forms
    | ok j =>
      cases others : itemsToJson rest with
      | error e => rw [first, others] at forms; cases forms
      | ok more =>
        rw [first, others] at forms
        cases forms
        exact List.forall_mem_cons.mpr
          ⟨toJson_isOrdered item j first, itemsToJson_isOrdered rest more others⟩

theorem entriesToJson_isOrdered : ∀ (entries : List (String × Script.Value))
    (members : Json.Members), entriesToJson entries = .ok members →
      ∀ m ∈ members, m.2.isOrdered = true
  | [], members, forms => by
    cases forms
    exact fun _ found => absurd found List.not_mem_nil
  | (name, value) :: rest, members, forms => by
    rw [entriesToJson] at forms
    cases first : value.toJson with
    | error e => rw [first] at forms; cases forms
    | ok j =>
      cases others : entriesToJson rest with
      | error e => rw [first, others] at forms; cases forms
      | ok more =>
        rw [first, others] at forms
        cases forms
        exact List.forall_mem_cons.mpr
          ⟨toJson_isOrdered value j first, entriesToJson_isOrdered rest more others⟩

end

end Script.Value

/-! ## Classifying written values -/

namespace Outcome

/-- No value is written as the sentinel. -/
theorem render_ne_noValue {j : Value} (exact : j.isExact = true) (ordered : j.isOrdered = true) :
    j.render ≠ noValue := by
  intro same
  have start : noValue.toList = 'u' :: "ndefined".toList := by rfl
  obtain ⟨line, column, refused⟩ := Json.read_of_not_beginsValue start (by decide) (by decide)
  by_cases fits : j.depth ≤ Json.Reader.maxDepth
  · rw [← same, Json.read_render exact ordered fits] at refused
    cases refused
  · obtain ⟨line, column, tooDeep⟩ := Json.read_render_tooDeep exact ordered (Nat.not_le.mp fits)
    rw [← same, tooDeep] at refused
    cases refused

theorem classify_render {j : Value} (exact : j.isExact = true) (ordered : j.isOrdered = true)
    (fits : j.depth ≤ Json.Reader.maxDepth) : classify j.render = .value j := by
  rw [classify, if_neg (render_ne_noValue exact ordered), Json.read?_render exact ordered fits]

theorem classify_render_tooDeep {j : Value} (exact : j.isExact = true)
    (ordered : j.isOrdered = true) (deep : Json.Reader.maxDepth < j.depth) :
    classify j.render = .fault j.render := by
  rw [classify, if_neg (render_ne_noValue exact ordered),
    Json.read?_render_tooDeep exact ordered deep]

end Outcome

/-! ## What arrives -/

/-- What a requester is told when a script ends with the value `x`. -/
structure Delivered (x : Script.Value) (answer : Except Fault Value) : Prop where
  /-- The unit value is null. -/
  unit : x.isUnit = true → answer = .ok .null
  /-- Any other value arrives as its JSON form exactly if that is not nested too deep for the
  reader. -/
  value : ∀ j, x.isUnit = false → x.toJson = .ok j → j.isExact = true →
    (answer = .ok j ↔ j.depth ≤ 127)
  /-- A value that is nested too deep arrives as a fault that tells its JSON text. -/
  tooDeep : ∀ j, x.isUnit = false → x.toJson = .ok j → j.isExact = true → 127 < j.depth →
    answer = .error (.script j.render)

theorem answerText_eq_render {x : Script.Value} {j : Value} (notUnit : x.isUnit = false)
    (form : x.toJson = .ok j) : x.answerText = j.render := by
  rw [Script.Value.answerText, notUnit, form]
  rfl

theorem delivered_classify (x : Script.Value) :
    Delivered x (Outcome.classify x.answerText).result := by
  have tooDeep : ∀ j, x.isUnit = false → x.toJson = .ok j → j.isExact = true → 127 < j.depth →
      (Outcome.classify x.answerText).result = .error (.script j.render) := by
    intro j notUnit form exact deep
    rw [answerText_eq_render notUnit form,
      Outcome.classify_render_tooDeep exact (Script.Value.toJson_isOrdered x j form) deep]
    rfl
  refine ⟨fun unit => ?_, fun j notUnit form exact => ⟨fun arrives => ?_, fun fits => ?_⟩, tooDeep⟩
  · rw [Script.Value.answerText, if_pos unit, Outcome.classify, if_pos rfl]
    rfl
  · refine Nat.not_lt.mp fun deep => ?_
    rw [tooDeep j notUnit form exact deep] at arrives
    cases arrives
  · rw [answerText_eq_render notUnit form,
      Outcome.classify_render exact (Script.Value.toJson_isOrdered x j form) fits]
    rfl

/-- Whatever came before, the value in which a source or a call ends arrives at the requester as its
JSON form exactly if that is nested at most 127 deep, and else as a fault. -/
theorem Bridge.delivered_of_ends (b : Bridge ScriptHost) (x : Script.Value) :
    (∀ source, (b.host.run source).answer = .ok x → Delivered x (b.evaluate source).answer) ∧
      ∀ name args, (b.host.call name (Json.renderList args)).answer = .ok x →
        Delivered x (b.invoke name args).answer := by
  have delivered {answer : Except String Script.Value} (ends : answer = .ok x) :
      Delivered x (Outcome.classify (ScriptHost.answerText answer)).result := by
    rw [ends]
    exact delivered_classify x
  exact ⟨fun source ends => delivered ends, fun name args ends => delivered ends⟩

/-- What is known of a run, if its result has been computed as far as its form: that it is not the
unit value, that its form is exact, and how deep that is. -/
theorem exists_of_computed (ended : Except String Script.Value) (d : Nat)
    (computed : (ended.toOption.bind fun x => x.toJson.toOption.map fun j =>
      (x.isUnit, j.isExact, j.depth)) = some (false, true, d)) :
    ∃ x j, ended = .ok x ∧ x.isUnit = false ∧ x.toJson = .ok j ∧ j.isExact = true ∧
      j.depth = d := by
  cases ended with
  | error text => cases computed
  | ok x =>
    cases form : x.toJson with
    | error e => simp [form, Except.toOption] at computed
    | ok j =>
      simp only [form, Except.toOption, Option.bind_some, Option.map_some, Option.some.injEq,
        Prod.mk.injEq] at computed
      obtain ⟨notUnit, exact, deep⟩ := computed
      exact ⟨x, j, rfl, notUnit, form, exact, deep⟩

/-- A list inside 127 others is a value like any other to a script, and a fault to the requester. -/
theorem Bridge.deep_list_is_fault :
    ∃ x j, ((ScriptHost.new .standard .versionFour).run
        "let a = []; for i in 0..127 \x7b a = [a]; \x7d a").answer = .ok x ∧
      x.isUnit = false ∧ x.toJson = .ok j ∧ j.isExact = true ∧
      ((Bridge.ofHost (ScriptHost.new .standard .versionFour)).evaluate
        "let a = []; for i in 0..127 \x7b a = [a]; \x7d a").answer = .error (.script j.render) := by
  obtain ⟨x, j, value, notUnit, form, exact, deep⟩ := exists_of_computed
    ((ScriptHost.new .standard .versionFour).run
      "let a = []; for i in 0..127 \x7b a = [a]; \x7d a").answer 128 (by decide +kernel)
  have delivered := (Bridge.ofHost (ScriptHost.new .standard .versionFour)).delivered_of_ends x
  have fault := (delivered.1 _ value).tooDeep j notUnit form exact (by omega)
  exact ⟨x, j, value, notUnit, form, exact, fault⟩

end ScriptGate
