import Mathlib.Data.List.Nodup
import ScriptGate.Proofs.CommandLine.Source
import ScriptGate.Proofs.Json.Grammar.Value
import ScriptGate.Proofs.Request.Checks

/-!
# How a line is spelled

A line can spell one object in many ways, and many objects ask for the same. All that counts is what the
members of the line bind to the operation and to the fields of that operation (`BindAlike`): lines that
bind them alike are dealt with alike, by every bridge (`Bridge.handleLine_spelling`). In what order the
members stand (`BindAlike.of_perm`), what stands in front of another member of the same name
(`BindAlike.earlier`), and members of other names (`BindAlike.other`) are of no account.
-/

namespace ScriptGate

open Json (HoldsObject Members Value)

/-! ## What members bind -/

namespace Json.Members

variable {written written' before after : List (String × Value)} {name : String} {v : Value}

/-- Of members that all have names of their own, each binds its name. -/
theorem last?_eq_some_iff (distinct : (written.map Prod.fst).Nodup) :
    last? written name = some v ↔ (name, v) ∈ written := by
  have found {members : Members} (distinct : (members.map Prod.fst).Nodup) :
      get? members name = some v ↔ (name, v) ∈ members := by
    induction members with
    | nil => simp [get?]
    | cons m members ih =>
      obtain ⟨other, w⟩ := m
      obtain ⟨first, others⟩ := List.nodup_cons.mp distinct
      by_cases same : other = name
      · subst same
        have single : ∀ w, (other, w) ∉ members := fun w found =>
          first (List.mem_map.mpr ⟨_, found, rfl⟩)
        simp [get?_cons_self, single, eq_comm]
      · rw [get?_cons_of_ne same, ih others]
        simp [Ne.symm same]
  have turned : (written.reverse.map Prod.fst).Nodup := by
    rw [List.map_reverse]
    exact List.nodup_reverse.mpr distinct
  rw [last?, found turned, List.mem_reverse]

/-- The order of members that all have names of their own does not matter. -/
theorem last?_perm (distinct : (written.map Prod.fst).Nodup) (reordered : written'.Perm written)
    (name : String) : last? written' name = last? written name := by
  have distinct' : (written'.map Prod.fst).Nodup := (reordered.map Prod.fst).nodup_iff.mpr distinct
  refine Option.ext fun v => ?_
  rw [last?_eq_some_iff distinct, last?_eq_some_iff distinct', reordered.mem_iff]

/-- What stands in front of another member of the same name does not matter. -/
theorem last?_earlier (again : name ∈ after.map Prod.fst) (v : Value) (other : String) :
    last? (before ++ (name, v) :: after) other = last? (before ++ after) other := by
  by_cases same : name = other
  · subst same
    have found : (after.reverse.find? fun m => m.1 = name).isSome = true := by
      obtain ⟨m, here, named⟩ := List.mem_map.mp again
      rw [List.find?_isSome]
      exact ⟨m, List.mem_reverse.mpr here, by simp [named]⟩
    obtain ⟨m, first⟩ := Option.isSome_iff_exists.mp found
    simp [last?, get?, List.find?_append, first]
  · exact last?_append_cons_of_ne same v

end Json.Members

/-- Whether members bind the same to the operation, and to the fields that this operation reads. -/
def BindAlike (written written' : List (String × Value)) : Prop :=
  Members.last? written' "op" = Members.last? written "op" ∧
    ∀ op, Members.last? written "op" = some (.text op) → ∀ field ∈ Request.fieldsOf op,
      Members.last? written' field.1 = Members.last? written field.1

namespace BindAlike

variable {written written' before after : List (String × Value)} {name : String}

theorem of_last?_eq (same : ∀ name, Members.last? written' name = Members.last? written name) :
    BindAlike written written' :=
  ⟨same "op", fun _ _ field _ => same field.1⟩

theorem of_perm (distinct : (written.map Prod.fst).Nodup) (reordered : written'.Perm written) :
    BindAlike written written' :=
  of_last?_eq (Members.last?_perm distinct reordered)

theorem earlier (again : name ∈ after.map Prod.fst) (v : Value) :
    BindAlike (before ++ after) (before ++ (name, v) :: after) :=
  of_last?_eq (Members.last?_earlier again v)

theorem other (op : name ≠ "op")
    (unread : ∀ op, Members.last? (before ++ after) "op" = some (.text op) →
      ∀ field ∈ Request.fieldsOf op, name ≠ field.1) (v : Value) :
    BindAlike (before ++ after) (before ++ (name, v) :: after) :=
  ⟨Members.last?_append_cons_of_ne op v, fun op named field read =>
    Members.last?_append_cons_of_ne (unread op named field read) v⟩

end BindAlike

/-! ## Lines -/

section Lines

variable {line line' : String} {written written' : List (String × Value)}

/-- Just the lines that hold members are read as objects. -/
theorem read?_eq_some_object_iff {fields : Members} :
    Json.read? line = some (.object fields) ↔
      ∃ written, HoldsObject 126 line written ∧ Members.ofList written = fields := by
  rw [Json.read?_eq_some_iff_holdsValue]
  exact Json.holdsValue_object_iff

/-- What a line asks for is up to its members. -/
theorem ofLine_of_holdsObject (holds : HoldsObject 126 line written) :
    Request.ofLine line =
      match (Members.last? written "op").bind Value.text? with
      | none => .error (.argument "op" "op not text")
      | some op => Request.ofParams op (.object (Members.ofList written)) := by
  have found := Json.read?_eq_some_iff.mp (read?_eq_some_object_iff.mpr ⟨written, holds, rfl⟩)
  have bound : (Value.object (Members.ofList written)).member? "op" = Members.last? written "op" :=
    Members.get?_ofList written "op"
  cases named : (Members.last? written "op").bind Value.text? with
  | none => simp only [Request.ofLine, found, bound, named]
  | some op =>
    rw [← bound] at named
    exact Request.ofLine_of_read found named

/-- Lines that bind alike make one request, or are refused for one fault. -/
theorem ofLine_spelling (holds : HoldsObject 126 line written) (holds' : HoldsObject 126 line' written')
    (alike : BindAlike written written') : Request.ofLine line' = Request.ofLine line := by
  obtain ⟨sameOp, sameFields⟩ := alike
  rw [ofLine_of_holdsObject holds, ofLine_of_holdsObject holds', sameOp]
  cases named : (Members.last? written "op").bind Value.text? with
  | none => rfl
  | some op =>
    obtain ⟨v, found, text⟩ := Option.bind_eq_some_iff.mp named
    have spelled : Members.last? written "op" = some (.text op) := by
      rw [found, Json.Value.text?_eq_some_iff.mp text]
    refine Request.ofParams_congr rfl rfl fun field read => ?_
    rw [Value.member?, Value.member?, Members.get?_ofList, Members.get?_ofList]
    exact sameFields op spelled field read

end Lines

/-- Lines that are objects and bind the same to the operation and to the fields that it reads are dealt
with alike: with one result, the same calls of the host and the same bridge afterwards. So neither
the order of the members counts, nor what stands in front of another member of its name, nor members that
the operation does not read. -/
theorem Bridge.handleLine_spelling {H : Type} [Host H] (b : Bridge H) :
    (∀ line, (∃ fields, Json.read? line = some (.object fields)) ↔
      ∃ written, HoldsObject 126 line written) ∧
    ∀ line line' written written', HoldsObject 126 line written → HoldsObject 126 line' written' →
      BindAlike written written' →
        b.handleLine line' = b.handleLine line ∧ b.callsOfLine line' = b.callsOfLine line := by
  refine ⟨fun line => ⟨?_, ?_⟩, ?_⟩
  · rintro ⟨fields, found⟩
    obtain ⟨written, holds, -⟩ := read?_eq_some_object_iff.mp found
    exact ⟨written, holds⟩
  · rintro ⟨written, holds⟩
    exact ⟨_, read?_eq_some_object_iff.mpr ⟨written, holds, rfl⟩⟩
  intro line line' written written' holds holds' alike
  have same := ofLine_spelling holds holds' alike
  have turn {H : Type} [Host H] (b : Bridge H) : b.handleLine line' = b.handleLine line := by
    rw [handleLine_eq, handleLine_eq, same]
  exact ⟨turn b, congrArg (fun t => t.state.host.calls) (turn b.watched)⟩

/-- A line that carries a source has members that bind it. -/
theorem Carries.exists_written {line source : String} (carries : Carries line source) :
    ∃ written, HoldsObject 126 line written ∧
      Members.last? written "op" = some (.text "evaluate") ∧
      Members.last? written "source" = some (.text source) := by
  obtain ⟨params, found, named, carried⟩ := carries
  cases params with
  | object fields =>
    obtain ⟨written, holds, rfl⟩ := read?_eq_some_object_iff.mp found
    rw [Value.member?, Members.get?_ofList] at named carried
    exact ⟨written, holds, named, carried⟩
  | null | boolean | number | text | list => cases named

/-- One evaluation is asked for plainly and, in another order, with escapes, with another source in front
and with a member that is not read. -/
theorem Bridge.handleLine_spelling_twice :
    let plain := "\x7b\"op\":\"evaluate\",\"source\":\"1\"\x7d"
    let strewn := "\t\x7b \"x\" : [ null ],\"source\":2," ++
      "\"\\u0073ource\" :\"\\u0031\",\"o\\u0070\":\"evaluate\"\x7d "
    let b := Bridge.ofHost RecordingHost.empty
    b.handleLine strewn = b.handleLine plain ∧ b.callsOfLine strewn = b.callsOfLine plain := by
  intro plain strewn b
  have carries : Carries plain "1" ∧ Carries strewn "1" := by
    constructor <;> decide +kernel
  obtain ⟨written, holds, op, source⟩ := carries.1.exists_written
  obtain ⟨written', holds', op', source'⟩ := carries.2.exists_written
  refine (handleLine_spelling b).2 plain strewn written written' holds holds' ⟨op'.trans op.symm, ?_⟩
  intro operation named
  cases op.symm.trans named
  exact List.forall_mem_singleton.mpr (source'.trans source.symm)

end ScriptGate
