import ScriptGate.Proofs.Fault.Members
import ScriptGate.Proofs.Line.Reply

/-!
# Reports are told apart, and read from the right objects

A report is read from an object exactly if the members tell it (`FaultReport.Told`): the kind and the
message stand there once, each with a text, and the parameter at most once, with a text or null. How
the object is spelled (`FaultReport.read_eq_ok_iff`), in what order its members stand and what other
members it has does not matter (`FaultReport.read_of_members`). The text of a report is such an object,
so it is read back as that report, and different faults have different texts (`FaultReport.faithful`).

A place of a report is filled by the members of its name alone, as `FaultReport.fill?` says. So a
report is judged place by place (`FaultReport.foldlM_take?_eq_some_iff`), though it is read member by
member.
-/

namespace ScriptGate

open Json (HoldsObject Members Value)

namespace FaultReport

/-! ## What members tell -/

/-- The values of the members with a name, in their order. -/
def valuesOf (written : List (String × Value)) (name : String) : List Value :=
  (written.filter fun m => m.1 = name).map Prod.snd

/-- Whether members tell a report. A parameter that is null is as good as none. -/
structure Told (written : List (String × Value)) (r : FaultReport) : Prop where
  kind : valuesOf written "error_type" = [.text r.kind]
  message : valuesOf written "message" = [.text r.message]
  param : match r.param with
    | some p => valuesOf written "param" = [.text p]
    | none => valuesOf written "param" = [] ∨ valuesOf written "param" = [.null]

section Members

variable {written : List (String × Value)} {m : String × Value} {name : String} {r : FaultReport}

theorem valuesOf_cons_self (named : m.1 = name) (written : List (String × Value)) :
    valuesOf (m :: written) name = m.2 :: valuesOf written name := by
  rw [valuesOf, List.filter_cons_of_pos (by simpa using named)]
  rfl

theorem valuesOf_cons_of_ne (other : m.1 ≠ name) (written : List (String × Value)) :
    valuesOf (m :: written) name = valuesOf written name := by
  rw [valuesOf, List.filter_cons_of_neg (by simpa using other), valuesOf]

/-! ## Places -/

/-- A place is filled by one value that it admits, and stays free if there is no value for it. -/
theorem foldlM_fill?_eq_some_iff {β : Type} {accept : Value → Option β} {vs : List Value}
    {place : Option β} :
    vs.foldlM (fill? accept) none = some place ↔
      match place with
      | none => vs = []
      | some x => ∃ v, vs = [v] ∧ accept v = some x := by
  cases vs with
  | nil => cases place <;> simp
  | cons v vs =>
    rw [List.foldlM_cons]
    cases admitted : accept v with
    | none => cases place <;> simp [fill?, admitted]
    | some x =>
      cases vs with
      | nil => cases place <;> simp [fill?, admitted]
      | cons w vs => cases place <;> simp [fill?, admitted]

/-- Members fill each place with the values of its name. -/
theorem foldlM_take?_eq_some_iff {sofar last : Partial} :
    written.foldlM Partial.take? sofar = some last ↔
      (valuesOf written "error_type").foldlM (fill? Value.text?) sofar.kind = some last.kind ∧
        (valuesOf written "message").foldlM (fill? Value.text?) sofar.message = some last.message ∧
          (valuesOf written "param").foldlM (fill? nullableText?) sofar.param = some last.param := by
  induction written generalizing sofar with
  | nil =>
    obtain ⟨kind, message, param⟩ := sofar
    obtain ⟨kind', message', param'⟩ := last
    simp [valuesOf]
  | cons m written ih =>
    rw [List.foldlM_cons, Partial.take?]
    split
    · next named =>
      rw [valuesOf_cons_self named, valuesOf_cons_of_ne (by simp [named]),
        valuesOf_cons_of_ne (by simp [named]), List.foldlM_cons]
      cases fill? Value.text? sofar.kind m.2 with
      | none => simp
      | some kind => exact ih
    next notKind =>
    split
    · next named =>
      rw [valuesOf_cons_self named, valuesOf_cons_of_ne notKind, valuesOf_cons_of_ne (by simp [named]),
        List.foldlM_cons]
      cases fill? Value.text? sofar.message m.2 with
      | none => simp
      | some message => exact ih
    next notMessage =>
    split
    · next named =>
      rw [valuesOf_cons_self named, valuesOf_cons_of_ne notKind, valuesOf_cons_of_ne notMessage,
        List.foldlM_cons]
      cases fill? nullableText? sofar.param m.2 with
      | none => simp
      | some param => exact ih
    next notParam =>
    rw [valuesOf_cons_of_ne notKind, valuesOf_cons_of_ne notMessage, valuesOf_cons_of_ne notParam]
    exact ih

theorem report?_eq_some_iff {sofar : Partial} :
    sofar.report? = some r ↔
      sofar.kind = some r.kind ∧ sofar.message = some r.message ∧ sofar.param.getD none = r.param := by
  obtain ⟨kind, message, param⟩ := sofar
  obtain ⟨kind', message', param'⟩ := r
  cases kind <;> cases message <;> simp [Partial.report?]

theorem nullableText?_eq_some_iff {v : Value} {p : Option String} :
    nullableText? v = some p ↔ v = p.elim .null .text := by
  cases v <;> cases p <;> simp [nullableText?]

theorem foldlM_text_eq_some_iff {vs : List Value} {s : String} :
    vs.foldlM (fill? Value.text?) none = some (some s) ↔ vs = [.text s] := by
  rw [foldlM_fill?_eq_some_iff]
  simp [Json.Value.text?_eq_some_iff]

theorem foldlM_nullableText_eq_some_iff {vs : List Value} {place : Option (Option String)} :
    vs.foldlM (fill? nullableText?) none = some place ↔
      match place with
      | none => vs = []
      | some p => vs = [p.elim .null .text] := by
  rw [foldlM_fill?_eq_some_iff]
  cases place <;> simp [nullableText?_eq_some_iff]

/-- A parameter that is missing is told by no value, or by null. -/
theorem exists_foldlM_nullableText_iff {vs : List Value} {p : Option String} :
    (∃ place : Option (Option String), place.getD none = p ∧
      vs.foldlM (fill? nullableText?) none = some place) ↔
      match p with
      | some p => vs = [.text p]
      | none => vs = [] ∨ vs = [.null] := by
  constructor
  · rintro ⟨place, rfl, read⟩
    have found := foldlM_nullableText_eq_some_iff.mp read
    match place with
    | none => exact .inl found
    | some none => exact .inr found
    | some (some p) => exact found
  · intro told
    cases p with
    | some p => exact ⟨some (some p), rfl, foldlM_nullableText_eq_some_iff.mpr told⟩
    | none =>
      rcases told with missing | null
      · exact ⟨none, rfl, foldlM_nullableText_eq_some_iff.mpr missing⟩
      · exact ⟨some none, rfl, foldlM_nullableText_eq_some_iff.mpr null⟩

/-- Members make a report exactly if they tell it. -/
theorem ofMembers?_eq_some_iff : ofMembers? written = some r ↔ Told written r := by
  rw [ofMembers?, Option.bind_eq_some_iff]
  constructor
  · rintro ⟨last, read, made⟩
    obtain ⟨kind, message, param⟩ := foldlM_take?_eq_some_iff.mp read
    obtain ⟨sameKind, sameMessage, sameParam⟩ := report?_eq_some_iff.mp made
    rw [sameKind] at kind
    rw [sameMessage] at message
    exact ⟨foldlM_text_eq_some_iff.mp kind, foldlM_text_eq_some_iff.mp message,
      exists_foldlM_nullableText_iff.mp ⟨_, sameParam, param⟩⟩
  · rintro ⟨kind, message, param⟩
    obtain ⟨place, same, read⟩ := exists_foldlM_nullableText_iff.mpr param
    exact ⟨⟨some r.kind, some r.message, place⟩,
      foldlM_take?_eq_some_iff.mpr
        ⟨foldlM_text_eq_some_iff.mpr kind, foldlM_text_eq_some_iff.mpr message, read⟩,
      report?_eq_some_iff.mpr ⟨rfl, rfl, same⟩⟩

/-- There is a report to tell exactly if each place can be filled. -/
theorem exists_told_iff :
    (∃ r, Told written r) ↔
      (∃ s, valuesOf written "error_type" = [.text s]) ∧
        (∃ s, valuesOf written "message" = [.text s]) ∧
          (valuesOf written "param" = [] ∨ valuesOf written "param" = [.null] ∨
            ∃ s, valuesOf written "param" = [.text s]) := by
  constructor
  · rintro ⟨⟨kind, message, param⟩, told⟩
    refine ⟨⟨kind, told.kind⟩, ⟨message, told.message⟩, ?_⟩
    have given := told.param
    cases param with
    | some p => exact .inr (.inr ⟨p, given⟩)
    | none => exact given.imp_right .inl
  · rintro ⟨⟨kind, one⟩, ⟨message, other⟩, missing | null | ⟨p, given⟩⟩
    · exact ⟨⟨kind, message, none⟩, one, other, .inl missing⟩
    · exact ⟨⟨kind, message, none⟩, one, other, .inr null⟩
    · exact ⟨⟨kind, message, some p⟩, one, other, given⟩

/-! ## Order and other members -/

/-- The names of the members that a report has. -/
def memberNames : List String := ["error_type", "message", "param"]

/-- The members that a report can have, without all others. -/
def ownMembers (written : List (String × Value)) : List (String × Value) :=
  written.filter fun m => m.1 ∈ memberNames

/-- Other members have no part in the values of a report's own. -/
theorem valuesOf_ownMembers (own : name ∈ memberNames) :
    valuesOf (ownMembers written) name = valuesOf written name := by
  unfold valuesOf ownMembers
  rw [List.filter_filter]
  congr 1
  refine List.filter_congr fun m _ => ?_
  by_cases named : m.1 = name <;> simp [named, own]

/-- What members tell depends on neither their order nor other members. -/
theorem Told.of_perm {written' : List (String × Value)} (told : Told written r)
    (reordered : (ownMembers written').Perm (ownMembers written)) : Told written' r := by
  have values {name : String} {vs : List Value} (own : name ∈ memberNames)
      (found : valuesOf written name = vs) (few : vs.length ≤ 1) : valuesOf written' name = vs := by
    have perm : (valuesOf (ownMembers written') name).Perm (valuesOf (ownMembers written) name) :=
      (reordered.filter _).map _
    rw [valuesOf_ownMembers own, valuesOf_ownMembers own, found] at perm
    match vs, few with
    | [], _ => exact perm.eq_nil
    | [v], _ => exact perm.eq_singleton
  have kind := values (by decide) told.kind (Nat.le_refl 1)
  have message := values (by decide) told.message (Nat.le_refl 1)
  have param := told.param
  refine ⟨kind, message, ?_⟩
  cases given : r.param with
  | some p =>
    rw [given] at param
    exact values (by decide) param (Nat.le_refl 1)
  | none =>
    rw [given] at param
    exact param.imp (fun missing => values (by decide) missing (Nat.zero_le 1))
      fun null => values (by decide) null (Nat.le_refl 1)

theorem told_perm_iff {written' : List (String × Value)}
    (reordered : (ownMembers written').Perm (ownMembers written)) : Told written' r ↔ Told written r :=
  ⟨fun told => told.of_perm reordered.symm, fun told => told.of_perm reordered⟩

end Members

/-! ## Texts -/

/-- A text that holds members is read as the report that they tell, however they are spelled. -/
theorem read_eq_ok_iff {d : Nat} {text : String} {written : List (String × Value)}
    (holds : HoldsObject d text written) {r : FaultReport} : read text = .ok r ↔ Told written r := by
  rw [← Json.toOption_eq_some_iff, read_of_holdsObject holds, ofMembers?_eq_some_iff]

/-- A written object is read as the report that its members tell, however deep they are. -/
theorem read_render_iff_told {written : List (String × Value)}
    (exact : ∀ m ∈ written, m.2.isExact = true) (ordered : ∀ m ∈ written, m.2.isOrdered = true)
    {r : FaultReport} : read (Value.object written).render = .ok r ↔ Told written r :=
  read_eq_ok_iff (Json.holdsObject_render exact ordered
    (Value.membersDepth_le_iff.mp (Nat.le_refl (Value.membersDepth written))))

/-- A report is read back from its text. -/
theorem read_render (r : FaultReport) : read r.render = .ok r := by
  obtain ⟨kind, message, param⟩ := r
  have texts : ∀ m ∈ [("error_type", Value.text kind), ("message", .text message)] ++
      (param.map fun p => ("param", Value.text p)).toList,
        m.2.isExact = true ∧ m.2.isOrdered = true := by
    cases param <;> simp [Value.isExact, Value.isOrdered]
  refine (read_render_iff_told (fun m found => (texts m found).1) fun m found => (texts m found).2).mpr ?_
  cases param with
  | some p => exact ⟨rfl, rfl, rfl⟩
  | none => exact ⟨rfl, rfl, .inl rfl⟩

/-- A written object is read as a report exactly if the kind and the message stand in it once, each with
a text, and the parameter at most once, with a text or null. The report has these texts, in whatever
order the members stand and whatever other members there are. A report that is read from any
text at all is written and read as it is. -/
theorem read_of_members (written : List (String × Value)) (exact : ∀ m ∈ written, m.2.isExact = true)
    (ordered : ∀ m ∈ written, m.2.isOrdered = true) :
    (∀ r, read (Value.object written).render = .ok r ↔ Told written r) ∧
      ((∃ r, read (Value.object written).render = .ok r) ↔
        (∃ s, valuesOf written "error_type" = [.text s]) ∧
          (∃ s, valuesOf written "message" = [.text s]) ∧
            (valuesOf written "param" = [] ∨ valuesOf written "param" = [.null] ∨
              ∃ s, valuesOf written "param" = [.text s])) ∧
      (∀ written', (∀ m ∈ written', m.2.isExact = true) → (∀ m ∈ written', m.2.isOrdered = true) →
        (ownMembers written').Perm (ownMembers written) → ∀ r,
          read (Value.object written').render = .ok r ↔ read (Value.object written).render = .ok r) ∧
      ∀ text r, read text = .ok r →
        read r.render = .ok r ∧ ∀ again, read r.render = .ok again → again.render = r.render := by
  refine ⟨fun r => read_render_iff_told exact ordered, ?accepted, ?reordered, ?again⟩
  case accepted =>
    rw [← exists_told_iff]
    exact exists_congr fun r => read_render_iff_told exact ordered
  case reordered =>
    intro written' exact' ordered' reordered r
    rw [read_render_iff_told exact ordered, read_render_iff_told exact' ordered', told_perm_iff reordered]
  case again =>
    intro text r _
    refine ⟨read_render r, fun again found => ?_⟩
    rw [read_render r] at found
    cases found
    rfl

/-- Strewn among others, the members of a report are read; twice, the message is not. -/
theorem read_of_members_strewn :
    let strewn := [("param", Value.null), ("x", .object [("message", .list [])]),
      ("message", .text "\"\n"), ("", .nested 200), ("error_type", .text "script")]
    read (Value.object strewn).render = .ok ⟨"script", "\"\n", none⟩ ∧
      ¬ ∃ r, read (Value.object (strewn ++ [("message", .text "\"\n")])).render = .ok r := by
  intro strewn
  have fine : ∀ m ∈ strewn ++ [("message", .text "\"\n")],
      m.2.isExact = true ∧ m.2.isOrdered = true := by
    decide +kernel
  have exact : ∀ m ∈ strewn, m.2.isExact = true := fun m found =>
    (fine m (List.mem_append_left _ found)).1
  have ordered : ∀ m ∈ strewn, m.2.isOrdered = true := fun m found =>
    (fine m (List.mem_append_left _ found)).2
  constructor
  · exact ((read_of_members strewn exact ordered).1 _).mpr ⟨rfl, rfl, .inr rfl⟩
  · rw [(read_of_members _ (fun m found => (fine m found).1) fun m found => (fine m found).2).2.1]
    rintro ⟨-, ⟨s, once⟩, -⟩
    cases once

end FaultReport

/-- The report of a fault determines the fault. -/
theorem Fault.eq_of_report_eq {f g : Fault} (same : f.report = g.report) : f = g := by
  obtain ⟨sameKind, sameMessage, sameParam⟩ := FaultReport.mk.inj same
  cases f <;> cases g
  case argument.argument =>
    cases Option.some.inj sameParam
    exact congrArg _ sameMessage
  case script.script | engine.engine => exact congrArg _ sameMessage
  all_goals exact absurd sameKind (by simp [Fault.kind])

/-- Every report is read back from its text, with or without a parameter and whatever its texts are; and
faults whose reports have one text are one fault. -/
theorem FaultReport.faithful :
    (∀ r : FaultReport, read r.render = .ok r) ∧
      ∀ f g : Fault, f.report.render = g.report.render → f = g := by
  refine ⟨read_render, fun f g same => Fault.eq_of_report_eq ?_⟩
  have back := read_render f.report
  rw [same, read_render g.report] at back
  exact (Except.ok.inj back).symm

/-- A message that looks like a report is read back, and so is a parameter without letters. Faults that
differ in their kind alone have different texts. -/
theorem FaultReport.faithful_alike :
    let message := "\x7b\"message\":\"\\n\u0001\"\x7d"
    read (FaultReport.mk "argument" message (some "")).render = .ok ⟨"argument", message, some ""⟩ ∧
      (Fault.script message).report.render ≠ (Fault.engine message).report.render := by
  intro message
  refine ⟨faithful.1 _, fun same => ?_⟩
  cases faithful.2 _ _ same

end ScriptGate
