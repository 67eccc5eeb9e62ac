import ScriptGate.Proofs.Host.Books
import ScriptGate.Proofs.Json.Codec
import ScriptGate.Proofs.Json.Unambiguous

/-!
# Which call a prepared answer is for

A recording host knows the arguments of a call by their text alone. Since no two argument lists are
written alike, however deep they are, an answer that is prepared for a call is given to that call and to
no other (`Bridge.prepared_for_one_call`): any other is answered as if it had not been prepared.
-/

namespace ScriptGate

open Json (Value renderList)
open RecordingHost (AnswersAs Preparation answersAs_prepared echo last? prepared)

namespace RecordingHost

variable {name called args text answer : String} {earlier later : List Preparation}

/-- A step that prepares an answer for another call has no part in the answer to a call. -/
theorem last?_forCall?_of_ne (other : (called, text) ≠ (name, args)) :
    last? (Preparation.forCall? called text) (earlier ++ .respondInvoke name args answer :: later) =
      last? (Preparation.forCall? called text) (earlier ++ later) := by
  have none : (Preparation.respondInvoke name args answer).forCall? called text = none := by
    refine if_neg ?_
    rintro ⟨rfl, rfl⟩
    exact other rfl
  rw [last?, last?, List.filterMap_append, List.filterMap_append, List.filterMap_cons_none none]

/-- The last step that prepares an answer for a call prepares the answer to it. -/
theorem last?_forCall?_self (last : ∀ p ∈ later, p.forCall? name args = none) :
    last? (Preparation.forCall? name args) (earlier ++ .respondInvoke name args answer :: later) =
      some answer := by
  have here : (Preparation.respondInvoke name args answer).forCall? name args = some answer :=
    if_pos ⟨rfl, rfl⟩
  have others : later.filterMap (Preparation.forCall? name args) = [] :=
    List.filterMap_eq_nil_iff.mpr last
  rw [last?, List.filterMap_append, List.filterMap_cons_some here, others, List.getLast?_concat]

end RecordingHost

namespace Bridge

/-- A call is answered with what the host was prepared for, whatever was asked before. -/
theorem invoke_after_prepared (steps : List Preparation) (actions : List Action) (name : String)
    (args : List Value) :
    (((ofHost (prepared steps)).after actions).invoke name args).answer =
      (Outcome.classify ((last? (Preparation.forCall? name (renderList args)) steps).getD
        (echo (renderList args)))).result := by
  have answers : AnswersAs steps ((ofHost (prepared steps)).after actions).host :=
    answersAs_after (answersAs_prepared steps) actions
  rw [← answers.call]
  rfl

/-- Two argument lists without doubles are written alike only if they are the same, however deep they
are. So an answer that is prepared for a call has no part in any other call, and it is the answer to its
own, unless a later one is prepared for that. -/
theorem prepared_for_one_call {args other : List Value} (exact : ∀ v ∈ args, v.isExact = true)
    (exact' : ∀ v ∈ other, v.isExact = true) :
    (renderList other = renderList args ↔ other = args) ∧
      ∀ (earlier later : List Preparation) (name called answer : String) (actions : List Action),
        let steps := earlier ++ .respondInvoke name (renderList args) answer :: later
        (called ≠ name ∨ other ≠ args →
          (((ofHost (prepared steps)).after actions).invoke called other).answer =
            (((ofHost (prepared (earlier ++ later))).after actions).invoke called other).answer) ∧
        ((∀ p ∈ later, p.forCall? name (renderList args) = none) →
          (((ofHost (prepared steps)).after actions).invoke name args).answer =
            (Outcome.classify answer).result) := by
  have apart : renderList other = renderList args ↔ other = args :=
    ⟨Json.renderList_inj exact' exact, congrArg renderList⟩
  refine ⟨apart, fun earlier later name called answer actions => ⟨fun different => ?_, fun last => ?_⟩⟩
  · have key : (called, renderList other) ≠ (name, renderList args) := by
      intro same
      obtain ⟨sameName, sameText⟩ := Prod.mk.inj same
      rcases different with otherName | otherArgs
      · exact otherName sameName
      · exact otherArgs (apart.mp sameText)
    rw [invoke_after_prepared, invoke_after_prepared, RecordingHost.last?_forCall?_of_ne key]
  · rw [invoke_after_prepared, RecordingHost.last?_forCall?_self last, Option.getD_some]

/-- Beyond the depth of the reader, and where a text tells of null as null does. -/
theorem prepared_for_one_call_deep :
    let args : List Value := [.nested 200, .null]
    let other : List Value := [.nested 200, .text "null"]
    let steps : List Preparation := [.respondInvoke "f" (renderList args) "true"]
    renderList other ≠ renderList args ∧
      (((ofHost (prepared steps)).after [.invoke "f" args]).invoke "f" other).answer =
        (((ofHost (prepared [])).after [.invoke "f" args]).invoke "f" other).answer ∧
      (((ofHost (prepared steps)).after [.invoke "f" args]).invoke "f" args).answer =
        (Outcome.classify "true").result := by
  intro args other steps
  have different : other ≠ args := by
    intro same
    have second := (List.cons.inj (List.cons.inj same).2).1
    cases second
  have exact : ∀ v ∈ args, v.isExact = true := by decide +kernel
  have exact' : ∀ v ∈ other, v.isExact = true := by decide +kernel
  obtain ⟨apart, answered⟩ := prepared_for_one_call exact exact'
  obtain ⟨unchanged, given⟩ := answered [] [] "f" "f" "true" [.invoke "f" args]
  exact ⟨fun same => different (apart.mp same), unchanged (.inr different), given nofun⟩

end Bridge

end ScriptGate
