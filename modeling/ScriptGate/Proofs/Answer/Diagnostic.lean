import ScriptGate.Bridge
import ScriptGate.Host.Script
import ScriptGate.Proofs.Json.Codec

/-!
# How the fault of a script is answered

A fault shares one channel of text with values, and its text may hold whatever a script throws or
names. What a script says never stands at the front, though: each diagnostic opens with words of
its own, and none of those words opens like a JSON value or like the sentinel. The calls that a
fault has left are told behind it. So every diagnostic is classified as the fault that it tells
(`Bridge.fault_of_diagnosis?`).
-/

namespace ScriptGate

/-! ## Openings -/

/-- Whether a character is no blank and neither a JSON value nor the sentinel opens with it. -/
def isForeign (c : Char) : Bool :=
  !Json.Reader.isBlank c && !Json.beginsValue c && c != 'u'

/-- Whether a text opens with a foreign character. -/
def opensFault (text : String) : Bool := text.toList.head?.any isForeign

theorem opensFault_iff {text : String} :
    opensFault text = true ↔ ∃ c tail, text.toList = c :: tail ∧ isForeign c = true := by
  unfold opensFault
  cases text.toList with
  | nil => exact ⟨nofun, nofun⟩
  | cons c tail =>
    constructor
    · exact fun foreign => ⟨c, tail, rfl, foreign⟩
    · rintro ⟨_, _, ⟨⟩, foreign⟩
      exact foreign

/-- Fixed words are judged by their first character. -/
theorem opensFault_words {c : Char} {tail : List Char} (foreign : isForeign c = true) :
    opensFault (String.ofList (c :: tail)) = true :=
  opensFault_iff.mpr ⟨c, tail, String.toList_ofList, foreign⟩

/-- What follows an opening does not matter. -/
theorem opensFault_append {front : String} (opens : opensFault front = true) (rest : String) :
    opensFault (front ++ rest) = true := by
  obtain ⟨c, tail, chars, foreign⟩ := opensFault_iff.mp opens
  refine opensFault_iff.mpr ⟨c, tail ++ rest.toList, ?_, foreign⟩
  rw [String.toList_append, chars, List.cons_append]

theorem Json.read?_of_opensFault {text : String} (opens : opensFault text = true) :
    Json.read? text = none := by
  obtain ⟨c, tail, chars, foreign⟩ := opensFault_iff.mp opens
  simp only [isForeign, Bool.and_eq_true, Bool.not_eq_true'] at foreign
  obtain ⟨⟨visible, noValue⟩, _⟩ := foreign
  obtain ⟨line, column, refused⟩ := Json.read_of_not_beginsValue chars visible noValue
  rw [Json.read?, refused]
  rfl

/-- A text that opens like a fault is one. -/
theorem Outcome.classify_of_opensFault {text : String} (opens : opensFault text = true) :
    classify text = .fault text := by
  have notSentinel : text ≠ noValue := by
    rintro rfl
    exact absurd opens (by decide +kernel)
  rw [classify, if_neg notSentinel, Json.read?_of_opensFault opens]

/-! ## Faults of a run -/

namespace Script

theorem Mishap.describe_opensFault (mishap : Mishap) : opensFault mishap.describe = true := by
  cases mishap <;> exact opensFault_words (by decide)

theorem Bulk.describe_opensFault (what : Bulk) : opensFault what.describe = true := by
  cases what <;> exact opensFault_words (by decide)

theorem ArithmeticFault.message_opensFault (fault : ArithmeticFault) :
    opensFault fault.message = true := by
  cases fault with
  | operands mishap a sign b =>
    iterate 6 refine opensFault_append ?_ _
    exact mishap.describe_opensFault
  | minus | signOfNaN => exact opensFault_words (by decide)
  | negation n => exact opensFault_append (opensFault_words (by decide)) _
  | radix | noInteger =>
    iterate 2 refine opensFault_append ?_ _
    exact opensFault_words (by decide)
  | integerText | doubleText =>
    iterate 3 refine opensFault_append ?_ _
    exact opensFault_words (by decide)

theorem boundsText_opensFault {what : String} (opens : opensFault what = true)
    (items place : String) (count : Nat) (index : Int64) :
    opensFault (boundsText what items place count index) = true := by
  iterate 4 refine opensFault_append ?_ _
  exact opens

/-- Whatever is thrown, it is told behind two words. -/
theorem ErrorCause.thrownMessage_opensFault (value : Value) :
    opensFault (ErrorCause.thrownMessage value) = true := by
  unfold ErrorCause.thrownMessage
  split
  · exact opensFault_words (by decide)
  · exact opensFault_words (by decide)
  · exact opensFault_append (opensFault_words (by decide)) _

theorem ErrorCause.message_opensFault (cause : ErrorCause) :
    opensFault cause.message = true := by
  cases cause with
  | thrown value => exact ErrorCause.thrownMessage_opensFault value
  | arithmetic fault => exact fault.message_opensFault
  | arrayBounds count index | textBounds count index =>
    exact boundsText_opensFault (opensFault_words (by decide)) _ _ count index
  | tooLarge what => exact opensFault_append what.describe_opensFault _
  | unboundThis | notIterable | exit | tooManyOperations | stackOverflow | timedOut =>
    exact opensFault_words (by decide)
  | functionNotFound | variableNotFound | moduleNotFound | propertyNotFound | noIndexer
  | constantModified => exact opensFault_append (opensFault_words (by decide)) _
  | constantCalled =>
    iterate 2 refine opensFault_append ?_ _
    exact opensFault_words (by decide)
  | reservedName =>
    iterate 3 refine opensFault_append ?_ _
    exact opensFault_words (by decide)
  | typeMismatch | noGetter | bitBounds =>
    iterate 4 refine opensFault_append ?_ _
    exact opensFault_words (by decide)
  | noSetter =>
    iterate 6 refine opensFault_append ?_ _
    exact opensFault_words (by decide)

/-- The calls that a fault has left are told behind it. -/
theorem Error.text_opensFault (e : Error) : opensFault e.text = true := by
  induction e with
  | plain cause place => exact opensFault_append cause.message_opensFault _
  | inCall function inner place inside =>
    cases function with
    | none =>
      iterate 2 refine opensFault_append ?_ _
      exact inside
    | some name =>
      iterate 4 refine opensFault_append ?_ _
      exact inside

theorem Error.message_opensFault (e : Error) : opensFault e.message = true := by
  unfold Error.message
  split
  · iterate 2 refine opensFault_append ?_ _
    exact opensFault_words (by decide)
  · exact Error.text_opensFault _

/-! ## Faults of a source -/

theorem LexFault.message_opensFault (fault : LexFault) : opensFault fault.message = true := by
  cases fault with
  | unterminatedText => exact opensFault_words (by decide)
  | unexpectedInput | textTooLong | malformedEscape | malformedNumber | malformedCharacter
  | malformedName | signMistaken =>
    iterate 2 refine opensFault_append ?_ _
    exact opensFault_words (by decide)
  | improperSign =>
    iterate 3 refine opensFault_append ?_ _
    exact opensFault_words (by decide)

theorem CompileCause.message_opensFault (cause : CompileCause) :
    opensFault cause.message = true := by
  cases cause with
  | lexical fault => exact fault.message_opensFault
  | constantAssigned name =>
    change opensFault (if name = "" then "Cannot assign to a constant value"
      else "Cannot assign to constant " ++ name) = true
    split
    · exact opensFault_words (by decide)
    · exact opensFault_append (opensFault_words (by decide)) _
  | incomplete | variableWanted | propertyWanted | tooDeep | misplacedFunction
  | functionNameWanted | notAssignable | outsideLoop | defaultCaseNotLast | defaultCaseCondition
  | numberCaseAfterRange => exact opensFault_words (by decide)
  | objectIndex | undefinedVariable | undefinedModule | duplicateVariable | duplicateProperty
  | parametersWanted | bodyWanted => exact opensFault_append (opensFault_words (by decide)) _
  | unknownOperator | expressionWanted | arrayTooLarge | objectTooLarge | notSupported =>
    iterate 2 refine opensFault_append ?_ _
    exact opensFault_words (by decide)
  | missing | typeMismatch | sequenceIndex | reserved | duplicateParameter =>
    iterate 3 refine opensFault_append ?_ _
    exact opensFault_words (by decide)
  | duplicateFunction =>
    iterate 4 refine opensFault_append ?_ _
    exact opensFault_words (by decide)

theorem CompileError.message_opensFault (e : CompileError) : opensFault e.message = true :=
  opensFault_append e.cause.message_opensFault _

end Script

/-! ## Faults of an engine and of a host -/

theorem Script.Engine.evaluate_opensFault (e : Script.Engine) {source d : String}
    (ends : (e.evaluate source).answer = .error d) : opensFault d = true := by
  unfold Script.Engine.evaluate at ends
  split at ends
  · next script compiled =>
    change ((e.run script).answer.mapError Script.Error.message) = .error d at ends
    cases ran : (e.run script).answer with
    | ok x =>
      rw [ran] at ends
      cases ends
    | error fault =>
      rw [ran] at ends
      cases ends
      exact fault.message_opensFault
  · next cause refused =>
    cases ends
    exact cause.message_opensFault

theorem Script.Engine.invoke_opensFault (e : Script.Engine) {name d : String}
    {args : List Script.Value} (ends : (e.invoke name args).answer = .error d) :
    opensFault d = true := by
  unfold Script.Engine.invoke at ends
  split at ends
  · next f found =>
    change ((e.call f args).answer.mapError Script.Error.message) = .error d at ends
    cases ran : (e.call f args).answer with
    | ok x =>
      rw [ran] at ends
      cases ends
    | error fault =>
      rw [ran] at ends
      cases ends
      exact fault.message_opensFault
  · cases ends
    exact Script.Error.message_opensFault _

theorem ScriptHost.call_opensFault (h : ScriptHost) {name text d : String}
    (ends : (h.call name text).answer = .error d) : opensFault d = true := by
  unfold ScriptHost.call at ends
  split at ends
  · exact h.engine.invoke_opensFault ends
  · cases ends
    exact opensFault_append (opensFault_words (by decide)) _

/-- The complaint about a value without a JSON form opens with words of its own. -/
theorem Script.Value.answerText_opensFault {x : Script.Value} {reason : Script.NoForm}
    (formless : x.toJson = .error reason) : opensFault x.answerText = true := by
  have notUnit : ¬ x.isUnit = true := by
    cases x with
    | unit => cases formless
    | _ => exact Bool.false_ne_true
  rw [Script.Value.answerText, if_neg notUnit, formless]
  iterate 3 refine opensFault_append ?_ _
  exact opensFault_words (by decide)

/-! ## What arrives -/

/-- The diagnostic that is due for how a script ended, if one is: that of its fault, or the
complaint about a value without a JSON form. -/
def ScriptHost.diagnosis? : Except String Script.Value → Option String
  | .error d => some d
  | .ok x =>
    match x.toJson with
    | .ok _ => none
    | .error _ => some x.answerText

theorem ScriptHost.answerText_of_diagnosis? {ended : Except String Script.Value} {d : String}
    (due : diagnosis? ended = some d) : answerText ended = d := by
  cases ended with
  | error text => exact Option.some.inj due
  | ok x =>
    unfold diagnosis? at due
    split at due
    · next same => cases same
    · next y same =>
      cases same
      split at due
      · cases due
      · exact Option.some.inj due

theorem ScriptHost.opensFault_of_diagnosis? {ended : Except String Script.Value} {d : String}
    (errors : ∀ text, ended = .error text → opensFault text = true)
    (due : diagnosis? ended = some d) : opensFault d = true := by
  rw [← answerText_of_diagnosis? due]
  cases ended with
  | error text => exact errors text rfl
  | ok x =>
    cases form : x.toJson with
    | error reason => exact Script.Value.answerText_opensFault form
    | ok j =>
      rw [diagnosis?, form] at due
      cases due

end ScriptGate
