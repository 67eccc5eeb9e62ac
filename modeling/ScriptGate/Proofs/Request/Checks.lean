import ScriptGate.Proofs.Json.Yield
import ScriptGate.Proofs.Line.Request

/-!
# What is asked of a request

First of all the parameters are checked, then the operation, then the fields of the operation in their
order; `Request.checks` lists these checks. A request is made exactly if all of them are met, from the
values of the fields, and otherwise it is refused for the first one that is not
(`Request.ofParams_checked`). Nothing else in the parameters has a part in that.

`Judged checks result` says that a result is what such a list of checks comes to; it is put together
along the steps of `ofParams` (`Judged.bind`).
-/

namespace ScriptGate

open Json (Members Value)

namespace Request

/-! ## Checks -/

/-- Something that is asked of a request: the parameter that it is about, whether it is met, and what
is said if it is not. -/
structure Check where
  param : String
  met : Bool
  complaint : String

/-- The fault of a request that does not meet a check. -/
def Check.fault (c : Check) : Fault := .argument c.param c.complaint

/-- What the value of a field has to be. -/
inductive Demand where
  | text
  | list
  | port

namespace Demand

/-- Whether the value of a field, if there is one, is what it has to be. A double is no port, even if
it has an integral value. -/
def metBy : Demand → Option Value → Bool
  | .text, some (.text _) => true
  | .list, some (.list _) => true
  | .port, some (.number (.whole n)) => 0 ≤ n.val && n.val ≤ 65535
  | _, _ => false

/-- What is said of a field that is not what it has to be. -/
def complaint (name : String) : Demand → Option Value → String
  | .text, _ => name ++ " not text"
  | .list, _ => name ++ " not sequence"
  | .port, some (.number (.whole n)) => name ++ " " ++ toString n.val ++ " out of range"
  | .port, _ => name ++ " not integer"

/-- The check of a field. -/
def check (name : String) (demand : Demand) (found : Option Value) : Check :=
  ⟨name, demand.metBy found, demand.complaint name found⟩

end Demand

/-- The operations, each with its fields in the order in which they are checked. -/
def operations : List (String × List (String × Demand)) :=
  [("evaluate", [("source", .text)]),
    ("invoke", [("name", .text), ("args", .list)]),
    ("enable_debugger", [("port", .port)]),
    ("disable_debugger", [])]

/-- The fields that an operation reads. -/
def fieldsOf (op : String) : List (String × Demand) := (operations.lookup op).getD []

/-- Whether a value can hold parameters: null stands for none. -/
def areParams : Value → Bool
  | .object _ | .null => true
  | _ => false

/-- All that is asked of an operation and its parameters, in the order in which it is asked. -/
def checks (op : String) (params : Value) : List Check :=
  ⟨"params", areParams params, "params not object"⟩ ::
    ⟨"op", (operations.lookup op).isSome, "unknown operation '" ++ op ++ "'"⟩ ::
      (fieldsOf op).map fun (name, demand) => demand.check name (params.member? name)

/-- The first check that is not met. -/
def firstUnmet (checks : List Check) : Option Check := checks.find? fun c => !c.met

/-- Whether the fields of a request are those values of the parameters. -/
def TakenFrom (params : Value) : Request → Prop
  | .evaluate source => params.member? "source" = some (.text source)
  | .invoke name args =>
    params.member? "name" = some (.text name) ∧ params.member? "args" = some (.list args)
  | .enableDebugger port =>
    ∃ n : Json.Whole, params.member? "port" = some (.number (.whole n)) ∧ n.val = port.toNat
  | .disableDebugger => True

/-! ## Results of checks -/

section Judging

variable {α β : Type} {c : Check} {cs ds : List Check} {result : Except Fault α}

/-- A result is what some checks come to: the fault of the first that is not met, if there is one. -/
def Judged (cs : List Check) (result : Except Fault α) : Prop :=
  match firstUnmet cs with
  | some c => result = .error c.fault
  | none => ∃ a, result = .ok a

theorem judged_ok (a : α) : Judged [] (.ok a) := ⟨a, rfl⟩

theorem judged_unmet (unmet : c.met = false) (cs : List Check) :
    Judged (c :: cs) (.error c.fault : Except Fault α) := by
  have first : firstUnmet (c :: cs) = some c := List.find?_cons_of_pos (by simp [unmet])
  rw [Judged, first]

theorem firstUnmet_cons (met : c.met = true) (cs : List Check) :
    firstUnmet (c :: cs) = firstUnmet cs :=
  List.find?_cons_of_neg (by simp [met])

theorem Judged.cons (met : c.met = true) (judged : Judged cs result) : Judged (c :: cs) result := by
  rw [Judged, firstUnmet_cons met]
  exact judged

theorem judged_singleton (met : c.met = true) (a : α) : Judged [c] (.ok a) :=
  (judged_ok a).cons met

/-- Checks one after the other: the later ones count where the earlier ones are met. -/
theorem Judged.bind {first : Except Fault α} {next : α → Except Fault β} (judged : Judged cs first)
    (later : ∀ a, first = .ok a → Judged ds (next a)) : Judged (cs ++ ds) (first >>= next) := by
  unfold Judged at judged
  rw [Judged, firstUnmet, List.find?_append]
  change match (firstUnmet cs).or (firstUnmet ds) with
    | some c => (first >>= next) = .error c.fault
    | none => ∃ b, (first >>= next) = .ok b
  cases unmet : firstUnmet cs with
  | some c =>
    rw [unmet] at judged
    rw [judged]
    rfl
  | none =>
    rw [unmet] at judged
    obtain ⟨a, rfl⟩ := judged
    exact later a rfl

theorem Judged.eq_error_iff (judged : Judged cs result) {fault : Fault} :
    result = .error fault ↔ ∃ c, firstUnmet cs = some c ∧ fault = c.fault := by
  unfold Judged at judged
  cases unmet : firstUnmet cs with
  | some c =>
    rw [unmet] at judged
    simp [judged, eq_comm]
  | none =>
    rw [unmet] at judged
    obtain ⟨a, rfl⟩ := judged
    simp

theorem Judged.exists_ok_iff (judged : Judged cs result) :
    (∃ a, result = .ok a) ↔ ∀ c ∈ cs, c.met = true := by
  have all : firstUnmet cs = none ↔ ∀ c ∈ cs, c.met = true := by
    simp [firstUnmet, List.find?_eq_none]
  unfold Judged at judged
  rw [← all]
  cases unmet : firstUnmet cs with
  | some c =>
    rw [unmet] at judged
    simp [judged]
  | none =>
    rw [unmet] at judged
    simp [judged]

end Judging

/-! ## The steps of a check -/

section Steps

variable {op name : String} {params : Value} {fields : Members}

theorem members_eq_ok_iff :
    members params = .ok fields ↔ params = .object fields ∨ (params = .null ∧ fields = []) := by
  cases params <;> simp [members, eq_comm]

/-- The members of parameters are found by the same names. -/
theorem member?_of_members (taken : members params = .ok fields) (name : String) :
    params.member? name = Members.get? fields name := by
  rcases members_eq_ok_iff.mp taken with rfl | ⟨rfl, rfl⟩
  · rfl
  · rfl

theorem exists_members_iff : (∃ fields, members params = .ok fields) ↔ areParams params = true := by
  cases params <;> simp [members, areParams]

theorem textField_eq_ok_iff {s : String} :
    textField fields name = .ok s ↔ Members.get? fields name = some (.text s) := by
  unfold textField
  split
  · next found => simp [found]
  · next other => exact ⟨nofun, fun found => absurd found (other s)⟩

theorem argsField_eq_ok_iff {args : List Value} :
    argsField fields = .ok args ↔ Members.get? fields "args" = some (.list args) := by
  unfold argsField
  split
  · next found => simp [found]
  · next other => exact ⟨nofun, fun found => absurd found (other args)⟩

/-- An integer is taken for the port with that number, if there is one. -/
theorem portField_of_whole {n : Json.Whole}
    (found : Members.get? fields "port" = some (.number (.whole n))) :
    portField fields =
      if 0 ≤ n.val ∧ n.val < 65536 then .ok (UInt16.ofNat n.val.toNat)
      else .error (.argument "port" ("port " ++ toString n.val ++ " out of range")) := by
  rw [portField, found]

/-- Anything but an integer is no port. -/
theorem portField_of_other
    (other : ∀ n, Members.get? fields "port" ≠ some (.number (.whole n))) :
    portField fields = .error (.argument "port" "port not integer") := by
  unfold portField
  split
  · next n found => exact absurd found (other n)
  · rfl

/-- A port that is taken has the number that stands in the field. -/
theorem portField_eq_ok_iff {port : UInt16} :
    portField fields = .ok port ↔
      ∃ n : Json.Whole, Members.get? fields "port" = some (.number (.whole n)) ∧
        n.val = port.toNat := by
  have small : port.toNat < 65536 := port.toNat_lt
  constructor
  · intro taken
    unfold portField at taken
    split at taken
    · next n found =>
      split at taken
      · next inRange =>
        cases taken
        have value : (UInt16.ofNat n.val.toNat).toNat = n.val.toNat :=
          UInt16.toNat_ofNat_of_lt' (show n.val.toNat < 65536 by omega)
        exact ⟨n, found, by omega⟩
      · cases taken
    · cases taken
  · rintro ⟨n, found, value⟩
    rw [portField_of_whole found, if_pos (by omega), value, Int.toNat_natCast, UInt16.ofNat_toNat]

theorem members_judged (params : Value) :
    Judged [⟨"params", areParams params, "params not object"⟩] (members params) := by
  cases params with
  | object | null => exact judged_singleton rfl _
  | boolean | number | text | list => exact judged_unmet rfl []

theorem textField_judged (fields : Members) (name : String) :
    Judged [Demand.text.check name (Members.get? fields name)] (textField fields name) := by
  unfold textField
  split
  · next s found =>
    rw [found]
    exact judged_singleton rfl s
  · next other =>
    refine judged_unmet ?_ []
    cases found : Members.get? fields name with
    | none => rfl
    | some v =>
      cases v with
      | text s => exact absurd found (other s)
      | null | boolean | number | list | object => rfl

theorem argsField_judged (fields : Members) :
    Judged [Demand.list.check "args" (Members.get? fields "args")] (argsField fields) := by
  unfold argsField
  split
  · next items found =>
    rw [found]
    exact judged_singleton rfl items
  · next other =>
    refine judged_unmet ?_ []
    cases found : Members.get? fields "args" with
    | none => rfl
    | some v =>
      cases v with
      | list items => exact absurd found (other items)
      | null | boolean | number | text | object => rfl

theorem portField_judged (fields : Members) :
    Judged [Demand.port.check "port" (Members.get? fields "port")] (portField fields) := by
  unfold portField
  split
  · next n found =>
    rw [found]
    split
    · next inRange =>
      exact judged_singleton (by simp [Demand.check, Demand.metBy]; omega) _
    · next outside =>
      refine judged_unmet ?_ []
      simp [Demand.check, Demand.metBy]
      omega
  · next other =>
    cases found : Members.get? fields "port" with
    | none => exact judged_unmet rfl []
    | some v =>
      cases v with
      | number n =>
        cases n with
        | whole n => exact absurd found (other n)
        | double x => exact judged_unmet rfl []
      | null | boolean | text | list | object => exact judged_unmet rfl []

end Steps

/-! ## Requests -/

section Requests

variable {op : String} {params : Value} {r : Request}

/-- A request is what the checks of its operation and its parameters come to. -/
theorem ofParams_judged (op : String) (params : Value) :
    Judged (checks op params) (ofParams op params) := by
  refine (members_judged params).bind fun fields taken => ?_
  simp only [member?_of_members taken]
  split
  · next same =>
    subst same
    exact ((textField_judged fields "source").bind fun _ _ => judged_ok _).cons rfl
  split
  · next same =>
    subst same
    exact ((textField_judged fields "name").bind fun _ _ =>
      (argsField_judged fields).bind fun _ _ => judged_ok _).cons rfl
  split
  · next same =>
    subst same
    exact ((portField_judged fields).bind fun _ _ => judged_ok _).cons rfl
  split
  · next same =>
    subst same
    exact (judged_ok _).cons rfl
  · next evaluate invoke enable disable =>
    refine judged_unmet ?_ _
    have unknown : operations.lookup op = none :=
      List.lookup_eq_none_iff.mpr (by simp [operations, evaluate, invoke, enable, disable])
    simp [unknown]

/-- A request is made for its own operation, from parameters that have its fields. -/
theorem ofParams_eq_ok_iff :
    ofParams op params = .ok r ↔ areParams params = true ∧ op = r.op ∧ r.TakenFrom params := by
  constructor
  · intro made
    obtain ⟨fields, taken, made⟩ := Json.exists_of_bind_eq_ok made
    have found := member?_of_members taken
    refine ⟨exists_members_iff.mp ⟨fields, taken⟩, ?_⟩
    split at made
    · next same =>
      obtain ⟨source, text, made⟩ := Json.exists_of_bind_eq_ok made
      cases made
      exact ⟨same, (found _).trans (textField_eq_ok_iff.mp text)⟩
    split at made
    · next same =>
      obtain ⟨name, text, made⟩ := Json.exists_of_bind_eq_ok made
      obtain ⟨args, list, made⟩ := Json.exists_of_bind_eq_ok made
      cases made
      exact ⟨same, (found _).trans (textField_eq_ok_iff.mp text),
        (found _).trans (argsField_eq_ok_iff.mp list)⟩
    split at made
    · next same =>
      obtain ⟨port, integer, made⟩ := Json.exists_of_bind_eq_ok made
      cases made
      obtain ⟨n, here, value⟩ := portField_eq_ok_iff.mp integer
      exact ⟨same, n, (found _).trans here, value⟩
    split at made
    · next same =>
      cases made
      exact ⟨same, trivial⟩
    · cases made
  · rintro ⟨valid, rfl, taken⟩
    obtain ⟨fields, same⟩ := exists_members_iff.mpr valid
    have found := member?_of_members same
    cases r with
    | evaluate source =>
      have text := textField_eq_ok_iff.mpr ((found _).symm.trans taken)
      simp [ofParams, same, op, text, bind, Except.bind, pure, Except.pure]
    | invoke name args =>
      have text := textField_eq_ok_iff.mpr ((found _).symm.trans taken.1)
      have list := argsField_eq_ok_iff.mpr ((found _).symm.trans taken.2)
      simp [ofParams, same, op, text, list, bind, Except.bind, pure, Except.pure]
    | enableDebugger port =>
      obtain ⟨n, here, value⟩ := taken
      have integer := portField_eq_ok_iff.mpr ⟨n, (found _).symm.trans here, value⟩
      simp [ofParams, same, op, integer, bind, Except.bind, pure, Except.pure]
    | disableDebugger => simp [ofParams, same, op, bind, Except.bind, pure, Except.pure]

variable {params' : Value}

/-- A request is only taken from the fields of its operation. -/
theorem TakenFrom.congr (taken : r.TakenFrom params)
    (agree : ∀ field ∈ fieldsOf r.op, params'.member? field.1 = params.member? field.1) :
    r.TakenFrom params' := by
  cases r with
  | evaluate source => exact (agree ("source", .text) List.mem_cons_self).trans taken
  | invoke name args =>
    exact ⟨(agree ("name", .text) List.mem_cons_self).trans taken.1,
      (agree ("args", .list) (List.mem_cons_of_mem _ List.mem_cons_self)).trans taken.2⟩
  | enableDebugger port =>
    obtain ⟨n, found, value⟩ := taken
    exact ⟨n, (agree ("port", .port) List.mem_cons_self).trans found, value⟩
  | disableDebugger => trivial

/-- What an operation does not read of its parameters has no part in the request. -/
theorem ofParams_congr (valid : areParams params = true) (valid' : areParams params' = true)
    (agree : ∀ field ∈ fieldsOf op, params'.member? field.1 = params.member? field.1) :
    ofParams op params' = ofParams op params := by
  have asked : checks op params' = checks op params := by
    rw [checks, checks, valid, valid']
    exact congrArg (fun fields => _ :: _ :: fields) (List.map_congr_left fun field found =>
      congrArg (field.2.check field.1) (agree field found))
  cases made : ofParams op params with
  | ok r =>
    obtain ⟨-, rfl, taken⟩ := ofParams_eq_ok_iff.mp made
    exact ofParams_eq_ok_iff.mpr ⟨valid', rfl, taken.congr agree⟩
  | error fault =>
    have refused := (ofParams_judged op params).eq_error_iff.mp made
    rw [← asked] at refused
    exact (ofParams_judged op params').eq_error_iff.mpr refused

end Requests

/-- A request is made exactly of an operation that there is and of parameters that have its fields,
each as it has to be; then all checks are met. Otherwise it is refused for the first check that is
not. Null stands for parameters without members, members that the operation does not read never
matter, and there is no request that could not be asked for. -/
theorem ofParams_checked (op : String) (params : Value) :
    (∀ r, ofParams op params = .ok r ↔
      areParams params = true ∧ op = r.op ∧ r.TakenFrom params) ∧
    ((∃ r, ofParams op params = .ok r) ↔ ∀ c ∈ checks op params, c.met = true) ∧
    (∀ fault, ofParams op params = .error fault ↔
      ∃ c, firstUnmet (checks op params) = some c ∧ fault = c.fault) ∧
    ofParams op .null = ofParams op (.object []) ∧
    (∀ params', areParams params = true → areParams params' = true →
      (∀ field ∈ fieldsOf op, params'.member? field.1 = params.member? field.1) →
        ofParams op params' = ofParams op params) ∧
    ∀ r : Request, ∃ fields, ofParams r.op (.object fields) = .ok r := by
  have judged := ofParams_judged op params
  exact ⟨fun r => ofParams_eq_ok_iff, judged.exists_ok_iff, fun fault => judged.eq_error_iff, rfl,
    fun params' valid valid' agree => ofParams_congr valid valid' agree,
    fun r => ⟨r.toMembers, r.ofParams_toJson⟩⟩

/-- With neither field of a call as it has to be, the name is blamed, whatever stands beside them. -/
theorem ofParams_checked_twice_unmet :
    let call : Value := .object [("args", .text "[1]"), ("name", .null)]
    let strewn : Value :=
      .object [("args", .text "[1]"), ("name", .null), ("op", .list []), ("port", .ofNat64 80)]
    ofParams "invoke" call = .error (.argument "name" "name not text") ∧
      ofParams "invoke" strewn = ofParams "invoke" call := by
  intro call strewn
  obtain ⟨-, -, refused, -, unread, -⟩ := ofParams_checked "invoke" call
  refine ⟨(refused _).mpr ⟨_, rfl, rfl⟩, unread strewn rfl rfl ?_⟩
  exact List.forall_mem_cons.mpr ⟨rfl, List.forall_mem_singleton.mpr rfl⟩

end Request

end ScriptGate
