import ScriptGate.Proofs.Json.Object
import ScriptGate.Proofs.Request.Checks

/-!
# Ports as they stand in a line

The port that a debugger is asked for on is a number token in a line. Whatever else stands in the line
(`PortLine`), the token alone decides what comes of it (`Bridge.handleLine_port`). The port is the one
that it spells plainly. An integer that is no port is repeated as it is spelled, and never wrapped around
into another one. A token with a fraction or a power of ten is no integer, also if its value is one.
-/

namespace ScriptGate

open Json (EndsNumber Gap Members Number Numeral Value Whole WrittenMember intChars)

/-! ## Tokens and ports -/

namespace Json.Numeral

variable {n : Numeral} {t : List Char} {p : Nat}

/-- Whether a token spells an integer that a reader takes exactly and that is no port. The token of
zero behind a minus sign does not. -/
def OutOfRange (n : Numeral) (t : List Char) : Prop :=
  n.fraction = none ∧ n.power = none ∧ t ≠ ['-', '0'] ∧
    (-0x8000000000000000 ≤ n.integer ∧ n.integer < 0x10000000000000000) ∧ ¬ (0 ≤ n.integer ∧ n.integer ≤ 65535)

/-- Whether a token is the plain decimal form of a port. -/
def SpellsPort (t : List Char) (p : Nat) : Prop := String.ofList t = toString p ∧ p ≤ 65535

instance (n : Numeral) (t : List Char) : Decidable (OutOfRange n t) :=
  inferInstanceAs (Decidable (_ ∧ _))

instance (t : List Char) (p : Nat) : Decidable (SpellsPort t p) :=
  inferInstanceAs (Decidable (_ ∧ _))

theorem Written.spellsPort_iff (written : Written n t) :
    SpellsPort t p ↔ ∃ w : Whole, n.number = .ok (.whole w) ∧ w.val = p ∧ p ≤ 65535 := by
  have shown (w : Whole) (value : w.val = p) : String.ofList t = toString p ↔ t = intChars w.val := by
    rw [value, show toString p = toString (p : Int) from rfl, toString_eq_ofList_intChars,
      String.ofList_inj]
  constructor
  · rintro ⟨plain, small⟩
    have value : (⟨p, by omega, by omega⟩ : Whole).val = p := rfl
    exact ⟨_, written.eq_intChars_iff.mp ((shown _ value).mp plain), value, small⟩
  · rintro ⟨w, number, value, small⟩
    exact ⟨(shown w value).mpr (written.eq_intChars_iff.mpr number), small⟩

theorem Written.outOfRange_iff (written : Written n t) :
    OutOfRange n t ↔ ∃ w : Whole, n.number = .ok (.whole w) ∧ ¬ (0 ≤ w.val ∧ w.val < 65536) := by
  simp only [number_eq_whole_iff]
  constructor
  · rintro ⟨fraction, power, signed, ⟨lower, upper⟩, outside⟩
    refine ⟨⟨n.integer, by omega, by omega⟩, ⟨fraction, power, ?_, rfl⟩, by dsimp only; omega⟩
    rintro ⟨negative, zero⟩
    exact signed (written.eq_minusZero_iff.mpr ⟨fraction, power, negative, zero⟩)
  · rintro ⟨w, ⟨fraction, power, nonzero, value⟩, outside⟩
    have lower := w.lower
    have upper := w.upper
    refine ⟨fraction, power, fun zero => ?_, by omega, by omega⟩
    exact nonzero (written.eq_minusZero_iff.mp zero).2.2

end Json.Numeral

/-! ## Lines -/

/-- A line that asks for a debugger on some port, apart from the token of the port: the members before
and behind the port, the label of the port however it is spelled, and all blank space. The last
operation that is named counts, and the port is the last one in the line. -/
structure PortLine where
  lead : Gap
  before : List (WrittenMember 126)
  label : List Char
  colonGap : Gap
  numberGap : Gap
  gap : Gap
  after : List (WrittenMember 126)
  trail : Gap
  named : ∀ rest, Json.Reader.name.bare (label ++ rest) = .ok ("port", rest)
  asks : Members.last? ((before ++ after).map (·.member)) "op" = some (.text "enable_debugger")
  last : ∀ m ∈ after, m.member.1 ≠ "port"

namespace PortLine

variable (l : PortLine) {n : Numeral} {t : List Char}

/-- The member for the port, up to the end of the token. -/
def memberChars (t : List Char) : List Char :=
  l.label ++ (l.colonGap.val ++ ':' :: (l.numberGap.val ++ t))

/-- The line with a token for the port. -/
def text (t : List Char) : String :=
  String.ofList (l.lead.val ++
    ('\x7b' :: ([','].intercalate (l.before.map (·.chars) ++
      (l.memberChars t ++ l.gap.val) :: l.after.map (·.chars)) ++ '\x7d' :: l.trail.val)))

/-- The member for the port is read as its token is. -/
theorem member_memberChars (written : n.Written t) {rest : List Char} (ends : EndsNumber rest) :
    (Json.Reader.member (Json.Reader.value 126)).bare (l.memberChars t ++ rest) =
      match n.number with
      | .ok x => .ok (("port", .number x), rest)
      | .error behind => .error ⟨.numberTooLarge, Json.byteCount rest + behind⟩ := by
  have token := written.valueWith (some (Json.Reader.value 125)) ends
  rw [memberChars, List.append_assoc, List.append_assoc, List.cons_append, List.append_assoc,
    Json.Reader.bare_member, l.named]
  simp only [bind, Except.bind]
  rw [Json.Reader.colon_blank l.colonGap.property, Json.Reader.bare_colon,
    Json.Reader.skipBlank_cons (by decide)]
  simp only [if_true]
  rw [Json.Reader.value_blank l.numberGap.property, Json.Reader.value, token]
  cases n.number <;> rfl

/-- The member for the port, if its token stands for a number. -/
def member (written : n.Written t) {x : Number} (number : n.number = .ok x) : WrittenMember 126 where
  text := l.memberChars t
  gap := l.gap
  member := ("port", .number x)
  taken := by
    intro rest ends
    rw [l.member_memberChars written ends, number]

/-- All members of the line, with the value of the port. -/
def members (v : Value) : List (String × Value) :=
  l.before.map (·.member) ++ ("port", v) :: l.after.map (·.member)

theorem last?_port (v : Value) : Members.last? (l.members v) "port" = some v :=
  Members.last?_append_cons_self (by simpa using l.last) v

theorem last?_op (v : Value) : Members.last? (l.members v) "op" = some (.text "enable_debugger") := by
  have asks := l.asks
  rw [List.map_append] at asks
  rw [members, Members.last?_append_cons_of_ne (by decide), asks]

/-- If the token stands for a number, then the line asks for a debugger, and the number is what is asked
to be a port. -/
theorem ofLine_of_number (written : n.Written t) {x : Number} (number : n.number = .ok x) :
    Members.get? (Members.ofList (l.members (.number x))) "port" = some (.number x) ∧
      Request.ofLine (l.text t) =
        (Request.portField (Members.ofList (l.members (.number x)))).map .enableDebugger := by
  have some : l.before ++ l.member written number :: l.after ≠ [] := by simp
  have taken := Json.Reader.value_members some l.trail.val
  rw [List.map_append, List.map_append, List.map_cons, List.map_cons] at taken
  have found : Json.read (l.text t) = .ok (.object (Members.ofList (l.members (.number x)))) :=
    Json.read_of_bare l.lead.property l.trail.property taken
  refine ⟨(Members.get?_ofList _ _).trans (l.last?_port _), ?_⟩
  rw [← Request.ofParams_enableDebugger]
  refine Request.ofLine_of_read found ?_
  rw [Value.member?, Members.get?_ofList, l.last?_op]
  rfl

theorem opensMember (t : List Char) : Json.OpensMember (l.memberChars t ++ l.gap.val) := by
  intro more
  rw [memberChars, List.append_assoc, List.append_assoc]
  exact Json.Reader.exists_quote_of_name (l.named _)

/-- A line with a token that is too large for a number is no JSON. -/
theorem ofLine_of_tooLarge (written : n.Written t) {behind : Nat}
    (tooLarge : n.number = .error behind) :
    ∃ message, Request.ofLine (l.text t) = .error (.argument "request" message) := by
  have ends := Json.Reader.endsNumber_append l.gap.property
    (Json.Reader.endsNumber_behindCommas (l.after.map (·.chars))
      (Json.endsNumber_cons (show Json.continuesNumber '\x7d' = false by decide) l.trail.val))
  have token := l.member_memberChars written ends
  rw [tooLarge, ← List.append_assoc] at token
  have refused := Json.Reader.value_members_refused l.before (l.opensMember t) _ token
  obtain ⟨e, unreadable⟩ := Json.read_of_bare_error l.lead.property refused
  exact ⟨_, by rw [Request.ofLine, text, unreadable]⟩

/-! ## What comes of a token -/

/-- What comes of a line that asks for a debugger, by the token `t` of its port. -/
structure Told (n : Numeral) (t : List Char) (made : Except Fault Request) : Prop where
  /-- A port is taken if it is spelled plainly. -/
  accepted : ∀ p : Nat, (∃ port : UInt16, port.toNat = p ∧ made = .ok (.enableDebugger port)) ↔
    Numeral.SpellsPort t p
  /-- An integer that is no port is repeated as it stands in the line. -/
  outOfRange : made = .error (.argument "port" ("port " ++ String.ofList t ++ " out of range")) ↔
    n.OutOfRange t
  /-- Every other token is no integer, if it can be read at all. -/
  notInteger : made = .error (.argument "port" "port not integer") ↔
    (Json.read? (String.ofList t)).isSome = true ∧ (¬ ∃ p, Numeral.SpellsPort t p) ∧
      ¬ n.OutOfRange t
  /-- A token that cannot be read spoils the line. -/
  unreadable : Json.read? (String.ofList t) = none →
    ∃ message, made = .error (.argument "request" message)

/-- The two complaints about a port are told apart by their last letters. -/
theorem outOfRange_ne_notInteger (s : String) :
    "port " ++ s ++ " out of range" ≠ "port not integer" := by
  intro same
  have letters := congrArg String.toList same
  rw [String.toList_append] at letters
  have last := congrArg List.getLast? letters
  rw [List.getLast?_append] at last
  exact absurd last (by simp)

section Cases

variable {made : Except Fault Request} {w : Whole}

/-- A token that spells an integer is judged by that integer. -/
theorem Told.of_whole (written : n.Written t) (number : n.number = .ok (.whole w))
    (judged : made = if 0 ≤ w.val ∧ w.val < 65536 then .ok (.enableDebugger (.ofNat w.val.toNat))
      else .error (.argument "port" ("port " ++ toString w.val ++ " out of range"))) :
    Told n t made := by
  have spells (p : Nat) : Numeral.SpellsPort t p ↔ w.val = p ∧ p ≤ 65535 := by
    simp [written.spellsPort_iff, number]
  have outside : n.OutOfRange t ↔ ¬ (0 ≤ w.val ∧ w.val < 65536) := by
    simp [written.outOfRange_iff, number]
  have readable : Json.read? (String.ofList t) = some (.number (.whole w)) := by
    rw [written.read?, number]
    rfl
  have shown : toString w.val = String.ofList t := by
    rw [written.eq_intChars_iff.mpr number, Json.Numeral.toString_eq_ofList_intChars]
  by_cases inRange : 0 ≤ w.val ∧ w.val < 65536
  · rw [if_pos inRange] at judged
    have value : (UInt16.ofNat w.val.toNat).toNat = w.val.toNat :=
      UInt16.toNat_ofNat_of_lt' (show w.val.toNat < 65536 by omega)
    constructor
    case accepted =>
      intro p
      rw [spells, judged]
      constructor
      · rintro ⟨port, rfl, ⟨⟩⟩
        omega
      · rintro ⟨same, small⟩
        exact ⟨_, by omega, rfl⟩
    case outOfRange => simp [judged, outside, inRange]
    case notInteger =>
      rw [judged]
      refine ⟨nofun, fun other => absurd ⟨w.val.toNat, (spells _).mpr ?_⟩ other.2.1⟩
      omega
    case unreadable => simp [readable]
  · rw [if_neg inRange, shown] at judged
    constructor
    case accepted =>
      intro p
      rw [spells, judged]
      constructor
      · rintro ⟨port, -, ⟨⟩⟩
      · intro spelled
        omega
    case outOfRange => simp [judged, outside, inRange]
    case notInteger =>
      rw [judged]
      simp [outside, inRange, outOfRange_ne_notInteger]
    case unreadable => simp [readable]

/-- A token that spells no integer is none. -/
theorem Told.of_double {x : Float} (written : n.Written t) (number : n.number = .ok (.double x))
    (judged : made = .error (.argument "port" "port not integer")) : Told n t made := by
  have spells (p : Nat) : ¬ Numeral.SpellsPort t p := by simp [written.spellsPort_iff, number]
  have outside : ¬ n.OutOfRange t := by simp [written.outOfRange_iff, number]
  have readable : Json.read? (String.ofList t) = some (.number (.double x)) := by
    rw [written.read?, number]
    rfl
  subst judged
  constructor
  case accepted => simp [spells]
  case outOfRange => simp [outside, (outOfRange_ne_notInteger _).symm]
  case notInteger => simp [readable, spells, outside]
  case unreadable => simp [readable]

/-- A token that stands for no number is told from all others. -/
theorem Told.of_tooLarge {behind : Nat} (written : n.Written t) (number : n.number = .error behind)
    (judged : ∃ message, made = .error (.argument "request" message)) : Told n t made := by
  have spells (p : Nat) : ¬ Numeral.SpellsPort t p := by simp [written.spellsPort_iff, number]
  have outside : ¬ n.OutOfRange t := by simp [written.outOfRange_iff, number]
  have readable : Json.read? (String.ofList t) = none := by
    rw [written.read?, number]
    rfl
  obtain ⟨message, rfl⟩ := judged
  constructor
  case accepted => simp [spells]
  case outOfRange => simp [outside]
  case notInteger => simp [readable]
  case unreadable => exact fun _ => ⟨message, rfl⟩

end Cases

/-- Whatever else stands in a line that asks for a debugger, the token of the port decides what comes
of it. -/
theorem told (written : n.Written t) : Told n t (Request.ofLine (l.text t)) := by
  cases number : n.number with
  | error behind => exact .of_tooLarge written number (l.ofLine_of_tooLarge written number)
  | ok x =>
    obtain ⟨found, made⟩ := l.ofLine_of_number written number
    cases x with
    | whole w =>
      refine .of_whole written number ?_
      rw [made, Request.portField_of_whole found]
      split <;> rfl
    | double x =>
      refine .of_double written number ?_
      rw [made, Request.portField_of_other (by simp [found])]
      rfl

end PortLine

/-- Whatever else stands in a line that asks for a debugger, and whatever the bridge that deals with it,
the token of the port decides what comes of it. -/
theorem Bridge.handleLine_port {n : Numeral} {t : List Char} (written : n.Written t) (l : PortLine)
    {H : Type} [Host H] (b : Bridge H) :
    PortLine.Told n t (Request.ofLine (l.text t)) ∧
      b.handleLine (l.text t) =
        match Request.ofLine (l.text t) with
        | .ok r => b.dispatch r
        | .error fault => .quiet (.error fault) b :=
  ⟨l.told written, handleLine_eq (l.text t) b⟩

/-- A line in which a member in front of the port has its name too, and another operation is named. -/
def PortLine.odd : PortLine where
  lead := ⟨['\t'], by decide⟩
  before := [.ofValue "port" (.number (.whole ⟨80, by decide, by decide⟩)) rfl rfl (by decide),
    .ofValue "op" (.text "evaluate") rfl rfl (by decide)]
  label := " \"p\\u006frt\"".toList
  colonGap := ⟨['\n'], by decide⟩
  numberGap := ⟨[' ', ' '], by decide⟩
  gap := ⟨['\r'], by decide⟩
  after := [.ofValue "op" (.text "enable_debugger") rfl rfl (by decide)]
  trail := ⟨[], by decide⟩
  named := by
    intro rest
    have start : Json.Reader.skipBlank (" \"p\\u006frt\"".toList ++ rest) =
        '"' :: 'p' :: '\\' :: 'u' :: '0' :: '0' :: '6' :: 'f' :: 'r' :: 't' :: '"' :: rest := rfl
    have coded (more : List Char) :
        Json.Reader.coded.bare ('0' :: '0' :: '6' :: 'f' :: more) = .ok ('o', more) := by
      rw [Json.Reader.bare_coded, Json.Reader.bare_codeUnit]
      rfl
    rw [Json.Reader.bare_name, start]
    simp [Json.Reader.bare_text, Json.Reader.bare_quotedChars, Json.Reader.bare_escaped, coded,
      bind, Except.bind, Except.map]
  asks := rfl
  last := by decide

/-- The greatest port is taken from that line, the least integer that is read exactly is repeated, and
`80.0` is no integer. -/
theorem Bridge.handleLine_port_odd :
    PortLine.odd.text "80.0".toList = "\t\x7b\"port\":80,\"op\":\"evaluate\"," ++
        " \"p\\u006frt\"\n:  80.0\r,\"op\":\"enable_debugger\"\x7d" ∧
      Request.ofLine (PortLine.odd.text "65535".toList) = .ok (.enableDebugger 65535) ∧
      Request.ofLine (PortLine.odd.text "-9223372036854775808".toList) =
        .error (.argument "port" "port -9223372036854775808 out of range") ∧
      Request.ofLine (PortLine.odd.text "80.0".toList) =
        .error (.argument "port" "port not integer") := by
  have port : Numeral.Written ⟨false, [6, 5, 5, 3, 5], none, none⟩ "65535".toList :=
    Json.Numeral.written_iff_scan.mpr rfl
  have least : Numeral.Written
      ⟨true, [9, 2, 2, 3, 3, 7, 2, 0, 3, 6, 8, 5, 4, 7, 7, 5, 8, 0, 8], none, none⟩
      "-9223372036854775808".toList := Json.Numeral.written_iff_scan.mpr rfl
  have fraction : Numeral.Written ⟨false, [8, 0], some [0], none⟩ "80.0".toList :=
    Json.Numeral.written_iff_scan.mpr rfl
  have told {n : Numeral} {t : List Char} (written : n.Written t) :=
    (handleLine_port written .odd (Bridge.ofHost RecordingHost.empty)).1
  refine ⟨by decide, ?_, ?_, ?_⟩
  · obtain ⟨q, value, made⟩ := ((told port).accepted 65535).mpr (by decide)
    rw [made, UInt16.toNat_inj.mp (show q.toNat = (65535 : UInt16).toNat from value)]
  · exact (told least).outOfRange.mpr (by decide)
  · refine (told fraction).notInteger.mpr ⟨by decide +kernel, ?_, ?_⟩
    · rintro ⟨p, plain, -⟩
      have digits : "80.0".toList = Nat.toDigits 10 p :=
        (String.toList_ofList.symm.trans (congrArg String.toList plain)).trans String.toList_ofList
      have point : '.' ∈ Nat.toDigits 10 p := digits ▸ by decide
      exact absurd (Json.Numeral.isDigit_of_mem_toDigits point) (by decide)
    · rintro ⟨other, -⟩
      cases other

end ScriptGate
