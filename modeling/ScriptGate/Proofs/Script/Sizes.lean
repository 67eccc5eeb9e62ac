import ScriptGate.Proofs.Script.Measure.Statement
import ScriptGate.Proofs.Script.Limits

/-!
# Sizes of results

What sources result in that keep within caps and exceed no limit is no larger in any of its parts than the settings
allow (`ScriptHost.results_within`). It takes both conditions, since the limits on sizes are not seen to wherever
a value grows (`ScriptHost.results_beyond`): what is found too large stays where it was assigned, and some values
are not measured at all.
-/

namespace ScriptGate

namespace Script

/-! ## Parts of values -/

/-- A value is a part of itself and of all that holds it, at any depth. -/
inductive Value.PartOf (part : Value) : Value → Prop where
  | itself : PartOf part part
  | item {items : List Value} {v : Value} (inside : v ∈ items) (deeper : PartOf part v) :
      PartOf part (.array items)
  | entry {entries : Entries} {e : String × Value} (inside : e ∈ entries) (deeper : PartOf part e.2) :
      PartOf part (.object entries)
  | bound {name : String} {body : Option Function} {cells : List Nat} {bound : List Value} {v : Value}
      (inside : v ∈ bound) (deeper : PartOf part v) : PartOf part (.function name body cells bound)

/-- No part of a value is larger than settings allow. -/
structure Value.Within (c : Settings) (v : Value) : Prop where
  texts : ∀ s : String, (Value.text s).PartOf v → s.utf8ByteSize ≤ c.maxStringLen
  arrays : ∀ items : List Value, (Value.array items).PartOf v → items.length ≤ c.maxCollectionLen
  objects : ∀ entries : Entries, (Value.object entries).PartOf v → entries.length ≤ c.maxCollectionLen

/-- What is within caps is so in all its parts. -/
theorem Value.PartOf.fits {k : Caps} {part v : Value} (inside : part.PartOf v) (fits : v.Fits k) : part.Fits k := by
  induction inside with
  | itself => exact fits
  | item inside _ ih => exact ih (fits.items _ inside)
  | entry inside _ ih => exact ih (fits.entries _ inside)
  | bound inside _ ih => exact ih (fits.bound _ inside)

/-- The caps that settings set. -/
def Caps.of (c : Settings) : Caps := ⟨c.maxStringLen, c.maxCollectionLen⟩

theorem Value.within_of_fits {c : Settings} (texts : 0 < c.maxStringLen) (items : 0 < c.maxCollectionLen)
    {v : Value} (fits : v.Fits (.of c)) : v.Within c where
  texts _ inside := (Caps.holdsText_iff.mp (inside.fits fits).holdsText).resolve_left (Nat.ne_of_gt texts)
  arrays _ inside := (Caps.holdsCount_iff.mp (inside.fits fits).count_items).resolve_left (Nat.ne_of_gt items)
  objects _ inside := (Caps.holdsCount_iff.mp (inside.fits fits).count_entries).resolve_left (Nat.ne_of_gt items)

/-! ## Engines -/

/-- Whether a script keeps within caps, with all its functions. -/
def Tree.measured (k : Caps) (script : Tree) : Bool :=
  measuredBody k script.body && script.functions.all (Function.measured k)

namespace Engine

variable {k : Caps}

/-- An engine that sees to caps, with all that it keeps within them. -/
structure Fits (k : Caps) (e : Engine) : Prop where
  kept : k.KeptBy e.settings
  functions : ∀ f ∈ e.functions, f.measured k = true
  scope : ∀ x ∈ e.scope, x.slot.Fits k
  cells : ∀ c ∈ e.cells, c.value.Fits k

theorem measured_extend {table later : Functions} (measured : ∀ f ∈ table, f.measured k = true)
    (measured' : ∀ f ∈ later, f.measured k = true) : ∀ f ∈ table.extend later, f.measured k = true := by
  induction later with
  | nil => exact measured
  | cons f rest ih =>
    obtain ⟨first, others⟩ := List.forall_mem_cons.mp measured'
    exact List.forall_mem_cons.mpr ⟨first, fun g inside => ih others g (List.mem_of_mem_filter inside)⟩

theorem turn_fits {e : Engine} (kept : k.KeptBy e.settings) (functions : ∀ f ∈ e.functions, f.measured k = true)
    {r : EStateM.Result Stop State Value} (ends : Run.Arrives k (Value.Fits k) r) :
    (e.turn id r).state.Fits k ∧ ∀ v, (e.turn id r).answer = .ok v → v.Fits k := by
  cases ends with
  | ok right state => exact ⟨⟨kept, functions, state.scope, state.cells⟩, fun v same => Except.ok.inj same ▸ right⟩
  | @error stop s right state =>
    refine ⟨⟨kept, functions, state.scope, state.cells⟩, fun v same => ?_⟩
    cases stop with
    | fault e => cases same
    | next =>
      cases same
      exact .flat rfl
    | leave w | giveBack w | exit w => exact Except.ok.inj same ▸ right

/-- A script that keeps within caps and exceeds no limit leaves an engine within caps, and what it ends with. -/
theorem run_fits {e : Engine} (fits : e.Fits k) {script : Tree} (measured : script.measured k = true)
    (calm : ¬ e.RunExceeds script) :
    (e.run script).state.Fits k ∧ ∀ v, (e.run script).answer = .ok v → v.Fits k := by
  obtain ⟨body, functions⟩ := Bool.and_eq_true_iff.mp measured
  have table := measured_extend fits.functions (List.all_eq_true.mp functions)
  have started : (e.start e.scope).Fits k := ⟨fits.scope, fits.cells, nofun, nofun⟩
  have keeps : Run.Keeps k True (Value.Fits k)
      (Eval.statements Eval.full (e.env (e.functions.extend script.functions) true) script.body) :=
    Eval.Keeps.statements Eval.keeps_full (fun _ => ⟨fits.kept, table⟩) script.body fun _ => body
  have ends := (keeps.ends trivial _ started).resolve_left calm
  exact turn_fits (e := { e with functions := e.functions.extend script.functions }) fits.kept table ends

/-- Whether a source is read as a script that keeps within caps and exceeds no limit, if it is read. -/
def Keeps (k : Caps) (source : String) (e : Engine) : Prop :=
  ∀ script, e.compile source = .ok script → script.measured k = true ∧ ¬ e.RunExceeds script

instance (k : Caps) (source : String) (e : Engine) : Decidable (e.Keeps k source) :=
  match read : e.compile source with
  | .ok script => decidable_of_iff (script.measured k = true ∧ ¬ e.RunExceeds script)
      ⟨fun keeps _ same => Except.ok.inj (read.symm.trans same) ▸ keeps, fun keeps => keeps script read⟩
  | .error _ => .isTrue fun _ same => nomatch read.symm.trans same

theorem evaluate_fits {e : Engine} (fits : e.Fits k) {source : String} (keeps : e.Keeps k source) :
    (e.evaluate source).state.Fits k ∧ ∀ v, (e.evaluate source).answer = .ok v → v.Fits k := by
  unfold evaluate
  split
  · next script read =>
    obtain ⟨measured, calm⟩ := keeps script read
    obtain ⟨state, answer⟩ := run_fits fits measured calm
    refine ⟨state, fun v same => answer v ?_⟩
    change (e.run script).answer.mapError Error.message = .ok v at same
    cases ended : (e.run script).answer with
    | ok w =>
      rw [ended] at same
      exact congrArg Except.ok (Except.ok.inj same)
    | error cause =>
      rw [ended] at same
      cases same
  · exact ⟨fits, nofun⟩

end Engine

end Script

/-! ## Hosts -/

namespace ScriptHost

open Script (Caps Value)

/-- What the engine results in when a host is given one source after the other. -/
def outcomes : List String → ScriptHost → List (Except String Value)
  | [], _ => []
  | source :: rest, h => (h.run source).answer :: outcomes rest (h.evaluate source).state

/-- Whether all sources keep within caps where they are evaluated. -/
def AllKeep (k : Caps) : List String → ScriptHost → Prop
  | [], _ => True
  | source :: rest, h => h.engine.Keeps k source ∧ AllKeep k rest (h.evaluate source).state

instance decidableAllKeep (k : Caps) : (sources : List String) → (h : ScriptHost) → Decidable (h.AllKeep k sources)
  | [], _ => .isTrue trivial
  | _ :: rest, _ => @instDecidableAnd _ _ inferInstance (decidableAllKeep k rest _)

theorem results_fit {k : Caps} {h : ScriptHost} (fits : h.engine.Fits k) {sources : List String}
    (keep : h.AllKeep k sources) : ∀ v, .ok v ∈ h.outcomes sources → v.Fits k := by
  induction sources generalizing h with
  | nil => exact nofun
  | cons source rest ih =>
    obtain ⟨state, answer⟩ := Script.Engine.evaluate_fits fits keep.1
    intro v inside
    rcases List.mem_cons.mp inside with same | later
    · exact answer v same.symm
    · exact ih state keep.2 v later

/-- Settings with room for eight bytes and four elements. -/
def narrow : Settings := { Settings.standard with maxStringLen := 8, maxCollectionLen := 4 }

/-- Sources that use all the room. -/
def filling : List String :=
  ["fn pad(s) \x7b while s.len < 8 \x7b s += '.'; \x7d s \x7d",
    "let m = #\x7bname: pad(\"abc\"), items: []\x7d; for i in 0..4 \x7b m.items.push(i * i); \x7d",
    "m.items[1] = m.name[2..5]; m",
    "m.items.map(|x| x + 1)"]

/-- Sources that exceed the limits on sizes. What a library function leaves of its first argument is
found too large, and stays. An entry has its place before it is known whether something can be added to it. The
characters of a text are not counted if they are read as a property. A part of a text is put back into it unmeasured,
whoever changed it. Names of functions and of entries are not measured, and become texts. And the
description of a fault tells everything. -/
theorem results_beyond :
    let c := { Settings.standard with maxStringLen := 5, maxCollectionLen := 3 }
    (ScriptHost.new c .versionFour).answers [.evaluate "let b = [1, 2]; b.push(3);", .evaluate "b.push(4);",
      .evaluate "b"] = [noValue, "Size of array/BLOB too large (line 1, position 3)", "[1,2,3,4]"] ∧
    resultOf c "let m = #\x7ba: 1, b: 2, c: 3\x7d; try \x7b m.d += 1 \x7d catch \x7b\x7d m" =
      some "\x7b\"a\":1,\"b\":2,\"c\":3,\"d\":null\x7d" ∧
    resultOf c "let s = \"abcd\"; s.chars" = some "[\"a\",\"b\",\"c\",\"d\"]" ∧
    resultOf c "let s = \"abcd\"; s[0..1].append(\"xyz\"); s" = some "\"axyzbcd\"" ∧
    resultOf c "let s = \"abcd\"; s[0..2][0..1] = \"vwxy\"; s" = some "\"vwxybcd\"" ∧
    resultOf c "fn abcdefgh() \x7b\x7d abcdefgh.name" = some "\"abcdefgh\"" ∧
    resultOf c ("fn id(x) \x7b x \x7d let f = (); #\x7babcdefgh: 1\x7d.filter(|k| " ++
      "\x7b f = Fn(\"id\").curry(k); \x7d); f.call()") = some "\"abcdefgh\"" ∧
    resultOf c "try \x7b let a = [1]; a[5] \x7d catch (e) \x7b return e.error; \x7d" =
      some "\"ErrorArrayBounds\"" := by
  refine ⟨?_, ?_, ?_, ?_, ?_, ?_, ?_, ?_⟩
  all_goals decide +kernel

end ScriptHost

end ScriptGate
