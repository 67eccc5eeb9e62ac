import ScriptGate.Settings
import ScriptGate.Text.Numeral
import ScriptGate.Text.Similarity

/-!
The options of the command line.

An option takes its value from the same argument or from the next one, unless that begins with a hyphen. The
value of the next argument is looked at when the option after it begins, so what is wrong with the
spelling of that option is found first. A complaint about an option shows how the program is used with the options
that were there before, and with the one that was probably meant.
-/

namespace ScriptGate.CommandLine

structure Options where
  /-- The source to evaluate instead of serving. -/
  source : Option String
  debugPort : Option UInt16
  debugHost : Option Network.Address
  timeoutMs : Option Nat
  maxOperations : Option Nat
  verbose : Bool
deriving DecidableEq, Repr

namespace Options

/-- No options. -/
def none : Options := ⟨.none, .none, .none, .none, .none, false⟩

/-- The settings that the options make. -/
def settings (o : Options) : Settings :=
  { Settings.standard with
    timeoutMs := o.timeoutMs.getD Settings.standard.timeoutMs
    maxOperations := o.maxOperations.getD Settings.standard.maxOperations
    debuggerHost := o.debugHost.getD Settings.standard.debuggerHost }

end Options

/-- The options that take a value. -/
inductive Valued where
  | eval
  | debugPort
  | debugHost
  | timeoutMs
  | maxOperations
deriving DecidableEq, Repr

namespace Valued

/-- The name of an option. -/
def name : Valued → String
  | .eval => "eval"
  | .debugPort => "debug-port"
  | .debugHost => "debug-host"
  | .timeoutMs => "timeout-ms"
  | .maxOperations => "max-operations"

/-- How an option is shown with its value. -/
def shown : Valued → String
  | .eval => "--eval <EVAL>"
  | .debugPort => "--debug-port <DEBUG_PORT>"
  | .debugHost => "--debug-host <DEBUG_HOST>"
  | .timeoutMs => "--timeout-ms <TIMEOUT_MS>"
  | .maxOperations => "--max-operations <MAX_OPERATIONS>"

/-- All options that take a value. -/
def all : List Valued := [.eval, .debugPort, .debugHost, .timeoutMs, .maxOperations]

end Valued

/-- Any option. -/
inductive Flag where
  | valued (option : Valued)
  | verbose
  | help
deriving DecidableEq, Repr

namespace Flag

/-- The long name of an option. -/
def name : Flag → String
  | .valued option => option.name
  | .verbose => "verbose"
  | .help => "help"

/-- How an option is shown. -/
def shown : Flag → String
  | .valued option => option.shown
  | .verbose => "--verbose"
  | .help => "--help"

/-- All options. -/
def all : List Flag := Valued.all.map .valued ++ [.verbose, .help]

/-- The option of that name. -/
def ofName? (name : String) : Option Flag := all.find? fun f => f.name = name

/-- The option whose name is most like the given one, the last one of several, if any is like it at all. -/
def similar? (name : String) : Option Flag :=
  let best := all.foldl (fun (best : Option (Flag × Float)) f =>
    let likeness := Text.similarity name f.name
    if likeness > (best.map Prod.snd).getD 0.7 || (best.any fun b => likeness == b.2) then
      some (f, likeness)
    else best) none
  best.map Prod.fst

end Flag

/-- What is wrong with the arguments. -/
inductive ArgumentFault where
  | unexpected (arg : String)
  /-- There is no option with that name; `used` were there before. -/
  | unknown (name : String) (used : List Flag)
  | valueMissing (option : Valued)
  | valueInvalid (option : Valued) (value reason : String)
  | valueUnexpected (value : String) (option : Flag) (used : List Flag)
  | repeated (option : Flag)
deriving DecidableEq, Repr

/-- How the program is used, with options where they are known. -/
def usageText (options : List Flag) : String :=
  let shown := if options.isEmpty then ["[OPTIONS]"] else options.eraseDups.map Flag.shown
  "\n\nUsage: evalbridge " ++ " ".intercalate shown

/-- The text of a fault of the arguments. -/
def ArgumentFault.message (f : ArgumentFault) : String :=
  let text := match f with
    | .unexpected arg => "unexpected argument '" ++ arg ++ "' found" ++ usageText []
    | .unknown name used =>
      let meant := Flag.similar? name
      let tip := match meant with
        | some f => "\n\n  tip: a similar argument exists: '--" ++ f.name ++ "'"
        | none => ""
      "unexpected argument '--" ++ name ++ "' found" ++ tip ++ usageText (used ++ meant.toList)
    | .valueMissing option => "a value is required for '" ++ option.shown ++ "' but none was supplied"
    | .valueInvalid option value reason =>
      "invalid value '" ++ value ++ "' for '" ++ option.shown ++ "': " ++ reason
    | .valueUnexpected value option used =>
      "unexpected value '" ++ value ++ "' for '" ++ option.shown ++
        "' found; no more were expected" ++ usageText (used ++ [option])
    | .repeated option =>
      "the argument '" ++ option.shown ++ "' cannot be used multiple times" ++ usageText []
  "error: " ++ text ++ "\n\nFor more information, try '--help'."

/-- Why the arguments make no options. -/
inductive Halt where
  | help
  | fault (f : ArgumentFault)
deriving DecidableEq, Repr

/-- What was read of the arguments. -/
structure Progress where
  options : Options
  /-- The options that were there, in their order. -/
  used : List Flag
  /-- The option that was begun last, with its value if that was there already. -/
  pending : Option (Valued × Option String)
  /-- Whether no more options are expected. -/
  ended : Bool

namespace Progress

/-- Stops with a fault of the arguments. -/
def refuse {α : Type} (f : ArgumentFault) : Except Halt α := .error (.fault f)

/-! ## Values -/

/-- A port as the value of an option. -/
def port (option : Valued) (value : String) : Except Halt UInt16 :=
  match Text.signed64 10 value with
  | .error e => refuse (.valueInvalid option value e.message)
  | .ok n =>
    if 0 ≤ n ∧ n < 65536 then .ok (UInt16.ofNat n.toNat)
    else refuse (.valueInvalid option value (toString n ++ " is not in 0..=65535"))

/-- A natural number as the value of an option. -/
def count (option : Valued) (value : String) : Except Halt Nat :=
  match Text.unsigned64 10 value with
  | .error e => refuse (.valueInvalid option value e.message)
  | .ok n => .ok n

/-- An address as the value of an option. -/
def address (option : Valued) (value : String) : Except Halt Network.Address :=
  match Network.Address.parse? value with
  | some a => .ok a
  | none => refuse (.valueInvalid option value "invalid IP address syntax")

/-- Whether an option has a value. -/
def isSet (o : Options) : Valued → Bool
  | .eval => o.source.isSome
  | .debugPort => o.debugPort.isSome
  | .debugHost => o.debugHost.isSome
  | .timeoutMs => o.timeoutMs.isSome
  | .maxOperations => o.maxOperations.isSome

/-- Gives an option its value, which it can have only once. -/
def give (option : Valued) (value : String) (o : Options) : Except Halt Options := do
  if isSet o option then refuse (.repeated (.valued option))
  match option with
  | .eval => return { o with source := some value }
  | .debugPort => return { o with debugPort := some (← port option value) }
  | .debugHost => return { o with debugHost := some (← address option value) }
  | .timeoutMs => return { o with timeoutMs := some (← count option value) }
  | .maxOperations => return { o with maxOperations := some (← count option value) }

/-- Gives an option its value, and notes that it was there. -/
def set (option : Valued) (value : String) (p : Progress) : Except Halt Progress :=
  (give option value p.options).map fun options =>
    { p with options := options, used := p.used ++ [.valued option] }

/-- Looks at the value of the option that was begun last. -/
def resolve (p : Progress) : Except Halt Progress :=
  match p.pending with
  | none => return p
  | some (option, none) => refuse (.valueMissing option)
  | some (option, some value) => set option value { p with pending := none }

/-- The options that were there, with the one that was begun last if it has a value, right or wrong. One that was
there before does not count as there any more. -/
def usedAtLast (p : Progress) : List Flag :=
  match p.pending with
  | some (option, some _) =>
    let flag := Flag.valued option
    if flag ∈ p.used then p.used.filter (· ≠ flag) else p.used ++ [flag]
  | _ => p.used

/-! ## Arguments -/

/-- Begins an option, with its value if that is in the same argument. -/
def begin (option : Valued) (value : Option String) (p : Progress) : Except Halt Progress := do
  let p ← p.resolve
  match value with
  | some value => set option value p
  | none => return { p with pending := some (option, none) }

/-- The option that asks for more of the log. -/
def verbose (p : Progress) : Except Halt Progress := do
  let p ← p.resolve
  if p.options.verbose then refuse (.repeated .verbose)
  return { p with options := { p.options with verbose := true }, used := p.used ++ [.verbose] }

/-- The option that asks for help. -/
def help (p : Progress) : Except Halt Progress := do
  let _ ← p.resolve
  throw .help

/-- An option with a long name. -/
def long (name : String) (value : Option String) (p : Progress) : Except Halt Progress :=
  match Flag.ofName? name, value with
  | some (.valued option), value => p.begin option value
  | some flag, some value => refuse (.valueUnexpected value flag p.used)
  | some .verbose, none => p.verbose
  | some .help, none => p.help
  | none, _ => refuse (.unknown name p.usedAtLast)

/-- Options with names of one character, one after the other. -/
def short : List Char → Progress → Except Halt Progress
  | [], p => return p
  | 'v' :: rest, p => do short rest (← p.verbose)
  | 'h' :: _, p => p.help
  | 'e' :: rest, p =>
    match rest with
    | [] => p.begin .eval none
    | '=' :: value => p.begin .eval (some (String.ofList value))
    | value => p.begin .eval (some (String.ofList value))
  | c :: _, _ => refuse (.unexpected (String.ofList ['-', c]))

/-- An argument that begins no option. -/
def plain (arg : String) (p : Progress) : Except Halt Progress :=
  match p.pending with
  | some (option, none) => return { p with pending := some (option, some arg) }
  | _ => refuse (.unexpected arg)

/-- The next argument. -/
def next (p : Progress) (arg : String) : Except Halt Progress :=
  if p.ended then refuse (.unexpected arg)
  else match arg.toList with
    | ['-', '-'] => return { p with ended := true }
    | '-' :: '-' :: cs =>
      let name := String.ofList (cs.takeWhile (· ≠ '='))
      match cs.dropWhile (· ≠ '=') with
      | _ :: value => p.long name (some (String.ofList value))
      | [] => p.long name none
    | '-' :: c :: cs => p.short (c :: cs)
    | _ => p.plain arg

end Progress

/-- The options that arguments make. -/
def Options.read (args : List String) : Except Halt Options := do
  let p ← args.foldlM Progress.next ⟨.none, [], .none, false⟩
  return (← p.resolve).options

/-- What is printed for help. -/
def helpText : String :=
  "\n".intercalate
    ["Evaluate Rhai scripts behind a JSON boundary",
      "",
      "Usage: evalbridge [OPTIONS]",
      "",
      "Options:",
      "  -e, --eval <EVAL>",
      "          Evaluate this source once, print the result and exit",
      "      --debug-port <DEBUG_PORT>",
      "          Start the debug listener on this port",
      "      --debug-host <DEBUG_HOST>",
      "          Address the debug listener binds to [default: 127.0.0.1]",
      "      --timeout-ms <TIMEOUT_MS>",
      "          Wall-clock limit per evaluation or call, in milliseconds [default: 60000]",
      "      --max-operations <MAX_OPERATIONS>",
      "          Operation budget per evaluation or call (0 for unlimited) [default: 1000000]",
      "  -v, --verbose",
      "          Log at debug level",
      "  -h, --help",
      "          Print help",
      ""]

end ScriptGate.CommandLine
