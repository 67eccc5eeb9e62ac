import ScriptGate.Script.Value.Text

/-!
Faults of a running script.

A fault has a cause and, as a rule, a place. A fault that leaves a function is wrapped once for each such
call. A script can catch a fault unless it ends the run: that holds of the limits and
of a name that no function can have. Such a fault is not wrapped where it leaves a function of the script;
but once a library function has passed it on, it is a fault like any other.
-/

namespace ScriptGate.Script

/-- What goes wrong between two integers. -/
inductive Mishap where
  | addition
  | subtraction
  | multiplication
  | division
  | power
  | byZero
  | remainder
  | negativePower
deriving DecidableEq, Repr

/-- How a mishap is told. -/
def Mishap.describe : Mishap → String
  | .addition => "Addition overflow"
  | .subtraction => "Subtraction overflow"
  | .multiplication => "Multiplication overflow"
  | .division => "Division overflow"
  | .power => "Exponential overflow"
  | .byZero => "Division by zero"
  | .remainder => "Modulo division by zero or overflow"
  | .negativePower => "Integer raised to a negative power"

/-- What a calculation, or the reading of a number, refuses. -/
inductive ArithmeticFault where
  | operands (mishap : Mishap) (a : Int64) (sign : String) (b : Int64)
  /-- A minus sign in front of the least integer. -/
  | minus
  | negation (n : Int64)
  | radix (base : Int64)
  | integerText (s reason : String)
  | doubleText (s reason : String)
  /-- A double, told by its digits, that is no integer of 64 bits. -/
  | noInteger (digits : String)
  | signOfNaN

/-- The text of an arithmetical fault. -/
def ArithmeticFault.message : ArithmeticFault → String
  | .operands mishap a sign b =>
    mishap.describe ++ ": " ++ toString a ++ " " ++ sign ++ " " ++ toString b
  | .minus => "integer overflow"
  | .negation n => "Negation overflow: -" ++ toString n
  | .radix base => "Invalid radix: '" ++ toString base ++ "'"
  | .integerText s reason => "Error parsing integer number '" ++ s ++ "': " ++ reason
  | .doubleText s reason => "Error parsing floating-point number '" ++ s ++ "': " ++ reason
  | .noInteger digits => "Integer overflow: to_int(" ++ digits ++ ")"
  | .signOfNaN => "Sign of NaN is undefined"

/-- What can grow beyond a limit. -/
inductive Bulk where
  | text
  | items
  | entries
deriving DecidableEq, Repr

/-- How the size of something is told. -/
def Bulk.describe : Bulk → String
  | .text => "Length of string"
  | .items => "Size of array/BLOB"
  | .entries => "Size of object map"

inductive ErrorCause where
  | functionNotFound (signature : String)
  | variableNotFound (name : String)
  | moduleNotFound (name : String)
  | propertyNotFound (name : String)
  | arithmetic (fault : ArithmeticFault)
  | arrayBounds (count : Nat) (index : Int64)
  | textBounds (count : Nat) (index : Int64)
  | bitBounds (count : Nat) (index : Int64)
  | typeMismatch (found wanted : String)
  | noIndexer (signature : String)
  /-- A value of that kind has no such property. -/
  | noGetter (name kind : String)
  /-- A property of a value of that kind cannot become a value of the kind given. -/
  | noSetter (name kind given : String)
  | unboundThis
  | notIterable
  | constantModified (name : String)
  | constantCalled (method : String)
  | thrown (value : Value)
  /-- A word that no function can have for its name. -/
  | reservedName (word : String)
  /-- The end of the run, asked for where a library function was going on. -/
  | exit
  | tooLarge (what : Bulk)
  | tooManyOperations
  | stackOverflow
  | timedOut (limitMs : Nat)

/-- A fault, with the calls that it has left; an anonymous function has no name. -/
inductive Error where
  | plain (cause : ErrorCause) (pos : Option Position)
  | inCall (function : Option String) (inner : Error) (pos : Option Position)

/-- What is said of an index outside of a sequence. -/
def boundsText (what items place : String) (count : Nat) (index : Int64) : String :=
  what ++ " index " ++ toString index ++ " out of bounds: " ++
    match count with
    | 0 => place ++ " is empty"
    | 1 => "only 1 " ++ items ++ " in " ++ place
    | n => "only " ++ toString n ++ " " ++ items ++ "s in " ++ place

namespace ErrorCause

/-- What is said of a property that cannot be read. -/
def noGetterText (name kind : String) : String :=
  "Unknown property '" ++ name ++ "' - a getter is not registered for type '" ++ kind ++ "'"

/-- What is said of a property that cannot be written. -/
def noSetterText (name kind given : String) : String :=
  "No writable property '" ++ name ++ "' - a setter is not registered for type '" ++ kind ++
    "' to handle '" ++ given ++ "'"

/-- What is said of a value that was thrown. -/
def thrownMessage : Value → String
  | .unit | .text "" => "Runtime error"
  | value => "Runtime error: " ++ value.thrownText

/-- The text of a cause. -/
def message : ErrorCause → String
  | .functionNotFound signature => "Function not found: " ++ signature
  | .variableNotFound name => "Variable not found: " ++ name
  | .moduleNotFound name => "Module not found: " ++ name
  | .propertyNotFound name => "Property not found: " ++ name
  | .arithmetic fault => fault.message
  | .arrayBounds count index => boundsText "Array" "element" "array" count index
  | .textBounds count index => boundsText "String" "character" "string" count index
  | .bitBounds count index =>
    "Bit-field index " ++ toString index ++ " out of bounds: only " ++ toString count ++
      " bits in bit-field"
  | .typeMismatch found wanted => "Data type incorrect: " ++ found ++ " (expecting " ++ wanted ++ ")"
  | .noIndexer signature => "Indexer unavailable: " ++ signature
  | .noGetter name kind => noGetterText name kind
  | .noSetter name kind given => noSetterText name kind given
  | .unboundThis => "'this' not bound"
  | .notIterable => "For loop expects iterable type"
  | .constantModified name => "Cannot modify constant " ++ name
  | .constantCalled method => "Non-pure method '" ++ method ++ "' cannot be called on constant"
  | .thrown value => thrownMessage value
  | .reservedName word =>
    "Syntax error: '" ++ word ++ "' is a reserved " ++
      if word.toList.any Char.isAlpha then "keyword" else "symbol"
  | .exit => "NOT AN ERROR - exit value"
  | .tooLarge what => what.describe ++ " too large"
  | .tooManyOperations => "Too many operations"
  | .stackOverflow => "Stack overflow"
  | .timedOut _ => "Script terminated"

/-- Whether the run ends with the fault, which cannot be caught then. -/
def endsRun : ErrorCause → Bool
  | .reservedName _ | .exit | .tooLarge _ | .tooManyOperations | .stackOverflow | .timedOut _ => true
  | _ => false

/-- Whether a limit was exceeded. -/
def isLimit : ErrorCause → Bool
  | .tooLarge _ | .tooManyOperations | .stackOverflow | .timedOut _ => true
  | _ => false

/-- The word for a cause in the description that a script gets. -/
def word : ErrorCause → String
  | .functionNotFound _ => "ErrorFunctionNotFound"
  | .variableNotFound _ => "ErrorVariableNotFound"
  | .moduleNotFound _ => "ErrorModuleNotFound"
  | .propertyNotFound _ => "ErrorPropertyNotFound"
  | .arithmetic _ => "ErrorArithmetic"
  | .arrayBounds .. => "ErrorArrayBounds"
  | .textBounds .. => "ErrorStringBounds"
  | .bitBounds .. => "ErrorBitFieldBounds"
  | .typeMismatch .. => "ErrorMismatchDataType"
  | .noIndexer _ => "ErrorIndexingType"
  | .noGetter .. | .noSetter .. => "ErrorDotExpr"
  | .unboundThis => "ErrorUnboundThis"
  | .notIterable => "ErrorFor"
  | .constantModified _ => "ErrorAssignmentToConstant"
  | .constantCalled _ => "ErrorNonPureMethodCallOnConstant"
  | .thrown _ => "ErrorRuntime"
  | .reservedName _ => "ErrorParsing"
  | .exit => "Exit"
  | .tooLarge _ => "ErrorDataTooLarge"
  | .tooManyOperations => "ErrorTooManyOperations"
  | .stackOverflow => "ErrorStackOverflow"
  | .timedOut _ => "ErrorTerminated"

/-- The particulars of a cause in the description that a script gets. -/
def particulars : ErrorCause → List (String × Value)
  | .functionNotFound signature => [("function", .text signature)]
  | .variableNotFound name => [("variable", .text name)]
  | .moduleNotFound name => [("module", .text name)]
  | .propertyNotFound name => [("property", .text name)]
  | .arithmetic fault => [("message", .text fault.message)]
  | .arrayBounds count index | .textBounds count index | .bitBounds count index =>
    [("length", .integer (Int64.ofNat count)), ("index", .integer index)]
  | .typeMismatch found wanted => [("requested", .text wanted), ("actual", .text found)]
  | .noIndexer signature => [("type", .text signature)]
  | .noGetter name kind => [("property", .text (noGetterText name kind))]
  | .noSetter name kind given => [("property", .text (noSetterText name kind given))]
  | .constantModified name => [("variable", .text name)]
  | .constantCalled method => [("function", .text method)]
  | .thrown value => [("value", value)]
  | _ => []

end ErrorCause

namespace Error

/-- The place of a fault. -/
def pos : Error → Option Position
  | .plain _ p => p
  | .inCall _ _ p => p

/-- The same fault at another place. -/
def atPlace (p : Option Position) : Error → Error
  | .plain cause _ => .plain cause p
  | .inCall function inner _ => .inCall function inner p

/-- The same fault, at the given place if it has none. -/
def fillPlace (p : Position) (e : Error) : Error :=
  match e.pos with
  | none => e.atPlace (some p)
  | some _ => e

/-- The cause beneath all calls. -/
def cause : Error → ErrorCause
  | .plain cause _ => cause
  | .inCall _ inner _ => inner.cause

/-- Whether the run ends with the fault. -/
def endsRun : Error → Bool
  | .plain cause _ => cause.endsRun
  | .inCall .. => false

/-- Whether a fault tells of a limit that was exceeded just now, and not in a call that it has left. -/
def isLimit : Error → Bool
  | .plain cause _ => cause.isLimit
  | .inCall .. => false

/-- The text of a fault, with a line for each call that it has left. -/
def text : Error → String
  | .plain cause p => cause.message ++ placeSuffix p
  | .inCall (some function) inner p =>
    inner.text ++ "\nin call to function '" ++ function ++ "'" ++ placeSuffix p
  | .inCall none inner p => inner.text ++ "\nin closure call" ++ placeSuffix p

/-- What is told of a run that ended in a fault. A time limit is told without a place. -/
def message : Error → String
  | .plain (.timedOut limitMs) _ => "Script timed out after " ++ toString limitMs ++ "ms"
  | e => e.text

/-- What a script that catches a fault gets: the value that was thrown, or a description. -/
def caught (e : Error) : Value :=
  match e.cause with
  | .thrown value => value
  | _ =>
    let place := match e.pos with
      | some p =>
        [("line", Value.integer (Int64.ofNat p.line)),
          ("position", Value.integer (Int64.ofNat p.column))]
      | none => []
    let own := match e with
      | .plain cause _ => ("error", Value.text cause.word) :: cause.particulars
      | .inCall function _ _ =>
        [("error", .text "ErrorInFunctionCall"),
          ("function", .text (function.getD Value.anonymous)), ("source", .text "")]
    (("message", Value.text (e.atPlace none).text) :: place ++ own).foldl
      (fun entries (name, value) => Entries.insert name value entries) [] |> .object

end Error

end ScriptGate.Script
