import ScriptGate.Script.Token

/-!
Why a source is no script, and how that is told.
-/

namespace ScriptGate.Script

inductive CompileCause where
  | incomplete
  | lexical (fault : LexFault)
  | unknownOperator (sign : String)
  /-- A token is missing; the purpose says what it would have been for. -/
  | missing (token purpose : String)
  | expressionWanted (kind : String)
  | typeMismatch (wanted found : String)
  /-- An index of a literal object that is no text. -/
  | objectIndex (found : String)
  /-- An index of a literal that goes by numbers. -/
  | sequenceIndex (wanted found : String)
  | undefinedVariable (name : String)
  | undefinedModule (name : String)
  | reserved (word : String)
  | variableWanted
  | propertyWanted
  | duplicateVariable (name : String)
  | duplicateProperty (name : String)
  | arrayTooLarge (limit : Nat)
  | objectTooLarge (limit : Nat)
  | tooDeep
  | misplacedFunction
  | functionNameWanted
  | parametersWanted (name : String)
  | bodyWanted (name : String)
  | duplicateFunction (name : String) (arity : Nat)
  | duplicateParameter (function name : String)
  | constantAssigned (name : String)
  | notAssignable
  | outsideLoop
  | defaultCaseNotLast
  | defaultCaseCondition
  | numberCaseAfterRange
  | notSupported (what : String)
deriving DecidableEq, Repr

/-- A fault of a source and its place. -/
structure CompileError where
  cause : CompileCause
  pos : Position
deriving DecidableEq, Repr

/-- The text of a fault. -/
def LexFault.message : LexFault → String
  | .unexpectedInput text => "Unexpected '" ++ text ++ "'"
  | .unterminatedText => "Open string is not terminated"
  | .textTooLong limit => "Length of string exceeds the maximum limit (" ++ toString limit ++ ")"
  | .malformedEscape text => "Invalid escape sequence: '" ++ text ++ "'"
  | .malformedNumber text => "Invalid number: '" ++ text ++ "'"
  | .malformedCharacter text => "Invalid character: '" ++ text ++ "'"
  | .malformedName text => "Variable name is not proper: '" ++ text ++ "'"
  | .improperSign sign hint => "'" ++ sign ++ "'" ++ hint
  | .signMistaken sign => "Possibly a typo of '" ++ sign ++ "'?"

/-- The number of parameters, in words. -/
def parameterCount : Nat → String
  | 0 => "no parameters"
  | 1 => "1 parameter"
  | n => toString n ++ " parameters"

/-- The text of a cause, without its place. -/
def CompileCause.message : CompileCause → String
  | .incomplete => "Script is incomplete"
  | .lexical fault => fault.message
  | .unknownOperator sign => "Unknown operator: '" ++ sign ++ "'"
  | .missing token purpose => "Expecting '" ++ token ++ "' " ++ purpose
  | .expressionWanted kind => "Expecting " ++ kind ++ " expression"
  | .typeMismatch wanted found => "Expecting " ++ wanted ++ ", not " ++ found
  | .objectIndex found => "Object map expects string index, not " ++ found
  | .sequenceIndex wanted found =>
    "Array, string or bit-field expects " ++ wanted ++ " index, not " ++ found
  | .undefinedVariable name => "Undefined variable: " ++ name
  | .undefinedModule name => "Undefined module: " ++ name
  | .reserved word =>
    "'" ++ word ++ "' is a reserved " ++ if isNameShaped word then "keyword" else "symbol"
  | .variableWanted => "Expecting name of a variable"
  | .propertyWanted => "Expecting name of a property"
  | .duplicateVariable name => "Duplicated variable name: " ++ name
  | .duplicateProperty name => "Duplicated property for object map literal: " ++ name
  | .arrayTooLarge limit =>
    "Size of array literal exceeds the maximum limit (" ++ toString limit ++ ")"
  | .objectTooLarge limit =>
    "Number of properties in object map literal exceeds the maximum limit (" ++ toString limit ++ ")"
  | .tooDeep => "Expression exceeds maximum complexity"
  | .misplacedFunction =>
    "Function definitions must be at global level and cannot be inside a block or another function"
  | .functionNameWanted => "Expecting function name in function declaration"
  | .parametersWanted name => "Expecting parameters for function " ++ name
  | .bodyWanted name => "Expecting body statement block for function " ++ name
  | .duplicateFunction name arity =>
    "Function " ++ name ++ " with " ++ parameterCount arity ++ " already exists"
  | .duplicateParameter function name =>
    "Duplicated parameter " ++ name ++ " for function " ++ function
  | .constantAssigned name =>
    if name = "" then "Cannot assign to a constant value" else "Cannot assign to constant " ++ name
  | .notAssignable => "Expression cannot be assigned to"
  | .outsideLoop => "Break statement should only be used inside a loop"
  | .defaultCaseNotLast => "Default switch case must be the last"
  | .defaultCaseCondition => "This switch case cannot have a condition"
  | .numberCaseAfterRange => "Numeric switch case cannot follow a range case"
  | .notSupported what => "'" ++ what ++ "' is not supported"

/-- The text of an error. -/
def CompileError.message (e : CompileError) : String := e.cause.message ++ placeSuffix (some e.pos)

end ScriptGate.Script
