/-
Failures of compiling and running query methods, by cause, and what is said about each.
-/
import QueryMethods.Method.Signature
import QueryMethods.Template.Basic
import QueryMethods.Value

namespace QueryMethods

/-- A failure that the database reports. -/
structure DatabaseFailure where
  message : String
  /-- The state code, when the driver gives one. -/
  code : Option String := none
  deriving DecidableEq, Repr, Inhabited

/-! ## Rejections -/

/-- Why no mapping serves a type. -/
inductive MissingMapping where
  /-- Neither a built-in type nor an adapter has that name. -/
  | unknown (name : String)
  /-- The adapter of that key does not handle the type. -/
  | unhandled (type : ValueType) (key : String)
  /-- The adapter of that key declares no slots. -/
  | slotless (type : ValueType) (key : String)
  deriving DecidableEq, Repr, Inhabited

def MissingMapping.message : MissingMapping → String
  | unknown name => "no mapping found for type " ++ name
  | unhandled type key =>
    "no mapping found for type " ++ type.text ++ " (adapter " ++ key ++ " does not handle it)"
  | slotless type key =>
    "no mapping found for type " ++ type.text ++ " (adapter " ++ key ++ " declares no SQL slots)"

/-- Why an adapter gives no codec for a type. -/
inductive CodecFailure where
  | missing (cause : MissingMapping)
  /-- Generating the codec failed. -/
  | generation (cause : ConversionFailure)
  deriving DecidableEq, Repr, Inhabited

def CodecFailure.message : CodecFailure → String
  | missing cause => cause.message
  | generation cause => "conversion failed: " ++ cause.message

/-- Why a method is not accepted, or a call of it is not run. -/
inductive Rejection where
  | template (error : TemplateFailure)
  /-- A statement that runs once per element has a second list, at that position from 1. -/
  | secondBatch (kind : StatementKind) (position : Nat)
  /-- A position beyond the arguments, counted from 1. -/
  | positionOutOfRange (position count : Nat)
  | unknownArgument (name : String)
  | unknownField (owner field : String)
  | tagMismatch (tag : String) (type : ValueType)
  | noCodec (error : CodecFailure)
  | bareBean (name : String)
  | outWithoutReturn
  | outNotSingle
  | selectWithoutReturn
  | resultsInMutation (kind : StatementKind)
  | keyWithoutMap
  | missingParameter (slot : Nat)
  | fieldOfNonBean (type : ValueType)
  | throughOptional (path : String)
  | fieldTwice (path : String)
  | slotsOfNonBean (type : ValueType)
  | slotNumbers (arity : Nat)
  | noConstructor (bean : String) (tags : List String)
  | noResults
  | wholeValueNotAlone
  | noDefault (bean : String)
  | mapWithoutKey
  | outOfBatch
  | notACount (kind : StatementKind)
  | notCounts (kind : StatementKind)
  | missingArgument (position : Nat)
  | noPaging
  | batchNotList
  | notCompiled
  deriving DecidableEq, Repr, Inhabited

/-- What is said about the rejection. -/
def Rejection.message : Rejection → String
  | template error => error.message
  | secondBatch kind position =>
    kind.name ++ " statements accept one collection argument to batch over, found another at %" ++
      toString position
  | positionOutOfRange position count =>
    "placeholder %" ++ toString position ++ " is out of range, the method has " ++
      toString count ++ " argument(s)"
  | unknownArgument name => "no argument named " ++ name
  | unknownField owner field => owner ++ " has no field " ++ field
  | tagMismatch tag type =>
    "type tag " ++ tag ++ " does not apply to a value of type " ++ type.text
  | noCodec error => error.message
  | bareBean name =>
    name ++ " is a bean: name one of its fields or give the placeholder a type tag"
  | outWithoutReturn => "OUT parameters need a return value to be read into"
  | outNotSingle => "call statements return a single value built from OUT parameters"
  | selectWithoutReturn => "select methods must return a value"
  | resultsInMutation kind =>
    "result placeholders are not allowed in " ++ kind.name ++ " statements"
  | keyWithoutMap => "a map key placeholder needs a map return type"
  | missingParameter slot => "no constructor parameter " ++ toString slot
  | fieldOfNonBean type => "field results need a bean result type, found " ++ type.text
  | throughOptional path => "cannot populate " ++ path ++ " through an optional bean"
  | fieldTwice path => "field " ++ path ++ " is mapped twice"
  | slotsOfNonBean type => "constructor slots need a bean result type, found " ++ type.text
  | slotNumbers arity =>
    "constructor slots must be numbered 1 to " ++ toString arity ++ " without gaps or repeats"
  | noConstructor bean tags =>
    bean ++ " has no constructor accepting (" ++ ", ".intercalate tags ++ ")"
  | noResults => "select statements need at least one result placeholder"
  | wholeValueNotAlone => "a whole-value result placeholder cannot be combined with other results"
  | noDefault bean => bean ++ " has no default constructor; map it through constructor slots"
  | mapWithoutKey => "map results need a key placeholder \x7b%%,%*\x7d"
  | outOfBatch => "OUT parameters cannot be read from a batch"
  | notACount kind => kind.name ++ " methods return () or an affected-row count"
  | notCounts kind =>
    "batched " ++ kind.name ++ " methods return () or a list of affected-row counts"
  | missingArgument position => "called without argument " ++ toString position
  | noPaging => "paged call on a provider without a pagination strategy"
  | batchNotList => "batch argument is not a collection"
  | notCompiled => "method was not compiled"

/-! ## Failures of a query -/

/-- Why compiling an interface or running a method failed. -/
inductive QueryFailure where
  | validation (interface method : String) (reason : Rejection)
  | noMapping (cause : MissingMapping)
  | duplicateAdapter (key : String)
  | noConnection (error : DatabaseFailure)
  | statement (error : DatabaseFailure)
  | emptyResult
  | multipleResults
  | conversion (error : ConversionFailure)
  | settings (reason : String)
  /-- Releasing the connection failed; `pending` is the failure the call already had. -/
  | release (error : DatabaseFailure) (pending : Option QueryFailure)
  deriving Inhabited

namespace QueryFailure

/-- The name of the cause. -/
def kind : QueryFailure → String
  | validation _ _ _ => "Validation"
  | noMapping _ => "NoMapping"
  | duplicateAdapter _ => "DuplicateAdapter"
  | noConnection _ => "NoConnection"
  | statement _ => "Statement"
  | emptyResult => "EmptyResult"
  | multipleResults => "MultipleResults"
  | conversion _ => "Conversion"
  | settings _ => "Config"
  | release _ _ => "Release"

/-- What is said about the failure. -/
def message : QueryFailure → String
  | validation interface method reason => interface ++ "::" ++ method ++ ": " ++ reason.message
  | noMapping cause => cause.message
  | duplicateAdapter key => "adapter already registered for key " ++ key
  | noConnection error => "no connection available: " ++ error.message
  | statement error => "statement failed: " ++ error.message
  | emptyResult => "Empty result set returned"
  | multipleResults => "More than one result in result set"
  | conversion error => "conversion failed: " ++ error.message
  | settings reason => "invalid configuration: " ++ reason
  | release error _ => "connection release failed: " ++ error.message

/-- Failures that say how many rows there were. -/
def isRowCount : QueryFailure → Bool
  | emptyResult | multipleResults => true
  | _ => false

end QueryFailure

/-- The failure of a query that an adapter without a codec causes. -/
def CodecFailure.toQueryFailure : CodecFailure → QueryFailure
  | missing cause => .noMapping cause
  | generation cause => .conversion cause

end QueryMethods
