/-
Values exchanged with the database, and the failures of converting them.
-/
import QueryMethods.Builtin
import QueryMethods.Calendar
import QueryMethods.Number.Shortest

namespace QueryMethods

/-! ## Values -/

/-- A single value of a record field. -/
inductive Atom where
  | integer (value : Int)
  | text (value : String)
  deriving DecidableEq, Repr, Inhabited

/-- A value of a type that has no built-in mapping, carried to and from an adapter: the name of
its type and its fields. -/
structure ForeignValue where
  typeName : String
  fields : List (String × Atom)
  deriving DecidableEq, Repr, Inhabited

/-- A value that can be bound to a slot or read from a column. -/
inductive Value where
  | null
  | bool (value : Bool)
  | byte (value : Int8)
  | short (value : Int16)
  | int (value : Int32)
  | long (value : Int64)
  | float (value : Binary32)
  | double (value : Binary64)
  | char (value : Char)
  | string (value : String)
  | date (value : Date)
  | time (value : TimeOfDay)
  | timestamp (value : Timestamp)
  | custom (value : ForeignValue)
  deriving DecidableEq, Repr, Inhabited

namespace Value

def isNull : Value → Bool
  | null => true
  | _ => false

/-- The name of the kind of value, as messages give it. -/
def kind : Value → String
  | null => "null"
  | bool _ => "bool"
  | byte _ => "i8"
  | short _ => "i16"
  | int _ => "i32"
  | long _ => "i64"
  | float _ => "f32"
  | double _ => "f64"
  | char _ => "char"
  | string _ => "string"
  | date _ => "date"
  | time _ => "time"
  | timestamp _ => "timestamp"
  | custom c => c.typeName

/-- The integer view: integers of every width, and truth values as 0 and 1. -/
def asInt : Value → Option Int
  | bool b => some (if b then 1 else 0)
  | byte n => some n.toInt
  | short n => some n.toInt
  | int n => some n.toInt
  | long n => some n.toInt
  | _ => none

/-- The floating-point view: both float widths, and whatever has an integer view. -/
def asBinary64 : Value → Option Binary64
  | float x => some x.toBinary64
  | double x => some x
  | v => v.asInt.map Binary64.ofInt

/-- The text of a value. -/
def text : Value → String
  | null => "NULL"
  | bool b => if b then "true" else "false"
  | byte n => toString n.toInt
  | short n => toString n.toInt
  | int n => toString n.toInt
  | long n => toString n.toInt
  | float x => x.text .plain
  | double x => x.text .plain
  | char c => "'" ++ String.singleton c ++ "'"
  | string s => "'" ++ s ++ "'"
  | date d => d.text
  | time t => t.text
  | timestamp ts => ts.text
  | custom c => "<" ++ c.typeName ++ ">"

/-- Equality as a program compares values: numbers of one kind numerically, and no custom value
with any other. -/
def equal : Value → Value → Bool
  | float a, float b => a.equal b
  | double a, double b => a.equal b
  | custom _, custom _ => false
  | a, b => a = b

end Value

/-! ## Conversion failures -/

/-- Why a value could not be converted. -/
inductive ConversionFailure where
  | typeMismatch (expected found : String)
  /-- A number outside the range of the target type. -/
  | overflow (value target : String)
  /-- A null where the type has none. -/
  | unexpectedNull (type : String)
  | beanMismatch (expected : String)
  /-- An adapter refused the value. -/
  | adapter (reason : String)
  deriving DecidableEq, Repr, Inhabited

/-- The name of the cause. -/
def ConversionFailure.kind : ConversionFailure → String
  | typeMismatch _ _ => "TypeMismatch"
  | overflow _ _ => "Overflow"
  | unexpectedNull _ => "UnexpectedNull"
  | beanMismatch _ => "BeanMismatch"
  | adapter _ => "Adapter"

/-- What is said about the failure. -/
def ConversionFailure.message : ConversionFailure → String
  | typeMismatch expected found => "expected " ++ expected ++ ", found " ++ found
  | overflow value target => "value " ++ value ++ " does not fit in " ++ target
  | unexpectedNull type => "NULL read into non-optional " ++ type
  | beanMismatch expected => "bean type mismatch: expected " ++ expected
  | adapter reason => "adapter error: " ++ reason

/-- A failure that names what was expected and the kind of value found. -/
def Value.mismatch (v : Value) (expected : String) : ConversionFailure :=
  .typeMismatch expected v.kind

end QueryMethods
