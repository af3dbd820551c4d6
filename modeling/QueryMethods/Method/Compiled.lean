/-
Compiled query methods. A mapping says how one placeholder is encoded to slots or decoded from
them; a compiled method holds the statement text, the mappings in slot order, and how a result is
put together and handed back.
-/
import QueryMethods.Adapter.Codec
import QueryMethods.Bean.Class
import QueryMethods.Bean.Path
import QueryMethods.Method.Signature

namespace QueryMethods

/-! ## Mappings -/

/-- How values are encoded and decoded: by coercion to a built-in type or by a codec. -/
inductive Conversion where
  | scalar (type : BuiltinType)
  | adapter (codec : Codec)

namespace Conversion

/-- The name of the mapping, by groups. -/
def name : Conversion → String
  | scalar .bool => "Number.Boolean"
  | scalar .byte => "Number.Byte"
  | scalar .short => "Number.Short"
  | scalar .int => "Number.Integer"
  | scalar .long => "Number.Long"
  | scalar .float => "Number.Float"
  | scalar .double => "Number.Double"
  | scalar .char => "Character.Char"
  | scalar .string => "Character.String"
  | scalar .date => "DateTime.Date"
  | scalar .time => "DateTime.Time"
  | scalar .timestamp => "DateTime.Timestamp"
  | adapter codec => "Adapter." ++ codec.key

/-- The type codes of the slots. -/
def slotTypes : Conversion → List SlotType
  | scalar s => [s.slotType]
  | adapter codec => codec.slotTypes

/-- How many slots a value takes. -/
def width : Conversion → Nat
  | scalar _ => 1
  | adapter codec => codec.width

/-- The values to bind, one per slot. -/
def encode : Conversion → Value → Except ConversionFailure (List Value)
  | scalar s, v => (s.conform v).map ([·])
  | adapter codec, v => codec.encode v

/-- The value that the columns hold; a built-in type looks at the first. -/
def decode : Conversion → List Value → Except ConversionFailure Value
  | scalar s, columns => s.conform (columns.headD .null)
  | adapter codec, columns => codec.decode columns

end Conversion

/-- How one placeholder is bound or read. -/
structure SlotMapping where
  conversion : Conversion
  /-- The type of the value that is bound or produced. -/
  valueType : ValueType
  nullable : Bool
  /-- The slots or columns, counted from 1. -/
  slots : List Nat
  /-- Whether a single value or a list is bound. -/
  iteration : Multiplicity

namespace SlotMapping

/-- The first slot, 0 without any. -/
def firstSlot (m : SlotMapping) : Nat := m.slots.headD 0

/-- Decode the columns; a null must be allowed. -/
def decode (m : SlotMapping) (columns : List Value) : Except ConversionFailure Value := do
  let v ← m.conversion.decode columns
  if v.isNull && !m.nullable then .error (.unexpectedNull m.valueType.text) else pure v

end SlotMapping

/-- A parameter: the argument it takes, the path it follows and how it is bound. -/
structure ParameterBinding where
  mapping : SlotMapping
  /-- The position of the argument, counted from 0. -/
  argument : Nat
  path : FieldPath
  separator : String

/-- Where a decoded value goes. -/
inductive Destination where
  /-- It is the whole result. -/
  | whole
  | field (path : FieldPath)
  /-- A constructor parameter, counted from 1. -/
  | constructorSlot (number : Nat)
  | mapKey
  deriving DecidableEq, Repr, Inhabited

/-- A result: how it is read and where it goes. -/
structure ResultReading where
  mapping : SlotMapping
  target : Destination

/-! ## Compiled methods -/

/-- How an instance is made before its fields are set. -/
inductive InstanceOrigin where
  /-- A fresh instance. -/
  | fresh
  /-- The constructor at that index, fed by so many slots. -/
  | constructor (index arity : Nat)
  deriving DecidableEq, Repr, Inhabited

/-- How a result is put together. -/
inductive RowPlan where
  | none
  /-- The value of the result at that index. -/
  | atomic (index : Nat)
  | bean (type : BeanClass) (origin : InstanceOrigin)

/-- What a method hands back. -/
inductive ReturnForm where
  | unit
  /-- The number of affected rows. -/
  | count
  /-- The number of affected rows of each entry. -/
  | counts
  /-- The only row; without one a null if it is nullable. -/
  | one (nullable : Bool)
  | many
  | map
  deriving DecidableEq, Repr, Inhabited

/-- The name of a plan. -/
def ReturnForm.name : ReturnForm → String
  | unit => "unit"
  | count => "count"
  | counts => "counts"
  | one nullable => if nullable then "one?" else "one"
  | many => "many"
  | map => "map"

/-- A compiled query method. -/
structure CompiledMethod where
  interface : String
  method : String
  kind : StatementKind
  /-- The statement, one marker per slot, lists not yet expanded. -/
  sql : String
  /-- In slot order. -/
  parameters : List ParameterBinding
  results : List ResultReading
  /-- The index of the result that is the key of a map entry. -/
  key : Option Nat
  rowPlan : RowPlan
  returns : ReturnForm
  /-- The position of the list whose elements run one by one. -/
  batchPosition : Option Nat
  /-- The number of slots in `sql`. -/
  bindCount : Nat

/-- Whether the method runs once per element of a list. -/
def CompiledMethod.isBatched (m : CompiledMethod) : Bool := m.batchPosition.isSome

end QueryMethods
