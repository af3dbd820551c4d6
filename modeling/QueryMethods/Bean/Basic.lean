/-
Beans: records whose fields are read and written by index. An instance carries the shape of its
class, so that a field can be read, written or descended into without any table. What a member
holds is converted to an argument when it is bound and from a datum when it is read.
-/
import QueryMethods.Coercion
import QueryMethods.ValueType

namespace QueryMethods

/-! ## Types of the host program -/

/-- Unsigned integers; they travel as 64-bit signed ones. -/
inductive UnsignedType where
  | word32
  | word64
  | size
  deriving DecidableEq, Repr

namespace UnsignedType

def name : UnsignedType → String
  | word32 => "u32"
  | word64 => "u64"
  | size => "usize"

/-- The values are below this bound. -/
def bound : UnsignedType → Nat
  | word32 => UInt32.size
  | word64 => UInt64.size
  | size => UInt64.size

end UnsignedType

/-- A type of the host program, before it is made optional. -/
inductive HostKind where
  | scalar (type : BuiltinType)
  | unsigned (type : UnsignedType)
  /-- A type with no built-in mapping: the name it is described by, and the name of the type that
  its values carry. -/
  | custom (name typeName : String)
  | bean (name : String)
  deriving DecidableEq, Repr

/-- A type of the host program that maps to a single value. -/
structure HostType where
  kind : HostKind
  optional : Bool := false
  deriving DecidableEq, Repr

/-- How the compiler sees the type. -/
def HostType.valueType (t : HostType) : ValueType :=
  { kind := match t.kind with
      | .scalar s => .scalar s
      | .unsigned _ => .scalar .long
      | .custom name _ => .custom name
      | .bean name => .bean name
    nullable := t.optional }

/-! ## Instances -/

/-- A member of a bean class. Skipped members are no fields; only nested ones can be descended
into for writing. -/
structure Member where
  name : String
  type : HostType
  nested : Bool := false
  skipped : Bool := false
  deriving DecidableEq, Repr

/-- The name and the members of a bean class, in order. -/
structure BeanShape where
  name : String
  members : List Member
  deriving DecidableEq, Repr

/-- What a member holds. -/
inductive Content where
  /-- An optional member without a value. -/
  | absent
  | value (v : Value)
  | unsigned (n : UInt64)
  | bean (shape : BeanShape) (contents : List Content)
  deriving Inhabited

/-- An instance of a bean class: one content per member. -/
structure Bean where
  shape : BeanShape
  contents : List Content

/-- A value handed over for binding. -/
inductive Bindable where
  | value (v : Value)
  | bean (b : Bean)
  | list (items : List Bindable)
  /-- A value that has no form that can be bound; encoding it fails. -/
  | invalid (error : ConversionFailure)
  deriving Inhabited

/-- A value produced by reading a row. -/
inductive Datum where
  | value (v : Value)
  | bean (b : Bean)

instance : Inhabited Datum := ⟨.value .null⟩

/-! ## To arguments and from data -/

/-- The argument that a content is bound as. -/
def Content.toBindable : Content → Bindable
  | absent => .value .null
  | value v => .value v
  | unsigned n =>
    if n.toNat ≤ Int64.maxValue.toInt then .value (.long (Int64.ofInt n.toNat))
    else .invalid (.overflow (toString n.toNat) "i64")
  | bean shape contents => .bean ⟨shape, contents⟩

namespace Datum

def isNull : Datum → Bool
  | value v => v.isNull
  | bean _ => false

/-- The value, which a bean is not. -/
def toValue : Datum → Except ConversionFailure Value
  | value v => .ok v
  | bean b => .error (.typeMismatch "scalar value" b.shape.name)

/-- The bean, if it is one of the named class. -/
def toBean (name : String) : Datum → Except ConversionFailure Bean
  | bean b => if b.shape.name = name then .ok b else .error (.beanMismatch name)
  | value v => .error (v.mismatch name)

/-- The value, converted to a built-in type; a null is refused. -/
def toScalar (d : Datum) (s : BuiltinType) : Except ConversionFailure Value := do
  let v ← s.conform (← d.toValue)
  if v.isNull then .error (.unexpectedNull s.name) else pure v

/-- The unsigned integer, read as a 64-bit signed one. -/
def toUnsigned (d : Datum) (u : UnsignedType) : Except ConversionFailure UInt64 := do
  let n := ((← d.toScalar .long).asInt).getD 0
  if 0 ≤ n ∧ n < u.bound then pure (UInt64.ofInt n) else .error (.overflow (toString n) u.name)

/-- The custom value, if it carries the right type. -/
def toCustom (d : Datum) (name typeName : String) : Except ConversionFailure Value := do
  match ← d.toValue with
  | .custom c =>
    if c.typeName = typeName then pure (.custom c) else .error (.typeMismatch name c.typeName)
  | .null => .error (.unexpectedNull name)
  | v => .error (v.mismatch name)

end Datum

/-- Convert a datum to a content of that type. -/
def HostType.ofDatum (t : HostType) (d : Datum) : Except ConversionFailure Content :=
  if t.optional && d.isNull then .ok .absent
  else
    match t.kind with
    | .scalar s => (d.toScalar s).map .value
    | .unsigned u => (d.toUnsigned u).map .unsigned
    | .custom name typeName => (d.toCustom name typeName).map .value
    | .bean name => (d.toBean name).map fun b => .bean b.shape b.contents

/-! ## Fields -/

namespace BeanShape

/-- The positions in `members` of the members that are fields, from `start` on. -/
def fieldPositions (start : Nat) : List Member → List (Nat × Member)
  | [] => []
  | m :: rest =>
    if m.skipped then fieldPositions (start + 1) rest
    else (start, m) :: fieldPositions (start + 1) rest

/-- The fields, in order, each with its position among the members. -/
def fields (s : BeanShape) : List (Nat × Member) := fieldPositions 0 s.members

/-- The index of the field of that name. -/
def indexOf? (s : BeanShape) (name : String) : Option Nat :=
  s.fields.findIdx? fun (_, m) => m.name = name

end BeanShape

namespace Bean

/-- What the field holds. -/
def content? (b : Bean) (index : Nat) : Option Content := do
  let (position, _) ← b.shape.fields[index]?
  b.contents[position]?

/-- Read a field; there is nothing beyond the last. -/
def get (b : Bean) (index : Nat) : Bindable :=
  ((b.content? index).map Content.toBindable).getD (.value .null)

/-- Overwrite a field. -/
def set (b : Bean) (index : Nat) (d : Datum) : Except ConversionFailure Bean :=
  match b.shape.fields[index]? with
  | some (position, m) => do
    let content ← m.type.ofDatum d
    pure { b with contents := b.contents.set position content }
  | none => .error (.beanMismatch b.shape.name)

/-- The bean in a nested field. -/
def nested? (b : Bean) (index : Nat) : Option Bean := do
  let (position, m) ← b.shape.fields[index]?
  if m.nested then
    match b.contents[position]? with
    | some (.bean shape contents) => some ⟨shape, contents⟩
    | _ => none
  else none

/-- Put a bean back into a nested field. -/
def replaceNested (b : Bean) (index : Nat) (inner : Bean) : Bean :=
  match b.shape.fields[index]? with
  | some (position, _) =>
    { b with contents := b.contents.set position (.bean inner.shape inner.contents) }
  | none => b

end Bean

end QueryMethods
