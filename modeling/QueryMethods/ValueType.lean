/-
The types that signatures and bean fields name: a built-in type, a bean or a type only an adapter
knows, and whether a null is allowed.
-/
import QueryMethods.Builtin

namespace QueryMethods

/-- The kind of a type; beans and custom types go by their names. -/
inductive ValueKind where
  | scalar (type : BuiltinType)
  | bean (name : String)
  | custom (name : String)
  deriving DecidableEq, Repr, Inhabited

/-- A type and whether it admits null. -/
structure ValueType where
  kind : ValueKind
  nullable : Bool := false
  deriving DecidableEq, Repr, Inhabited

namespace ValueType

/-- The built-in type it names, if it names one. -/
def scalar? (t : ValueType) : Option BuiltinType :=
  match t.kind with
  | .scalar s => some s
  | _ => none

/-- The name that adapters are looked up by. -/
def name (t : ValueType) : String :=
  match t.kind with
  | .scalar s => s.name
  | .bean name => name
  | .custom name => name

/-- The name as messages give it. -/
def text (t : ValueType) : String := if t.nullable then "Option<" ++ t.name ++ ">" else t.name

end ValueType

end QueryMethods
