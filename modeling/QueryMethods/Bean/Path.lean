/-
Paths into beans: a field path is resolved to indices once and then followed by index, for
reading through any beans and for writing through nested ones.
-/
import QueryMethods.Bean.Basic

namespace QueryMethods

/-- One step of a field path. -/
structure PathStep where
  index : Nat
  name : String
  deriving DecidableEq, Repr, Inhabited

/-- A field path, resolved to indices. -/
abbrev FieldPath := List PathStep

/-- The names of the steps, with points between. -/
def FieldPath.text (a : FieldPath) : String := ".".intercalate (a.map (·.name))

namespace Bean

/-- Follow a path from a bean. A null on the way reads as null. -/
def readPath (b : Bean) : List PathStep → Except ConversionFailure Bindable
  | [] => .ok (.bean b)
  | [last] => .ok (b.get last.index)
  | step :: rest =>
    match b.get step.index with
    | .bean inner => inner.readPath rest
    | .value .null => .ok (.value .null)
    | _ => .error (.beanMismatch step.name)

/-- Write at the end of a path. -/
def writePath (b : Bean) (d : Datum) : List PathStep → Except ConversionFailure Bean
  | [] => .error (.beanMismatch "field path")
  | [last] => b.set last.index d
  | step :: rest =>
    match b.nested? step.index with
    | some inner => (inner.writePath d rest).map (b.replaceNested step.index)
    | none => .error (.beanMismatch step.name)

end Bean

namespace FieldPath

/-- Follow the path from an argument; the empty path is the argument itself. -/
def read (a : FieldPath) (root : Bindable) : Except ConversionFailure Bindable :=
  match a with
  | [] => .ok root
  | steps =>
    match root with
    | .bean b => b.readPath steps
    | .value .null => .ok (.value .null)
    | .invalid e => .error e
    | _ => .error (.beanMismatch "bean argument")

/-- Write a datum at the end of the path, descending into nested beans. -/
def write (a : FieldPath) (root : Bean) (d : Datum) : Except ConversionFailure Bean :=
  root.writePath d a

end FieldPath

end QueryMethods
