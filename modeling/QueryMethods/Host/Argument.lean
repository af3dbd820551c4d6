/-
Arguments of the host program: one value or a container of values of one type, the type the
compiler sees, and the argument that is bound.
-/
import QueryMethods.Host.Order
import QueryMethods.Method.Signature

namespace QueryMethods

/-- The containers that an argument can be. -/
inductive ArgumentContainer where
  | single
  /-- A slice or an array of fixed size. -/
  | array
  | collection
  /-- A set: its distinct elements, which are passed in ascending order. -/
  | set
  deriving DecidableEq, Repr

/-- An argument of a host type. -/
structure HostArgument where
  container : ArgumentContainer
  type : HostType
  deriving DecidableEq, Repr

namespace HostArgument

/-- How the compiler sees the container. -/
def shape (a : HostArgument) : Multiplicity :=
  match a.container with
  | .single => .single
  | .array => .array
  | .collection | .set => .collection

/-- The declared argument. -/
def declare (a : HostArgument) (name : Option String) : Argument :=
  ⟨name, a.shape, a.type.valueType⟩

/-- The argument for one value. -/
def ofContent (c : Content) : Bindable := c.toBindable

/-- The argument for the elements of a container, in the container's order. -/
def ofContents (a : HostArgument) (contents : List Content) : Bindable :=
  let ordered := if a.container = .set then Content.sortDistinct contents else contents
  .list (ordered.map Content.toBindable)

end HostArgument

end QueryMethods
