/-
Methods declared by host types.
-/
import QueryMethods.Host.Argument
import QueryMethods.Host.Return

namespace QueryMethods

/-- A method with the host types of its arguments and of what it returns. -/
structure HostMethod where
  name : String
  kind : StatementKind
  template : String
  arguments : List (Option String × HostArgument)
  returns : HostReturn
  deriving Repr

/-- The method as the compiler sees it. -/
def HostMethod.declaration (m : HostMethod) : MethodDeclaration :=
  { name := m.name
    kind := m.kind
    template := m.template
    signature :=
      { arguments := m.arguments.map fun (name, a) => a.declare name
        returns := m.returns.returnType } }

/-- Convert an outcome to the type that a method returns. -/
def HostReturn.ofOutcome (r : HostReturn) (outcome : Except QueryFailure Output) :
    Except QueryFailure Returned := do
  (r.ofOutput (← outcome)).mapError .conversion

end QueryMethods
