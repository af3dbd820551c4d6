/-
Declarations of query methods: the kind of statement, the template text, and the types of the
arguments and of what the method returns.
-/
import QueryMethods.ValueType

namespace QueryMethods

/-- The kind of statement that a method runs. -/
inductive StatementKind where
  | select
  | insert
  | update
  | delete
  | call
  deriving DecidableEq, Repr, Inhabited

namespace StatementKind

def name : StatementKind → String
  | select => "select"
  | insert => "insert"
  | update => "update"
  | delete => "delete"
  | call => "call"

def ofName? : String → Option StatementKind
  | "select" => some select
  | "insert" => some insert
  | "update" => some update
  | "delete" => some delete
  | "call" => some call
  | _ => none

/-- Statements that change rows and return none. -/
def isMutation : StatementKind → Bool
  | insert | update | delete => true
  | select | call => false

end StatementKind

/-- Whether an argument is one value or several, and in which kind of container. -/
inductive Multiplicity where
  | single
  | array
  | collection
  deriving DecidableEq, Repr, Inhabited

/-- An argument of a method; `element` is the type of its elements if it has several. -/
structure Argument where
  name : Option String
  shape : Multiplicity
  element : ValueType
  deriving DecidableEq, Repr, Inhabited

/-- Whether the argument has elements. -/
def Argument.hasElements (a : Argument) : Bool := a.shape ≠ .single

/-- What a method returns. -/
inductive ReturnType where
  | unit
  | single (type : ValueType)
  | many (type : ValueType)
  | map (key value : ValueType)
  deriving DecidableEq, Repr, Inhabited

/-- The argument and return types of a method. -/
structure Signature where
  arguments : List Argument
  returns : ReturnType
  deriving DecidableEq, Repr, Inhabited

/-- The position of the first argument of that name. -/
def Signature.position? (s : Signature) (name : String) : Option Nat :=
  s.arguments.findIdx? fun a => a.name = some name

/-- A query method as it is declared. -/
structure MethodDeclaration where
  name : String
  kind : StatementKind
  template : String
  signature : Signature
  deriving DecidableEq, Repr, Inhabited

end QueryMethods
