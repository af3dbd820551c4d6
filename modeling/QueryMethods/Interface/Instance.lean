/-
Interfaces are named sets of methods. An instance runs the compiled methods of one interface with
settings of its own; in a paged interface the page bounds set on it serve the next select and are
then gone, whatever becomes of the select.
-/
import QueryMethods.Execution.Run
import QueryMethods.Method.Compile

namespace QueryMethods

/-- An interface as it is declared. -/
structure Interface where
  name : String
  /-- Whether its selects honour page bounds. -/
  paged : Bool
  methods : List MethodDeclaration
  /-- Where it is declared. Two interfaces may share a name, never a path. -/
  path : String := name

/-- The compiled methods of an interface. -/
structure CompiledInterface where
  name : String
  paged : Bool
  methods : List CompiledMethod
  /-- Which compilation of the registry made it; no two are the same. -/
  serial : Nat

/-- The method of that name. -/
def CompiledInterface.method? (c : CompiledInterface) (name : String) : Option CompiledMethod :=
  c.methods.find? (·.method = name)

/-- An instance of an interface. -/
structure Instance where
  compiled : CompiledInterface
  settings : ExecutionSettings
  page : Page := {}

namespace Instance

def setFetchSize (i : Instance) (rows : Nat) : Instance :=
  { i with settings := { i.settings with fetchSize := rows } }

def setBatchSize (i : Instance) (entries : Nat) : Instance :=
  { i with settings := { i.settings with batchSize := entries } }

/-- Rows to skip in the next paged select. -/
def setFirstResult (i : Instance) (rows : UInt32) : Instance :=
  { i with page := { i.page with firstResult := rows } }

/-- Row limit of the next paged select; 0 for none. -/
def setMaxResults (i : Instance) (rows : UInt32) : Instance :=
  { i with page := { i.page with maxResults := rows } }

/-- Whether a method takes the page bounds. -/
def takesPage (i : Instance) (m : CompiledMethod) : Bool := i.compiled.paged && m.kind = .select

/-- Run the named method: the dialogue, and the instance as it is from then on. -/
def perform (i : Instance) (p : Provider) (method : String) (args : List Bindable) :
    Dialogue Output × Instance :=
  match i.compiled.method? method with
  | none => (.fail (.validation i.compiled.name method .notCompiled), i)
  | some m =>
    if i.takesPage m then (m.execute ⟨p, i.settings, some i.page⟩ args, { i with page := {} })
    else (m.execute ⟨p, i.settings, none⟩ args, i)

end Instance

end QueryMethods
