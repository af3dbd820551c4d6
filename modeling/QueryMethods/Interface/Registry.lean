/-
A registry compiles an interface once, against the adapters registered so far, and hands out
instances. Registering an adapter drops what was compiled; a failed registration and a failed
compilation leave everything as it was.
-/
import QueryMethods.Interface.Instance

namespace QueryMethods

/-- Adapters, settings for new instances, and the interfaces compiled so far, by path. -/
structure Registry where
  catalog : Catalog
  adapters : AdapterTable := {}
  settings : ExecutionSettings := {}
  compiled : List (String × CompiledInterface) := []
  /-- The number of compilations so far. -/
  serial : Nat := 0

namespace Registry

/-- Register an adapter. -/
def register (r : Registry) (key : String) (a : Adapter) : Except QueryFailure Registry := do
  let adapters ← r.adapters.register key a
  .ok { r with adapters, compiled := [] }

/-- Compile the methods of an interface against the adapters registered so far. -/
def compileFresh (r : Registry) (i : Interface) : Except QueryFailure (List CompiledMethod) :=
  i.methods.mapM fun d => d.compile r.catalog r.adapters i.name

/-- The compiled form kept for that interface. -/
def cached? (r : Registry) (i : Interface) : Option CompiledInterface :=
  (r.compiled.find? (·.1 = i.path)).map (·.2)

/-- Compile an interface, once. -/
def compile (r : Registry) (i : Interface) : Except QueryFailure CompiledInterface × Registry :=
  match r.cached? i with
  | some c => (.ok c, r)
  | none =>
    match r.compileFresh i with
    | .error e => (.error e, r)
    | .ok methods =>
      let c : CompiledInterface := ⟨i.name, i.paged, methods, r.serial⟩
      (.ok c, { r with compiled := (i.path, c) :: r.compiled, serial := r.serial + 1 })

/-- A fresh instance of an interface. -/
def newInstance (r : Registry) (i : Interface) : Except QueryFailure Instance × Registry :=
  match r.compile i with
  | (.ok c, r) => (.ok ⟨c, r.settings, {}⟩, r)
  | (.error e, r) => (.error e, r)

end Registry

end QueryMethods
