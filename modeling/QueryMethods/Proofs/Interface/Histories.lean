/-
Histories of a registry: registrations, compilations and new instances in any order. What one
operation can do is said once, as the ways it goes; beside it stands what it would answer if
interfaces were compiled afresh each time.
-/
import Mathlib.Tactic
import QueryMethods.Interface.Registry
import QueryMethods.Proofs.Interface.Registrations
import QueryMethods.Proofs.Result

namespace QueryMethods

/-! ## Operations and answers -/

/-- The interfaces of a program, by path. -/
structure Declarations where
  interface : String → Interface
  path_interface : ∀ path, (interface path).path = path

/-- What a registry is asked to do; interfaces are told by their paths. -/
inductive RegistryOperation where
  | register (key : String) (a : Adapter)
  | compile (path : String)
  | newInstance (path : String)

namespace RegistryOperation

/-- The adapter that an operation tries to register. -/
def attempt? : RegistryOperation → Option (String × Adapter)
  | .register key a => some (key, a)
  | .compile _ | .newInstance _ => none

/-- The interface whose compiled form an operation asks for. -/
def path? : RegistryOperation → Option String
  | .register _ _ => none
  | .compile path | .newInstance path => some path

end RegistryOperation

/-- What a registry answers. -/
inductive RegistryAnswer where
  | registered (result : Except QueryFailure Unit)
  | compiled (result : Except QueryFailure CompiledInterface)
  | instantiated (result : Except QueryFailure Instance)

/-- A compiled form without its identity: what two compilations may have in common. -/
def CompiledInterface.anonymous (c : CompiledInterface) : CompiledInterface :=
  { c with serial := 0 }

namespace RegistryAnswer

/-- The compiled form that an answer hands out. -/
def form? : RegistryAnswer → Option CompiledInterface
  | .compiled (.ok c) => some c
  | .instantiated (.ok i) => some i.compiled
  | .registered _ | .compiled (.error _) | .instantiated (.error _) => none

def failed : RegistryAnswer → Bool
  | .registered result => !result.isOk
  | .compiled result => !result.isOk
  | .instantiated result => !result.isOk

theorem form?_of_failed : ∀ {answer : RegistryAnswer}, answer.failed = true → answer.form? = none
  | .registered _, _ => rfl
  | .compiled (.error _), _ => rfl
  | .instantiated (.error _), _ => rfl

/-- An answer, whatever the identity of the compiled form in it. -/
def content : RegistryAnswer → RegistryAnswer
  | .registered result => .registered result
  | .compiled result => .compiled (result.map (·.anonymous))
  | .instantiated result =>
    .instantiated (result.map fun i => { i with compiled := i.compiled.anonymous })

end RegistryAnswer

/-! ## Answers without a registry -/

/-- Compile an interface afresh. -/
def Interface.form (i : Interface) (catalog : Catalog) (adapters : AdapterTable) :
    Except QueryFailure CompiledInterface :=
  (i.methods.mapM fun (d : MethodDeclaration) => d.compile catalog adapters i.name).map
    (⟨i.name, i.paged, ·, 0⟩)

/-- What an operation has to answer where those adapters are registered. -/
def RegistryOperation.afresh (declared : Declarations) (catalog : Catalog)
    (settings : ExecutionSettings) (adapters : AdapterTable) : RegistryOperation → RegistryAnswer
  | .register key _ =>
    .registered (if adapters.isFree key then .ok () else .error (.duplicateAdapter key))
  | .compile path => .compiled ((declared.interface path).form catalog adapters)
  | .newInstance path =>
    .instantiated (((declared.interface path).form catalog adapters).map (⟨·, settings, {}⟩))

namespace Registry

variable (declared : Declarations)

/-! ## Histories -/

/-- Perform an operation: the answer, and the registry from then on. -/
def perform (r : Registry) : RegistryOperation → RegistryAnswer × Registry
  | .register key a =>
    match r.register key a with
    | .ok r' => (.registered (.ok ()), r')
    | .error e => (.registered (.error e), r)
  | .compile path =>
    (.compiled (r.compile (declared.interface path)).1, (r.compile (declared.interface path)).2)
  | .newInstance path =>
    (.instantiated (r.newInstance (declared.interface path)).1,
      (r.newInstance (declared.interface path)).2)

/-- The registry behind a history. -/
def after (r : Registry) (history : List RegistryOperation) : Registry :=
  history.foldl (fun r op => (r.perform declared op).2) r

/-- The answers to a history, in order. -/
def answers (r : Registry) : List RegistryOperation → List RegistryAnswer
  | [] => []
  | op :: history => (r.perform declared op).1 :: answers (r.perform declared op).2 history

variable {declared}

theorem after_append (r : Registry) (history more : List RegistryOperation) :
    r.after declared (history ++ more) = (r.after declared history).after declared more :=
  List.foldl_append

/-- What every operation preserves holds behind a history. -/
theorem after_invariant {P : Registry → Prop}
    (step : ∀ {r : Registry} (op : RegistryOperation), P r → P (r.perform declared op).2) :
    ∀ (history : List RegistryOperation) {r : Registry}, P r → P (r.after declared history)
  | [], _, holds => holds
  | op :: history, _, holds => after_invariant step history (step op holds)

/-! ## One operation -/

theorem form_eq (r : Registry) (i : Interface) :
    i.form r.catalog r.adapters = (r.compileFresh i).map (⟨i.name, i.paged, ·, 0⟩) := rfl

/-- The three ways a compilation goes. -/
theorem compile_cases (r : Registry) (i : Interface) :
    (∃ c, r.cached? i = some c ∧ r.compile i = (.ok c, r)) ∨
    (∃ e, i.form r.catalog r.adapters = .error e ∧ r.compile i = (.error e, r)) ∨
    (∃ c, i.form r.catalog r.adapters = .ok c.anonymous ∧ c.serial = r.serial ∧
      r.compile i =
        (.ok c, { r with compiled := (i.path, c) :: r.compiled, serial := r.serial + 1 })) := by
  unfold compile
  rw [form_eq]
  cases kept : r.cached? i with
  | some c => exact .inl ⟨c, rfl, rfl⟩
  | none =>
    cases fresh : r.compileFresh i with
    | error e => exact .inr (.inl ⟨e, rfl, rfl⟩)
    | ok methods => exact .inr (.inr ⟨_, rfl, rfl, rfl⟩)

theorem newInstance_eq (r : Registry) (i : Interface) :
    r.newInstance i = ((r.compile i).1.map (⟨·, r.settings, {}⟩), (r.compile i).2) := by
  rcases compile_cases r i with ⟨c, -, eq⟩ | ⟨e, -, eq⟩ | ⟨c, -, -, eq⟩ <;>
    · rw [newInstance, eq]
      rfl

theorem perform_register_of_free {r : Registry} {key : String} {a : Adapter}
    (free : r.adapters.isFree key = true) :
    r.perform declared (.register key a) = (.registered (.ok ()),
      { r with adapters := r.adapters.accept key a, compiled := [] }) := by
  rw [perform, register, AdapterTable.register_of_free free]
  rfl

theorem perform_register_of_taken {r : Registry} {key : String} {a : Adapter}
    (taken : r.adapters.isFree key = false) :
    r.perform declared (.register key a) =
      (.registered (.error (.duplicateAdapter key)), r) := by
  rw [perform, register, AdapterTable.register_of_taken taken]
  rfl

/-- The three ways an operation goes: it asks for a compiled form, it registers an adapter, or it
is refused a registration. -/
theorem perform_cases (declared : Declarations) (r : Registry) (op : RegistryOperation) :
    (∃ path, op.path? = some path ∧ op.attempt? = none ∧
      (r.perform declared op).1.form? = (r.compile (declared.interface path)).1.toOption ∧
      (∀ result, (r.perform declared op).1 ≠ .registered result) ∧
      (r.perform declared op).2 = (r.compile (declared.interface path)).2) ∨
    (∃ key a, op = .register key a ∧ r.adapters.isFree key = true ∧
      r.perform declared op = (.registered (.ok ()),
        { r with adapters := r.adapters.accept key a, compiled := [] })) ∨
    (∃ key a, op = .register key a ∧ r.adapters.isFree key = false ∧
      r.perform declared op = (.registered (.error (.duplicateAdapter key)), r)) := by
  cases op with
  | register key a =>
    cases free : r.adapters.isFree key with
    | true => exact .inr (.inl ⟨key, a, rfl, free, perform_register_of_free free⟩)
    | false => exact .inr (.inr ⟨key, a, rfl, free, perform_register_of_taken free⟩)
  | compile path =>
    refine .inl ⟨path, rfl, rfl, ?_, nofun, rfl⟩
    rw [perform]
    cases (r.compile (declared.interface path)).1 <;> rfl
  | newInstance path =>
    rw [perform, newInstance_eq]
    refine .inl ⟨path, rfl, rfl, ?_, nofun, rfl⟩
    cases (r.compile (declared.interface path)).1 <;> rfl

end Registry

end QueryMethods
