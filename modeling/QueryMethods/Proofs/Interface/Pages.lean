/-
Page bounds over the life of an instance. What a method runs under can be read off the operations
before it: on a paged interface a select runs under the bounds set since the last invoked select,
whatever became of that one; nothing else uses or changes them, and no method touches the settings.
-/
import Mathlib.Tactic
import QueryMethods.Host.Return
import QueryMethods.Interface.Instance

namespace QueryMethods

open Dialogue

/-! ## Operations -/

/-- What is done with an instance. -/
inductive InstanceOperation where
  | setFirstResult (rows : UInt32)
  | setMaxResults (rows : UInt32)
  | setFetchSize (rows : Nat)
  | setBatchSize (entries : Nat)
  | invoke (p : Provider) (method : String) (args : List Bindable) (returns : HostReturn)

namespace InstanceOperation

def firstResult? : InstanceOperation → Option UInt32
  | setFirstResult rows => some rows
  | _ => none

def maxResults? : InstanceOperation → Option UInt32
  | setMaxResults rows => some rows
  | _ => none

def fetchSize? : InstanceOperation → Option Nat
  | setFetchSize rows => some rows
  | _ => none

def batchSize? : InstanceOperation → Option Nat
  | setBatchSize entries => some entries
  | _ => none

/-- Whether an operation invokes a select of that interface. -/
def selects (c : CompiledInterface) : InstanceOperation → Bool
  | invoke _ method _ _ => (c.method? method).any (·.kind = .select)
  | _ => false

end InstanceOperation

/-- The outcome of a run as the type that the caller asks for. -/
def Dialogue.Run.returning {σ : Type} (returns : HostReturn) (r : Run σ Output) : Run σ Returned :=
  { outcome := r.outcome.bind fun o => (returns.ofOutput o).mapError .conversion
    steps := r.steps
    state := r.state }

/-- A session: the runs of what is invoked, one behind the other, with the same database. What the
operations work on is known by how it answers one of them and by what comes of it. -/
def InstanceOperation.session {S σ : Type}
    (answer : S → σ → InstanceOperation → Option (Run σ Returned))
    (step : S → InstanceOperation → S) : S → σ → List InstanceOperation → List (Run σ Returned)
  | _, _, [] => []
  | s, state, op :: ops =>
    match answer s state op with
    | none => session answer step (step s op) state ops
    | some run => run :: session answer step (step s op) run.state ops

namespace Instance

/-- The instance behind an operation. -/
def step (i : Instance) : InstanceOperation → Instance
  | .setFirstResult rows => i.setFirstResult rows
  | .setMaxResults rows => i.setMaxResults rows
  | .setFetchSize rows => i.setFetchSize rows
  | .setBatchSize entries => i.setBatchSize entries
  | .invoke p method args _ => (i.perform p method args).2

/-- The run of an invoked method. -/
def answer {σ : Type} (respond : Responder σ) (i : Instance) (state : σ) :
    InstanceOperation → Option (Run σ Returned)
  | .invoke p method args returns =>
    some (((i.perform p method args).1.run respond state).returning returns)
  | _ => none

end Instance

/-! ## Reading a history

The operations of a history are listed from the last one back. -/

/-- The settings behind a history: those set last. -/
def ExecutionSettings.behind (initial : ExecutionSettings) (past : List InstanceOperation) :
    ExecutionSettings where
  fetchSize := (past.findSome? (·.fetchSize?)).getD initial.fetchSize
  batchSize := (past.findSome? (·.batchSize?)).getD initial.batchSize

namespace CompiledInterface

variable (c : CompiledInterface) (initial : ExecutionSettings)

/-- The operations since the last select of a paged interface was invoked; all of them if the
interface is not paged. -/
def sinceSelect (past : List InstanceOperation) : List InstanceOperation :=
  if c.paged then past.takeWhile fun op => !op.selects c else past

/-- The bounds behind a history: those set since the last select, and 0 where none is set. -/
def boundsBehind (past : List InstanceOperation) : Page where
  firstResult := ((c.sinceSelect past).findSome? (·.firstResult?)).getD 0
  maxResults := ((c.sinceSelect past).findSome? (·.maxResults?)).getD 0

/-- What a method is run under: the bounds only if it is a select of a paged interface. -/
def contextBehind (past : List InstanceOperation) (p : Provider) (m : CompiledMethod) :
    CallContext where
  provider := p
  settings := initial.behind past
  page := if c.paged = true ∧ m.kind = .select then some (c.boundsBehind past) else none

/-- What a history makes of a method that is invoked. -/
def dialogueBehind (past : List InstanceOperation) (p : Provider) (method : String)
    (args : List Bindable) : Dialogue Output :=
  match c.method? method with
  | none => .fail (.validation c.name method .notCompiled)
  | some m => m.execute (c.contextBehind initial past p m) args

/-- The run that a history makes of an operation. -/
def answerBehind {σ : Type} (respond : Responder σ) (past : List InstanceOperation) (state : σ) :
    InstanceOperation → Option (Run σ Returned)
  | .invoke p method args returns =>
    some (((c.dialogueBehind initial past p method args).run respond state).returning returns)
  | _ => none

/-! ## The instance behind a history -/

/-- An instance as its history says that it is. -/
def instanceBehind (past : List InstanceOperation) : Instance :=
  ⟨c, initial.behind past, c.boundsBehind past⟩

theorem sinceSelect_cons {op : InstanceOperation} (other : op.selects c = false)
    (past : List InstanceOperation) : c.sinceSelect (op :: past) = op :: c.sinceSelect past := by
  unfold sinceSelect
  split
  · rw [List.takeWhile_cons_of_pos (by rw [other]; rfl)]
  · rfl

theorem boundsBehind_select {op : InstanceOperation} (paged : c.paged = true)
    (select : op.selects c = true) (past : List InstanceOperation) :
    c.boundsBehind (op :: past) = {} := by
  have nothing : c.sinceSelect (op :: past) = [] := by
    rw [sinceSelect, if_pos paged, List.takeWhile_cons_of_neg (by rw [select]; simp)]
  simp [boundsBehind, nothing]

/-- An operation that sets no bounds and takes none leaves them. -/
theorem boundsBehind_other (op : InstanceOperation) (first : op.firstResult? = none)
    (max : op.maxResults? = none) (kept : c.paged = false ∨ op.selects c = false)
    (past : List InstanceOperation) : c.boundsBehind (op :: past) = c.boundsBehind past := by
  have since : c.sinceSelect (op :: past) = op :: c.sinceSelect past := by
    rcases kept with unpaged | other
    · simp [sinceSelect, unpaged]
    · exact c.sinceSelect_cons other past
  simp only [boundsBehind, since, List.findSome?_cons, first, max]

theorem behind_other (op : InstanceOperation) (fetch : op.fetchSize? = none)
    (batch : op.batchSize? = none) (past : List InstanceOperation) :
    initial.behind (op :: past) = initial.behind past := by
  simp only [ExecutionSettings.behind, List.findSome?_cons, fetch, batch]

theorem perform_behind (past : List InstanceOperation) (p : Provider) (method : String)
    (args : List Bindable) :
    ((c.instanceBehind initial past).perform p method args).1 =
      c.dialogueBehind initial past p method args := by
  unfold Instance.perform dialogueBehind instanceBehind
  cases c.method? method with
  | none => rfl
  | some m =>
    by_cases paged : c.paged = true <;> by_cases select : m.kind = .select <;>
      simp [Instance.takesPage, contextBehind, paged, select]

theorem perform_leaves (past : List InstanceOperation) (p : Provider) (method : String)
    (args : List Bindable) (returns : HostReturn) :
    ((c.instanceBehind initial past).perform p method args).2 =
      c.instanceBehind initial (.invoke p method args returns :: past) := by
  have settings := behind_other initial (.invoke p method args returns) rfl rfl past
  by_cases taken : c.paged = true ∧
      (InstanceOperation.invoke p method args returns).selects c = true
  · -- a select of a paged interface takes the bounds, whatever becomes of it
    obtain ⟨paged, select⟩ := taken
    have gone := c.boundsBehind_select paged select past
    simp only [InstanceOperation.selects] at select
    unfold Instance.perform instanceBehind
    cases found : c.method? method with
    | none => simp [found] at select
    | some m =>
      have takes : m.kind = .select := by simpa [found] using select
      simp [Instance.takesPage, paged, takes, settings, gone]
  · -- all else leaves them: an unknown method, another statement, an interface without pages
    rw [not_and_or, Bool.not_eq_true, Bool.not_eq_true] at taken
    have kept := c.boundsBehind_other (.invoke p method args returns) rfl rfl taken past
    simp only [InstanceOperation.selects] at taken
    unfold Instance.perform instanceBehind
    cases found : c.method? method with
    | none => simp [settings, kept]
    | some m =>
      have keeps : c.paged = false ∨ m.kind ≠ .select := by simpa [found] using taken
      rcases keeps with unpaged | other
      · simp [Instance.takesPage, unpaged, settings, kept]
      · simp [Instance.takesPage, other, settings, kept]

/-- One operation: the instance follows its history. -/
theorem step_behind (past : List InstanceOperation) (op : InstanceOperation) :
    (c.instanceBehind initial past).step op = c.instanceBehind initial (op :: past) := by
  cases op with
  | setFirstResult rows =>
    rw [instanceBehind, instanceBehind, behind_other initial _ rfl rfl, boundsBehind, boundsBehind,
      c.sinceSelect_cons rfl]
    rfl
  | setMaxResults rows =>
    rw [instanceBehind, instanceBehind, behind_other initial _ rfl rfl, boundsBehind, boundsBehind,
      c.sinceSelect_cons rfl]
    rfl
  | setFetchSize rows =>
    rw [instanceBehind, instanceBehind, c.boundsBehind_other _ rfl rfl (.inr rfl)]
    rfl
  | setBatchSize entries =>
    rw [instanceBehind, instanceBehind, c.boundsBehind_other _ rfl rfl (.inr rfl)]
    rfl
  | invoke p method args returns => exact c.perform_leaves initial past p method args returns

theorem answer_behind {σ : Type} (respond : Responder σ) (past : List InstanceOperation)
    (state : σ) (op : InstanceOperation) :
    (c.instanceBehind initial past).answer respond state op =
      c.answerBehind initial respond past state op := by
  cases op with
  | invoke p method args returns =>
    rw [Instance.answer, perform_behind]
    rfl
  | _ => rfl

end CompiledInterface

/-! ## Sessions -/

/-- Two ways to follow a session agree if they agree on one operation. -/
theorem InstanceOperation.session_congr {S T σ : Type}
    {answer : S → σ → InstanceOperation → Option (Run σ Returned)}
    {step : S → InstanceOperation → S}
    {answer' : T → σ → InstanceOperation → Option (Run σ Returned)}
    {step' : T → InstanceOperation → T} (f : T → S)
    (answers : ∀ t state op, answer (f t) state op = answer' t state op)
    (steps : ∀ t op, step (f t) op = f (step' t op)) :
    ∀ (ops : List InstanceOperation) (t : T) (state : σ),
      session answer step (f t) state ops = session answer' step' t state ops
  | [], _, _ => rfl
  | op :: ops, t, state => by
    rw [session, session, answers, steps]
    cases answer' t state op with
    | none => exact session_congr f answers steps ops _ _
    | some run => exact congrArg (run :: ·) (session_congr f answers steps ops _ _)

namespace CompiledInterface

theorem foldl_step_behind (c : CompiledInterface) (initial : ExecutionSettings) :
    ∀ (ops past : List InstanceOperation),
      ops.foldl Instance.step (c.instanceBehind initial past) =
        c.instanceBehind initial (ops.reverse ++ past)
  | [], _ => rfl
  | op :: ops, past => by
    rw [List.foldl_cons, step_behind, foldl_step_behind c initial ops, List.reverse_cons,
      List.append_assoc]
    rfl

/-- Page bounds serve the next select of a paged interface and are then gone: in every session of
a fresh instance, with every database, each method runs under what the history before it says, and
behind the session the instance is what its history says. -/
theorem bounds_serve_next_select (c : CompiledInterface) (initial : ExecutionSettings) {σ : Type}
    (respond : Responder σ) (state : σ) (ops : List InstanceOperation) :
    InstanceOperation.session (Instance.answer respond) Instance.step ⟨c, initial, {}⟩ state ops =
        InstanceOperation.session (c.answerBehind initial respond) (fun past op => op :: past) []
          state ops ∧
      ops.foldl Instance.step ⟨c, initial, {}⟩ =
        ⟨c, initial.behind ops.reverse, c.boundsBehind ops.reverse⟩ := by
  have start : (⟨c, initial, {}⟩ : Instance) = c.instanceBehind initial [] := by
    simp [instanceBehind, ExecutionSettings.behind, boundsBehind, sinceSelect]
  rw [start]
  constructor
  · exact InstanceOperation.session_congr (c.instanceBehind initial)
      (c.answer_behind initial respond) (c.step_behind initial) ops [] state
  · rw [foldl_step_behind, List.append_nil]
    rfl

end CompiledInterface

end QueryMethods
