/-
A dialogue with a database: a finite tree of requests, each followed by one dialogue per answer,
with a result or a failure at the leaves. A failure of the method's own is noted where it arises.
Whatever a database answers is a path through the tree, so what holds of every path holds for
every database. A database that keeps a state runs a dialogue to its end.
-/
import QueryMethods.Database.Event

namespace QueryMethods

/-- Requests that depend on the answers before them, up to a result. -/
inductive Dialogue (α : Type) where
  | done (result : Except QueryFailure α)
  | ask (event : Event) (next : Except DatabaseFailure event.Reply → Dialogue α)
  /-- A failure that no request reports. What is open is closed behind it. -/
  | fault (failure : QueryFailure) (rest : Dialogue α)

namespace Dialogue

/-! ## Composition -/

/-- Go on with the outcome of a dialogue, be it a result or a failure. -/
def finish {α β : Type} : Dialogue α → (Except QueryFailure α → Dialogue β) → Dialogue β
  | done result, f => f result
  | ask event next, f => ask event fun reply => (next reply).finish f
  | fault failure rest, f => fault failure (rest.finish f)

/-- A failure ends the dialogue. -/
def fail {α : Type} (e : QueryFailure) : Dialogue α := fault e (done (.error e))

/-- A computation without requests. -/
def ofExcept {α : Type} : Except QueryFailure α → Dialogue α
  | .ok a => done (.ok a)
  | .error e => fail e

/-- Go on with the result of a dialogue. -/
def andThen {α β : Type} (d : Dialogue α) (f : α → Dialogue β) : Dialogue β :=
  d.finish fun
    | .ok a => f a
    | .error e => done (.error e)

instance : Monad Dialogue where
  pure a := done (.ok a)
  bind := andThen

/-- A request; if it fails the dialogue fails. -/
def request (event : Event) : Dialogue event.Reply :=
  ask event fun
    | .ok reply => done (.ok reply)
    | .error e => done (.error (.statement e))

@[simp] theorem finish_done {α β : Type} (r : Except QueryFailure α)
    (f : Except QueryFailure α → Dialogue β) : (done r).finish f = f r := rfl

@[simp] theorem finish_ask {α β : Type} (event : Event)
    (next : Except DatabaseFailure event.Reply → Dialogue α)
    (f : Except QueryFailure α → Dialogue β) :
    (ask event next).finish f = ask event fun reply => (next reply).finish f := rfl

@[simp] theorem finish_fault {α β : Type} (e : QueryFailure) (rest : Dialogue α)
    (f : Except QueryFailure α → Dialogue β) :
    (fault e rest).finish f = fault e (rest.finish f) := rfl

theorem finish_finish {α β γ : Type} (d : Dialogue α) (f : Except QueryFailure α → Dialogue β)
    (g : Except QueryFailure β → Dialogue γ) :
    (d.finish f).finish g = d.finish fun r => (f r).finish g := by
  induction d with
  | done r => rfl
  | ask event next ih => simp only [finish_ask, ih]
  | fault e rest ih => simp only [finish_fault, ih]

/-! ## Running -/

/-- A step of a run: a request and its answer, or a failure that no request reports. -/
inductive Step where
  | asked (event : Event) (reply : Except DatabaseFailure event.Reply)
  | failed (failure : QueryFailure)

/-- The request of a step. -/
def Step.event? : Step → Option Event
  | asked event _ => some event
  | failed _ => none

/-- A database with a state: how it answers each request. -/
abbrev Responder (σ : Type) : Type := (event : Event) → σ → Except DatabaseFailure event.Reply × σ

/-- What a run leaves: the outcome, the steps in order, and the state behind them. -/
structure Run (σ α : Type) where
  outcome : Except QueryFailure α
  steps : List Step
  state : σ

/-- The requests in order. -/
def Run.events {σ α : Type} (r : Run σ α) : List Event := r.steps.filterMap Step.event?

/-- Run a dialogue against a database. -/
def run {σ α : Type} (respond : Responder σ) : Dialogue α → σ → Run σ α
  | done result, state => ⟨result, [], state⟩
  | ask event next, state =>
    let (reply, state) := respond event state
    let rest := (next reply).run respond state
    { rest with steps := .asked event reply :: rest.steps }
  | fault failure rest, state =>
    let rest := rest.run respond state
    { rest with steps := .failed failure :: rest.steps }

theorem run_finish {σ α β : Type} (respond : Responder σ) (d : Dialogue α)
    (f : Except QueryFailure α → Dialogue β) (state : σ) :
    (d.finish f).run respond state =
      let first := d.run respond state
      let second := (f first.outcome).run respond first.state
      { second with steps := first.steps ++ second.steps } := by
  induction d generalizing state with
  | done r => rfl
  | ask event next ih => simp [run, ih]
  | fault e rest ih => simp [run, ih]

end Dialogue

end QueryMethods
