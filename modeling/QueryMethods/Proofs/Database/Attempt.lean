/-
Steps one after the other, of which the first that fails ends them all. There is no cleaning up
among them. A dialogue performs such steps if it comes to what they come to and leaves the database
as they do: what it closes behind a failure does not show. `Performs` has a rule for every way in
which dialogues are put together.
-/
import QueryMethods.Proofs.Database.FirstFailure

namespace QueryMethods

open Dialogue

/-- The failure that a refused request is for the caller. -/
def Event.refusal (e : DatabaseFailure) : Event → QueryFailure
  | .acquire => .noConnection e
  | _ => .statement e

/-- Steps against a database with a state, up to the first that fails. -/
abbrev Attempt (σ : Type) : Type → Type := EStateM QueryFailure σ

namespace Attempt

variable {σ α : Type}

/-- What the steps come to. -/
def outcome (a : Attempt σ α) (state : σ) : Except QueryFailure α :=
  match a.run state with
  | .ok result _ => .ok result
  | .error e _ => .error e

/-- A request to the database. -/
def send (respond : Responder σ) (event : Event) : Attempt σ event.Reply := fun state =>
  match respond event state with
  | (.ok reply, behind) => .ok reply behind
  | (.error e, behind) => .error (event.refusal e) behind

/-- A step that is taken only if the driver has it. -/
def ifSupported (supported : Bool) (a : Attempt σ Unit) : Attempt σ Unit :=
  if supported then a else pure ()

/-- A step that asks nothing of the database. -/
def own (result : Except QueryFailure α) : Attempt σ α := MonadExcept.ofExcept result

/-- A conversion. -/
def convert (result : Except ConversionFailure α) : Attempt σ α :=
  own (result.mapError .conversion)

@[simp] theorem own_ok (x : α) : (own (.ok x) : Attempt σ α) = pure x := rfl

theorem own_mapM {γ : Type} (f : γ → Except QueryFailure α) : ∀ xs : List γ,
    (own (xs.mapM f) : Attempt σ (List α)) = xs.mapM fun x => own (f x)
  | [] => rfl
  | x :: xs => by
    rw [List.mapM_cons, List.mapM_cons, ← own_mapM f xs]
    cases f x with
    | error e => rfl
    | ok y => cases xs.mapM f <;> rfl

end Attempt

namespace Dialogue

open Attempt

/-- A run that ends as steps do. -/
def Run.EndsAs {σ α : Type} (r : Run σ α) : EStateM.Result QueryFailure σ α → Prop
  | .ok result behind => r.outcome = .ok result ∧ r.state = behind
  | .error e _ => r.outcome = .error e

/-- Whatever the state, the dialogue ends as the steps do. -/
def Performs {σ α : Type} (respond : Responder σ) (d : Dialogue α) (a : Attempt σ α) : Prop :=
  ∀ state, (d.run respond state).EndsAs (a.run state)

section

variable {σ α β : Type} {respond : Responder σ} {d : Dialogue α} {a : Attempt σ α}

theorem Performs.outcome (h : Performs respond d a) (state : σ) :
    (d.run respond state).outcome = a.outcome state := by
  have ended := h state
  unfold Attempt.outcome
  cases hr : a.run state with
  | ok result behind =>
    rw [hr] at ended
    exact ended.1
  | error e behind =>
    rw [hr] at ended
    exact ended

theorem performs_pure (x : α) : Performs respond (pure x) (pure x) := fun _ => ⟨rfl, rfl⟩

theorem performs_fail (e : QueryFailure) : Performs respond (fail e : Dialogue α) (throw e) :=
  fun _ => rfl

theorem performs_ofExcept (x : Except QueryFailure α) : Performs respond (ofExcept x) (own x) := by
  cases x with
  | ok a => exact performs_pure a
  | error e => exact performs_fail e

theorem performs_request (event : Event) (refusal : ∀ e, event.refusal e = .statement e) :
    Performs respond (request event) (send respond event) := by
  intro state
  show Run.EndsAs _ (send respond event state)
  unfold request run send
  rcases respond event state with ⟨e | reply, behind⟩
  · exact congrArg Except.error (refusal e).symm
  · exact ⟨rfl, rfl⟩

/-- What goes on with the outcome of a dialogue goes on with a result, and passes a failure on. -/
theorem Performs.finish {f : Except QueryFailure α → Dialogue β} {g : α → Attempt σ β}
    (h : Performs respond d a) (ok : ∀ x, Performs respond (f (.ok x)) (g x))
    (error : ∀ e state, ((f (.error e)).run respond state).outcome = .error e) :
    Performs respond (d.finish f) (a >>= g) := by
  intro state
  have first : (d.run respond state).EndsAs (a state) := h state
  show Run.EndsAs _ (EStateM.bind a g state)
  rw [run_finish]
  unfold EStateM.bind
  cases hr : a state with
  | ok x behind =>
    rw [hr] at first
    obtain ⟨outcome, rfl⟩ := first
    dsimp only
    rw [outcome]
    exact ok x _
  | error e behind =>
    rw [hr] at first
    have failed : (d.run respond state).outcome = .error e := first
    dsimp only
    rw [failed]
    exact error e _

theorem Performs.bind {f : α → Dialogue β} {g : α → Attempt σ β} (h : Performs respond d a)
    (hf : ∀ x, Performs respond (f x) (g x)) : Performs respond (d >>= f) (a >>= g) :=
  h.finish hf fun _ _ => rfl

theorem performs_request_bind (event : Event) (refusal : ∀ e, event.refusal e = .statement e)
    {f : event.Reply → Dialogue β} {g : event.Reply → Attempt σ β}
    (h : ∀ reply, Performs respond (f reply) (g reply)) :
    Performs respond (request event >>= f) (send respond event >>= g) :=
  (performs_request event refusal).bind h

theorem performs_mapM {γ : Type} {f : γ → Dialogue α} {g : γ → Attempt σ α}
    (each : ∀ x, Performs respond (f x) (g x)) : ∀ xs : List γ,
      Performs respond (xs.mapM f) (xs.mapM g)
  | [] => by
    rw [List.mapM_nil, List.mapM_nil]
    exact performs_pure []
  | x :: xs => by
    rw [List.mapM_cons, List.mapM_cons]
    exact (each x).bind fun y => (performs_mapM each xs).bind fun ys => performs_pure (y :: ys)

theorem performs_forM {γ : Type} {f : γ → Dialogue Unit} {g : γ → Attempt σ Unit}
    (each : ∀ x, Performs respond (f x) (g x)) : ∀ xs : List γ,
      Performs respond (xs.forM f) (xs.forM g)
  | [] => performs_pure ()
  | x :: xs => (each x).bind fun _ => performs_forM each xs

theorem Performs.ifSupported {d : Dialogue Unit} {a : Attempt σ Unit} (h : Performs respond d a)
    (supported : Bool) :
    Performs respond (if supported then d else pure ()) (Attempt.ifSupported supported a) := by
  unfold Attempt.ifSupported
  cases supported with
  | false => exact performs_pure ()
  | true => exact h

/-- Closing a handle is a step behind a result. -/
theorem performs_close {closing : Event} (refusal : ∀ e, closing.refusal e = .statement e) (x : α) :
    Performs respond (ask closing fun closed => done (afterClose (.ok x) closed))
      (send respond closing >>= fun _ => pure x) := by
  intro state
  show Run.EndsAs _ (EStateM.bind (send respond closing) _ state)
  unfold run EStateM.bind send
  rcases respond closing state with ⟨e | reply, behind⟩
  · exact congrArg Except.error (refusal e).symm
  · exact ⟨rfl, rfl⟩

/-- Behind a failure it does not show. -/
theorem outcome_close_error {closing : Event} (e : QueryFailure) (state : σ) :
    ((ask closing fun closed => done (afterClose (.error e : Except _ α) closed)).run
      respond state).outcome = .error e := by
  unfold run
  rcases respond closing state with ⟨_ | _, _⟩ <;> rfl

/-- A handle is opened, used and closed. -/
theorem performs_bracket {opening closing : Event} {body : opening.Reply → Dialogue α}
    {use : opening.Reply → Attempt σ α} (opens : ∀ e, opening.refusal e = .statement e)
    (closes : ∀ e, closing.refusal e = .statement e)
    (h : ∀ reply, Performs respond (body reply) (use reply)) :
    Performs respond (bracket opening body closing) (do
      let reply ← send respond opening
      let result ← use reply
      let _ ← send respond closing
      return result) := by
  intro state
  show Run.EndsAs _ (EStateM.bind (send respond opening) _ state)
  unfold bracket run EStateM.bind send
  rcases respond opening state with ⟨e | reply, behind⟩
  · exact congrArg Except.error (opens e).symm
  · exact (h reply).finish (performs_close closes) outcome_close_error behind

end

end Dialogue

end QueryMethods
