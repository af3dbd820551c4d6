/-
Which failure the caller of a method sees: the first one of the run, together with the failed
release if the connection cannot be given back.
-/
import QueryMethods.Proofs.Execution.InOrder

namespace QueryMethods

open Dialogue

/-! ## Connections -/

namespace Dialogue

section

variable {α σ : Type} {p : Provider} {body : Dialogue α}

theorem release_mem_iff {inner : List Step} (h : Within Inside inner)
    {released reply : Except DatabaseFailure Unit} :
    Step.asked .release reply ∈
        .asked .acquire (.ok ()) :: (inner ++ [.asked .release released]) ↔ reply = released := by
  have outside : Step.asked .release reply ∉ inner := fun hm =>
    (h .release (List.mem_filterMap.2 ⟨_, hm, rfl⟩)).2 rfl
  constructor
  · intro hm
    rcases List.mem_cons.1 hm with hm | hm
    · cases hm
    · rcases List.mem_append.1 hm with hm | hm
      · exact absurd hm outside
      · cases List.mem_singleton.1 hm
        rfl
  · rintro rfl
    exact List.mem_cons_of_mem _ (List.mem_append_right _ List.mem_cons_self)

theorem run_onConnection_refused {respond : Responder σ} {state behind : σ} {e : DatabaseFailure}
    (refused : respond .acquire state = (.error e, behind)) :
    (onConnection p body).run respond state =
      ⟨.error (.noConnection e), [.asked .acquire (.error e)], behind⟩ := by
  rw [onConnection, run, refused]
  rfl

/-- The outcome of using a connection, once it is given back or could not be. -/
def afterRelease (outcome : Except QueryFailure α) :
    Except DatabaseFailure Unit → Except QueryFailure α
  | .ok _ => outcome
  | .error e => .error (.release e (failure? outcome))

/-- Behind the acquiring of a connection comes its use, and then its release. -/
theorem run_onConnection {respond : Responder σ} {state behind last : σ} {inner : Run σ α}
    {reply : Except DatabaseFailure Unit} (acquired : respond .acquire state = (.ok (), behind))
    (used : (p.onAcquire >>= fun _ => body).run respond behind = inner)
    (released : respond .release inner.state = (reply, last)) :
    (onConnection p body).run respond state =
      ⟨afterRelease inner.outcome reply,
        .asked .acquire (.ok ()) :: (inner.steps ++ [.asked .release reply]), last⟩ := by
  rw [onConnection, run, acquired]
  dsimp only
  rw [run_finish]
  change (p.onAcquire.andThen fun _ => body).run respond behind = inner at used
  rw [used]
  dsimp only
  rw [run, released]
  cases reply <;> rfl

theorem run_releasing_onConnection {respond : Responder σ} {state behind : σ}
    (quiet : (p.onAcquire >>= fun _ => body).Always fun s _ => Event.release ∉ events s)
    (acquired : respond .acquire state = (.ok (), behind)) :
    ((onConnection p body).run (releasing respond) state).outcome =
      ((p.onAcquire >>= fun _ => body).run respond behind).outcome := by
  have acquire : releasing respond .acquire state = (.ok (), behind) := acquired
  rw [run_onConnection acquire (run_releasing respond quiet behind) rfl]
  rfl

/-- A run on a connection reports its first failure. A release that fails takes the place of what
there would be otherwise. -/
theorem onConnection_reports (respond : Responder σ) (state : σ)
    (inside : (p.onAcquire >>= fun _ => body).Always fun s r => Orderly s r ∧ Within Inside s) :
    let run := (onConnection p body).run respond state
    let released := (onConnection p body).run (releasing respond) state
    failure? released.outcome = firstFailure? run.steps ∧
    (∀ e, .asked .release (.error e) ∈ run.steps →
      run.outcome = .error (.release e (failure? released.outcome))) ∧
    ((∀ e, .asked .release (.error e) ∉ run.steps) → run.outcome = released.outcome) := by
  intro run released
  have quiet := inside.mono fun s _ hs (hm : Event.release ∈ events s) => (hs.2 _ hm).2 rfl
  rcases acquired : respond .acquire state with ⟨e | u, behind⟩
  · have also : releasing respond .acquire state = (.error e, behind) := acquired
    have refused : run = _ := run_onConnection_refused acquired
    have freed : released = _ := run_onConnection_refused also
    rw [refused, freed]
    refine ⟨rfl, fun e he => ?_, fun _ => rfl⟩
    cases List.mem_singleton.1 he
  · have freed : released.outcome = _ := run_releasing_onConnection quiet acquired
    obtain ⟨orderly, within⟩ := Always.run inside respond behind
    rw [freed]
    generalize hi : (p.onAcquire >>= fun _ => body).run respond behind = inner at orderly within ⊢
    rcases hr : respond .release inner.state with ⟨reply, last⟩
    have used : run = _ := run_onConnection acquired hi hr
    rw [used]
    dsimp only
    refine ⟨?_, fun e hm => ?_, fun none => ?_⟩
    · rw [firstFailure_cons, failure_asked_ok, Option.none_or, firstFailure_append, ← orderly.1]
      cases reply <;> exact Option.or_none.symm
    · rw [← (release_mem_iff within).1 hm]
      rfl
    · cases reply with
      | ok u => rfl
      | error e => exact absurd ((release_mem_iff within).2 rfl) (none e)

/-- On a connection that is given back a call comes to what its steps come to. -/
theorem released_outcome {respond : Responder σ} {steps : Attempt σ α}
    (quiet : (p.onAcquire >>= fun _ => body).Always fun s _ => Event.release ∉ events s)
    (performs : Performs respond (p.onAcquire >>= fun _ => body) steps) (state : σ) :
    ((onConnection p body).run (releasing respond) state).outcome =
      (Attempt.send respond .acquire >>= fun _ => steps).outcome state := by
  show _ = Attempt.outcome (EStateM.bind (Attempt.send respond .acquire) fun _ => steps) state
  unfold Attempt.outcome EStateM.bind Attempt.send EStateM.run
  dsimp only
  rcases acquired : respond .acquire state with ⟨e | u, behind⟩
  · have also : releasing respond .acquire state = (.error e, behind) := acquired
    rw [run_onConnection_refused also]
    rfl
  · rw [run_releasing_onConnection quiet acquired]
    exact performs.outcome behind

end

end Dialogue

/-! ## Whole calls -/

namespace CompiledMethod

/-- What a caller sees. If the connection is given back it is what the steps of the call come to
when they are taken in order: the failure of the first one that fails, be it a request to the
database or a step of the call's own, and a result only if none does. If the connection cannot be
given back, the caller sees that, with what the call would have failed with otherwise. -/
theorem execute_reports_first_failure {σ : Type} (m : CompiledMethod) (i : CallContext)
    (args : List Bindable) (respond : Responder σ) (state : σ) :
    let run := (m.execute i args).run respond state
    let released := (m.execute i args).run (releasing respond) state
    let inOrder := (m.inOrder respond i args).outcome state
    released.outcome = inOrder ∧ failure? inOrder = firstFailure? run.steps ∧
    (∀ e, .asked .release (.error e) ∈ run.steps →
      run.outcome = .error (.release e (failure? inOrder))) ∧
    ((∀ e, .asked .release (.error e) ∉ run.steps) → run.outcome = inOrder) := by
  intro run released inOrder
  rcases m.execute_cases i args with ⟨e, refused, he⟩ | ⟨isCall, sql, body, h, he⟩
  · have failed (respond : Responder σ) : (m.execute i args).run respond state =
        ⟨.error e, [.failed e], state⟩ := by
      rw [he]
      rfl
    have steps : inOrder = .error e := congrArg (fun a => Attempt.outcome a state) refused.inOrder_eq
    have run_eq : run = _ := failed respond
    have released_eq : released = _ := failed (releasing respond)
    rw [run_eq, released_eq, steps]
    refine ⟨rfl, rfl, fun e he => ?_, fun _ => rfl⟩
    cases List.mem_singleton.1 he
  · have inside := h.orderly_inside
    have quiet := inside.mono fun s _ hs (hm : Event.release ∈ events s) => (hs.2 _ hm).2 rfl
    obtain ⟨use, performs, steps⟩ := h.performs respond
    have same : released.outcome = inOrder := by
      show ((m.execute i args).run _ state).outcome = (m.inOrder respond i args).outcome state
      rw [he, steps]
      exact released_outcome quiet (performs_onStatement i isCall sql performs) state
    have reports := onConnection_reports respond state inside
    rw [← he] at reports
    exact ⟨same, same ▸ reports⟩

end CompiledMethod

end QueryMethods
