/-
The first failure of a run. A run reports its first failure when its outcome is the failure of the
first step that failed, and a result when none did (`Reports`); it stops there when every step
behind a failed one closes a handle (`Stops`). Sequences of requests do both, and so does a
dialogue between the opening and the closing of a handle whose inside does.
-/
import QueryMethods.Proofs.Database.Paths

namespace QueryMethods.Dialogue

/-! ## Failures of steps -/

/-- The failure of a step as the caller sees it. What becomes of a failed release is decided when
the connection is given back, so it is not counted here. -/
def Step.failure? : Step → Option QueryFailure
  | failed e => some e
  | asked event reply =>
    match reply with
    | .ok _ => none
    | .error e =>
      match event with
      | .acquire => some (.noConnection e)
      | .release => none
      | _ => some (.statement e)

/-- The failure of the first step that failed. -/
def firstFailure? (steps : List Step) : Option QueryFailure := steps.findSome? Step.failure?

/-- Requests that close a handle or give the connection back. -/
def closes : Event → Bool
  | .closeRows | .closeStatement | .release => true
  | _ => false

/-- Whether a step closes a handle or gives the connection back. -/
def Step.closes (s : Step) : Prop := ∃ event ∈ s.event?, Dialogue.closes event = true

/-- Requests inside a connection. -/
def Inside (event : Event) : Prop := event ≠ .acquire ∧ event ≠ .release

theorem failure_asked_error {event : Event} (h : Inside event) (e : DatabaseFailure) :
    (Step.asked event (.error e)).failure? = some (.statement e) := by
  cases event <;> first | rfl | exact absurd rfl h.1 | exact absurd rfl h.2

@[simp] theorem failure_asked_ok (event : Event) (reply : event.Reply) :
    (Step.asked event (.ok reply)).failure? = none := rfl

@[simp] theorem failure_failed (e : QueryFailure) : (Step.failed e).failure? = some e := rfl

@[simp] theorem firstFailure_nil : firstFailure? [] = none := rfl

theorem firstFailure_cons (x : Step) (s : List Step) :
    firstFailure? (x :: s) = x.failure?.or (firstFailure? s) := by
  unfold firstFailure?
  rw [List.findSome?_cons]
  cases x.failure? <;> rfl

theorem firstFailure_append (s s' : List Step) :
    firstFailure? (s ++ s') = (firstFailure? s).or (firstFailure? s') := by
  unfold firstFailure?
  rw [List.findSome?_append]

theorem firstFailure_eq_none {s : List Step} :
    firstFailure? s = none ↔ ∀ x ∈ s, x.failure? = none := List.findSome?_eq_none_iff

/-! ## Reporting and stopping -/

/-- The outcome is the first failure, or a result if there was none. -/
def Reports {α : Type} (s : List Step) (r : Except QueryFailure α) : Prop :=
  failure? r = firstFailure? s

/-- Behind a step that failed there is nothing but closing. -/
def Stops (s : List Step) : Prop := s.Pairwise fun x y => x.failure? ≠ none → y.closes

/-- Report the first failure and stop at it. -/
def Orderly {α : Type} (s : List Step) (r : Except QueryFailure α) : Prop := Reports s r ∧ Stops s

section

variable {α β : Type}

@[simp] theorem failure_ok (a : α) : failure? (.ok a : Except QueryFailure α) = none := rfl

@[simp] theorem failure_error (e : QueryFailure) :
    failure? (.error e : Except QueryFailure α) = some e := rfl

theorem Stops.append {s s' : List Step} (h : Stops s) (h' : Stops s')
    (hc : firstFailure? s ≠ none → ∀ y ∈ s', y.closes) : Stops (s ++ s') := by
  refine List.pairwise_append.2 ⟨h, h', fun x hx y hy hf => hc (fun hn => hf ?_) y hy⟩
  exact firstFailure_eq_none.1 hn x hx

/-- What ran without a failure is followed by anything orderly. -/
theorem Orderly.append {s s' : List Step} {a : α} {r : Except QueryFailure β}
    (h : Orderly s (.ok a)) (h' : Orderly s' r) : Orderly (s ++ s') r := by
  have hn : firstFailure? s = none := h.1.symm
  refine ⟨?_, h.2.append h'.2 fun hf => absurd hn hf⟩
  unfold Reports
  rw [firstFailure_append, hn, Option.none_or]
  exact h'.1

theorem Orderly.error {s : List Step} {e : QueryFailure} (h : Orderly s (.error e : Except _ α)) :
    Orderly s (.error e : Except _ β) := h

theorem Always.orderly_bind {d : Dialogue α} {f : α → Dialogue β} (h : d.Always Orderly)
    (hf : ∀ a, (f a).Always Orderly) : (d >>= f).Always Orderly := by
  rw [always_bind]
  refine h.mono fun s r hr => ?_
  cases r with
  | ok a => exact (hf a).mono fun s' r' hr' => hr.append hr'
  | error e => exact hr.error

theorem Sequential.orderly {d : Dialogue α} (h : Sequential Inside d) : d.Always Orderly := by
  induction d with
  | done r => obtain ⟨a, rfl⟩ := h; exact ⟨rfl, List.Pairwise.nil⟩
  | ask event next ih =>
    rintro (e | reply)
    · rw [h.2.1 e]
      refine ⟨?_, List.pairwise_singleton _ _⟩
      unfold Reports
      rw [firstFailure_cons, failure_asked_error h.1]
      rfl
    · refine (ih _ (h.2.2 reply)).mono fun s r hr => ⟨?_, List.pairwise_cons.2 ⟨?_, hr.2⟩⟩
      · unfold Reports
        rw [firstFailure_cons, failure_asked_ok, Option.none_or]
        exact hr.1
      · intro y _ hf
        exact absurd (failure_asked_ok _ _) hf
  | fault e rest ih => obtain rfl := h; exact ⟨rfl, List.pairwise_singleton _ _⟩

/-! ## Handles -/

/-- The paths through the use of a handle: it is not opened, or it is used and then closed. -/
theorem always_bracket {opening closing : Event} {body : opening.Reply → Dialogue α}
    {P : opening.Reply → List Step → Except QueryFailure α → Prop}
    (h : ∀ reply, (body reply).Always (P reply)) :
    (bracket opening body closing).Always fun s r =>
      (∃ e, s = [.asked opening (.error e)] ∧ r = .error (.statement e)) ∨
      ∃ reply used inner closed, P reply used inner ∧
        s = .asked opening (.ok reply) :: (used ++ [.asked closing closed]) ∧
        r = afterClose inner closed := by
  rintro (e | reply)
  · exact .inl ⟨e, rfl, rfl⟩
  · show ((body reply).finish _).Always _
    rw [always_finish]
    exact (h reply).mono fun s r hr closed => .inr ⟨reply, s, r, closed, hr, rfl, rfl⟩

/-- Closing a handle keeps the failure before it, and is the failure if there was none. -/
theorem reports_afterClose {closing : Event} (hi : Inside closing) {s : List Step}
    {r : Except QueryFailure α} (h : Reports s r) (closed : Except DatabaseFailure closing.Reply) :
    Reports (s ++ [.asked closing closed]) (afterClose r closed) := by
  unfold Reports at h ⊢
  rw [firstFailure_append, ← h, firstFailure_cons, firstFailure_nil]
  cases r with
  | error e => rfl
  | ok a =>
    cases closed with
    | ok reply => rfl
    | error e => rw [failure_asked_error hi]; rfl

theorem orderly_bracket {opening closing : Event} {body : opening.Reply → Dialogue α}
    (ho : Inside opening) (hi : Inside closing) (hc : closes closing = true)
    (h : ∀ reply, (body reply).Always Orderly) :
    (bracket opening body closing).Always Orderly := by
  refine (always_bracket h).mono fun s r hr => ?_
  rcases hr with ⟨e, rfl, rfl⟩ | ⟨reply, used, inner, closed, hin, rfl, rfl⟩
  · refine ⟨?_, List.pairwise_singleton _ _⟩
    unfold Reports
    rw [firstFailure_cons, failure_asked_error ho]
    rfl
  · have hrep := reports_afterClose hi hin.1 closed
    have hstop : Stops (used ++ [.asked closing closed]) := by
      refine hin.2.append (List.pairwise_singleton _ _) fun _ y hy => ?_
      obtain rfl := List.mem_singleton.1 hy
      exact ⟨closing, rfl, hc⟩
    refine ⟨?_, List.pairwise_cons.2 ⟨fun y _ hf => absurd (failure_asked_ok _ _) hf, hstop⟩⟩
    unfold Reports
    rw [firstFailure_cons, failure_asked_ok, Option.none_or]
    exact hrep

/-! ## Connections -/

/-- The paths through the use of a connection: there is none, or it is used and then released. -/
theorem always_onConnection {p : Provider} {body : Dialogue α}
    {P : List Step → Except QueryFailure α → Prop} (h : (p.onAcquire >>= fun _ => body).Always P) :
    (onConnection p body).Always fun s r =>
      (∃ e, s = [.asked .acquire (.error e)] ∧ r = .error (.noConnection e)) ∨
      ∃ inner outcome released, P inner outcome ∧
        s = .asked .acquire (.ok ()) :: (inner ++ [.asked .release released]) ∧
        r = match released with
          | .ok _ => outcome
          | .error e => .error (.release e (failure? outcome)) := by
  rintro (e | reply)
  · exact .inl ⟨e, rfl, rfl⟩
  · show ((p.onAcquire.andThen fun _ => body).finish _).Always _
    rw [always_finish]
    refine Always.mono h fun s r hr released => ?_
    cases released with
    | ok u => exact .inr ⟨s, r, .ok u, hr, rfl, rfl⟩
    | error e => exact .inr ⟨s, r, .error e, hr, rfl, rfl⟩

/-- The same database, except that it always takes the connection back. -/
def releasing {σ : Type} (respond : Responder σ) : Responder σ := fun event state =>
  match event with
  | .release => (.ok (), (respond .release state).2)
  | event => respond event state

/-- A dialogue that releases nothing does not notice. -/
theorem run_releasing {σ : Type} (respond : Responder σ) {d : Dialogue α}
    (h : d.Always fun s _ => Event.release ∉ events s) (state : σ) :
    d.run (releasing respond) state = d.run respond state := by
  induction d generalizing state with
  | done r => rfl
  | fault e rest ih =>
    unfold run
    rw [ih h]
  | ask event next ih =>
    have hr : event ≠ .release := by
      rintro rfl
      have := (h (.ok ())).run respond state
      simp at this
    have he : releasing respond event state = respond event state := by
      cases event <;> first | rfl | exact absurd rfl hr
    have hn : ∀ reply, (next reply).Always fun s _ => Event.release ∉ events s := fun reply =>
      (h reply).mono fun s _ hs hm => hs (by simp [hm])
    unfold run
    rw [he]
    rcases respond event state with ⟨reply, behind⟩
    dsimp only
    rw [ih reply (hn reply)]

end

end QueryMethods.Dialogue
