/-
Runs on a database of whose answers something is known. `Succeeds` says that on every path on which
no request fails and each answer is one that is expected, a dialogue ends with a result that has a
property. It has a rule for every way in which dialogues are put together. `Ensures` says the same
of a result only where there is one.
-/
import QueryMethods.Proofs.Database.FirstFailure

namespace QueryMethods.Dialogue

/-- The answers that are expected of a database. -/
abbrev Expectation : Type := (event : Event) → event.Reply → Prop

/-- A step that is no failed request, nor a request with another answer than expected. -/
def Step.Answered (expected : Expectation) : Step → Prop
  | asked event (.ok reply) => expected event reply
  | asked _ (.error _) => False
  | failed _ => True

/-- If every request is answered as expected, the dialogue ends with a result that has the
property. -/
def Succeeds {α : Type} (d : Dialogue α) (expected : Expectation) (Q : α → Prop) : Prop :=
  d.Always fun s r => (∀ x ∈ s, x.Answered expected) → ∃ a, r = .ok a ∧ Q a

section

variable {α β : Type} {d : Dialogue α} {expected : Expectation} {P Q : α → Prop}

theorem Succeeds.run {σ : Type} (h : d.Succeeds expected Q) (respond : Responder σ) (state : σ)
    (answered : ∀ x ∈ (d.run respond state).steps, x.Answered expected) :
    ∃ a, (d.run respond state).outcome = .ok a ∧ Q a :=
  Always.run h respond state answered

/-- On a database that always answers as expected every step is so. -/
theorem answered_run {σ : Type} {respond : Responder σ}
    (h : ∀ event state, ∃ reply, (respond event state).1 = .ok reply ∧ expected event reply) :
    ∀ (d : Dialogue α) (state : σ), ∀ x ∈ (d.run respond state).steps, x.Answered expected
  | done _, _ => List.forall_mem_nil _
  | ask event next, state => by
    obtain ⟨reply, hr, as⟩ := h event state
    refine List.forall_mem_cons.2 ⟨?_, answered_run h (next _) _⟩
    rw [hr]
    exact as
  | fault _ rest, state => List.forall_mem_cons.2 ⟨trivial, answered_run h rest state⟩

theorem succeeds_pure {a : α} (h : Q a) : (pure a : Dialogue α).Succeeds expected Q :=
  fun _ => ⟨a, rfl, h⟩

theorem succeeds_request {event : Event} {Q : event.Reply → Prop}
    (h : ∀ reply, expected event reply → Q reply) : (request event).Succeeds expected Q := by
  rintro (e | reply) answered
  · exact absurd (answered _ List.mem_cons_self) id
  · exact ⟨reply, rfl, h reply (answered _ List.mem_cons_self)⟩

/-- A dialogue that goes on with the result of another ends as it would on its own. -/
theorem always_bind_answered {f : α → Dialogue β} {R : Except QueryFailure α → Prop}
    {R' : Except QueryFailure β → Prop}
    (h : d.Always fun s r => (∀ x ∈ s, x.Answered expected) → R r)
    (ok : ∀ a, R (.ok a) → (f a).Always fun s r => (∀ x ∈ s, x.Answered expected) → R' r)
    (error : ∀ e, R (.error e) → R' (.error e)) :
    (d >>= f).Always fun s r => (∀ x ∈ s, x.Answered expected) → R' r := by
  -- what comes before has a result only if its own part of the steps is as expected
  rw [always_bind]
  refine Always.mono h fun s r hs => ?_
  cases r with
  | error e => exact fun answered => error e (hs answered)
  | ok a =>
    by_cases answered : ∀ x ∈ s, x.Answered expected
    · refine Always.mono (ok a (hs answered)) fun s' r' hr all => hr fun x hx => ?_
      exact all x (List.mem_append_right s hx)
    · refine (always_path _).mono fun s' r' _ all => absurd (fun x hx => ?_) answered
      exact all x (List.mem_append_left s' hx)

/-- What follows a result that is expected ends as it does on its own. -/
theorem Succeeds.always_bind {f : α → Dialogue β} {R : Except QueryFailure β → Prop}
    (h : d.Succeeds expected P)
    (hf : ∀ a, P a → (f a).Always fun s r => (∀ x ∈ s, x.Answered expected) → R r) :
    (d >>= f).Always fun s r => (∀ x ∈ s, x.Answered expected) → R r := by
  refine always_bind_answered h ?_ ?_
  · rintro a ⟨a', same, ha⟩
    cases same
    exact hf a ha
  · rintro e ⟨a, same, -⟩
    cases same

theorem Succeeds.bind {f : α → Dialogue β} {Q : β → Prop} (h : d.Succeeds expected P)
    (hf : ∀ a, P a → (f a).Succeeds expected Q) : (d >>= f).Succeeds expected Q :=
  h.always_bind hf

theorem succeeds_request_bind {event : Event} {f : event.Reply → Dialogue β} {Q : β → Prop}
    (h : ∀ reply, expected event reply → (f reply).Succeeds expected Q) :
    (request event >>= f).Succeeds expected Q :=
  Succeeds.bind (succeeds_request fun _ hr => hr) h

theorem succeeds_mapM {γ : Type} {f : γ → Dialogue β} {g : γ → β}
    (each : ∀ x, (f x).Succeeds expected fun y => y = g x) (xs : List γ) :
    (xs.mapM f).Succeeds expected fun ys => ys = xs.map g := by
  refine mapM_rule (J := fun d a => d.Succeeds expected fun b => b = a)
    (fun _ => succeeds_pure rfl) (fun h hf => h.bind fun _ same => ?_) each xs
  rw [same]
  exact hf

/-! ## Handles -/

theorem Succeeds.bracket {opening closing : Event} {body : opening.Reply → Dialogue α}
    (h : ∀ reply, expected opening reply → (body reply).Succeeds expected Q) :
    (bracket opening body closing).Succeeds expected Q := by
  have inside (reply : opening.Reply) : (body reply).Always fun s r => expected opening reply →
      (∀ x ∈ s, x.Answered expected) → ∃ a, r = .ok a ∧ Q a := by
    by_cases opened : expected opening reply
    · exact Always.mono (h reply opened) fun _ _ hr _ => hr
    · exact (always_path _).mono fun _ _ _ wrong => absurd wrong opened
  refine (always_bracket inside).mono fun s r hs answered => ?_
  rcases hs with ⟨e, rfl, rfl⟩ | ⟨reply, used, inner, closed, hin, rfl, rfl⟩
  · exact absurd (answered _ List.mem_cons_self) id
  · have last := answered (.asked closing closed)
      (List.mem_cons_of_mem _ (List.mem_append_right _ List.mem_cons_self))
    obtain ⟨a, rfl, ha⟩ := hin (answered _ List.mem_cons_self) fun x hx =>
      answered x (List.mem_cons_of_mem _ (List.mem_append_left _ hx))
    cases closed with
    | ok u => exact ⟨a, rfl, ha⟩
    | error e => exact absurd last id

theorem Succeeds.onStatement {p : Provider} {isCall : Bool} {sql : String}
    (h : d.Succeeds expected Q) : (onStatement p isCall sql d).Succeeds expected Q :=
  Succeeds.bracket fun _ _ => h

theorem Succeeds.onRows {body : Nat → Dialogue α}
    (h : ∀ rows : Nat, expected .query rows → (body rows).Succeeds expected Q) :
    (onRows body).Succeeds expected Q := Succeeds.bracket h

theorem Succeeds.onConnection {p : Provider} (h : d.Succeeds expected Q) :
    (onConnection p d).Succeeds expected Q := by
  have acquired : (p.onAcquire).Succeeds expected fun _ => True := by
    unfold Provider.onAcquire
    split
    · exact succeeds_request fun _ _ => trivial
    · exact succeeds_pure trivial
  have inside : (p.onAcquire >>= fun _ => d).Succeeds expected Q := acquired.bind fun _ _ => h
  refine (always_onConnection inside).mono fun s r hs answered => ?_
  rcases hs with ⟨e, rfl, rfl⟩ | ⟨inner, outcome, released, hin, rfl, rfl⟩
  · exact absurd (answered _ List.mem_cons_self) id
  · have used (x : Step) (hx : x ∈ inner) : x.Answered expected :=
      answered x (List.mem_cons_of_mem _ (List.mem_append_left _ hx))
    have last := answered (.asked .release released)
      (List.mem_cons_of_mem _ (List.mem_append_right _ List.mem_cons_self))
    cases released with
    | ok u => exact hin used
    | error e => exact absurd last id

end

/-! ## Results, if there are any -/

/-- If every request is answered as expected, whatever result the dialogue ends with has the
property. -/
def Ensures {α : Type} (d : Dialogue α) (expected : Expectation) (Q : α → Prop) : Prop :=
  d.Always fun s r => (∀ x ∈ s, x.Answered expected) → ∀ a, r = .ok a → Q a

section

variable {α β : Type} {d : Dialogue α} {expected : Expectation} {P Q : α → Prop}

theorem ensures_pure {a : α} (h : Q a) : (pure a : Dialogue α).Ensures expected Q := by
  intro _ a' same
  cases same
  exact h

theorem ensures_fail (e : QueryFailure) : (fail e : Dialogue α).Ensures expected Q :=
  fun _ => nofun

theorem ensures_request {event : Event} {Q : event.Reply → Prop}
    (h : ∀ reply, expected event reply → Q reply) : (request event).Ensures expected Q := by
  rintro (e | reply) answered a same
  · cases same
  · cases same
    exact h _ (answered _ List.mem_cons_self)

theorem Ensures.bind {f : α → Dialogue β} {Q : β → Prop} (h : d.Ensures expected P)
    (hf : ∀ a, P a → (f a).Ensures expected Q) : (d >>= f).Ensures expected Q :=
  always_bind_answered h (fun a ha => hf a (ha a rfl)) fun _ _ => nofun

theorem ensures_mapM {γ : Type} {f : γ → Dialogue β} {g : γ → β}
    (each : ∀ x, (f x).Ensures expected fun y => y = g x) (xs : List γ) :
    (xs.mapM f).Ensures expected fun ys => ys = xs.map g := by
  refine mapM_rule (J := fun d a => d.Ensures expected fun b => b = a)
    (fun _ => ensures_pure rfl) (fun h hf => h.bind fun _ same => ?_) each xs
  rw [same]
  exact hf

end

end QueryMethods.Dialogue
