/-
Runs in which no request fails, against one database. Such a run may still end in a failure of the
method's own. `Ends` says how it ends, what it asks for and which state it leaves, and has a rule
for every way in which dialogues are put together; `Yields` says that it ends with a result.
-/
import QueryMethods.Proofs.Database.Clean

namespace QueryMethods.Dialogue

/-! ## Requests that are served -/

/-- A step that is no failed request. -/
def Step.served : Step → Bool
  | asked _ (.error _) => false
  | _ => true

/-- No request among the steps failed. -/
def Served (steps : List Step) : Prop := steps.all Step.served = true

instance (steps : List Step) : Decidable (Served steps) := inferInstanceAs (Decidable (_ = true))

@[simp] theorem served_nil : Served [] := rfl

@[simp] theorem served_cons (x : Step) (s : List Step) :
    Served (x :: s) ↔ x.served = true ∧ Served s := by
  unfold Served
  rw [List.all_cons, Bool.and_eq_true]

@[simp] theorem served_append (s s' : List Step) : Served (s ++ s') ↔ Served s ∧ Served s' := by
  unfold Served
  rw [List.all_append, Bool.and_eq_true]

/-- On a database that never fails every run is served. -/
theorem served_run {σ α : Type} {respond : Responder σ}
    (h : ∀ event state, ∃ reply, (respond event state).1 = .ok reply) :
    ∀ (d : Dialogue α) (state : σ), Served (d.run respond state).steps
  | done _, _ => served_nil
  | ask event next, state => by
    obtain ⟨reply, hr⟩ := h event state
    refine (served_cons _ _).2 ⟨?_, served_run h (next _) _⟩
    rw [hr]
    rfl
  | fault _ rest, state => (served_cons _ _).2 ⟨rfl, served_run h rest state⟩

/-! ## How a run ends -/

section

variable {σ α β : Type}

/-- Run from a state, the dialogue ends so if no request fails. -/
def Ends (respond : Responder σ) (d : Dialogue α) (state : σ)
    (Q : Except QueryFailure α → List Event → σ → Prop) : Prop :=
  Served (d.run respond state).steps →
    Q (d.run respond state).outcome (d.run respond state).events (d.run respond state).state

/-- It ends with a result. -/
abbrev Yields (respond : Responder σ) (d : Dialogue α) (state : σ)
    (Q : α → List Event → σ → Prop) : Prop :=
  Ends respond d state fun r log behind => ∃ a, r = .ok a ∧ Q a log behind

variable {respond : Responder σ} {d : Dialogue α} {state : σ}

theorem Ends.mono {P Q : Except QueryFailure α → List Event → σ → Prop} (h : Ends respond d state P)
    (hPQ : ∀ r log behind, P r log behind → Q r log behind) : Ends respond d state Q :=
  fun served => hPQ _ _ _ (h served)

theorem Yields.mono {P Q : α → List Event → σ → Prop} (h : Yields respond d state P)
    (hPQ : ∀ a log behind, P a log behind → Q a log behind) : Yields respond d state Q :=
  Ends.mono h fun _ _ _ ⟨a, ha, hp⟩ => ⟨a, ha, hPQ a _ _ hp⟩

/-- Only the last state of the run is left. -/
theorem Yields.located {Q : α → List Event → σ → Prop} (h : Yields respond d state Q) :
    Yields respond d state fun a log behind =>
      Q a log behind ∧ behind = (d.run respond state).state :=
  fun served => (h served).imp fun _ ⟨ha, hq⟩ => ⟨ha, hq, rfl⟩

theorem Ends.and {P Q : Except QueryFailure α → List Event → σ → Prop} (h : Ends respond d state P)
    (h' : Ends respond d state Q) : Ends respond d state fun r log behind =>
      P r log behind ∧ Q r log behind := fun served => ⟨h served, h' served⟩

/-- What holds on every path holds of the run. -/
theorem Always.ends {P : List Step → Except QueryFailure α → Prop} (h : d.Always P) :
    Ends respond d state fun r log _ => ∃ s, events s = log ∧ P s r :=
  fun _ => ⟨_, rfl, h.run respond state⟩

theorem ends_done {r : Except QueryFailure α} {Q : Except QueryFailure α → List Event → σ → Prop}
    (h : Q r [] state) : Ends respond (done r) state Q := fun _ => h

theorem yields_pure {a : α} {Q : α → List Event → σ → Prop} (h : Q a [] state) :
    Yields respond (pure a) state Q := fun _ => ⟨a, rfl, h⟩

theorem ends_ask {event : Event} {next : Except DatabaseFailure event.Reply → Dialogue α}
    {Q : Except QueryFailure α → List Event → σ → Prop}
    (h : ∀ reply, (respond event state).1 = .ok reply →
      Ends respond (next (.ok reply)) (respond event state).2 fun r log => Q r (event :: log)) :
    Ends respond (ask event next) state Q := by
  intro served
  cases reply : (respond event state).1 with
  | error e =>
    have first : (Step.asked event (.error e)).served = true := by
      rw [← reply]
      exact ((served_cons _ _).1 served).1
    cases first
  | ok a =>
    have rest := h a reply
    rw [← reply] at rest
    exact rest ((served_cons _ _).1 served).2

theorem yields_request {event : Event} {Q : event.Reply → List Event → σ → Prop}
    (h : ∀ reply, (respond event state).1 = .ok reply →
      Q reply [event] (respond event state).2) : Yields respond (request event) state Q :=
  ends_ask fun reply hr => ends_done ⟨reply, rfl, h reply hr⟩

theorem Ends.finish {f : Except QueryFailure α → Dialogue β}
    {P : Except QueryFailure α → List Event → σ → Prop}
    {Q : Except QueryFailure β → List Event → σ → Prop} (h : Ends respond d state P)
    (hf : ∀ r log behind, P r log behind →
      Ends respond (f r) behind fun r' log' => Q r' (log ++ log')) :
    Ends respond (d.finish f) state Q := by
  intro served
  rw [run_finish] at served ⊢
  obtain ⟨first, second⟩ := (served_append _ _).1 served
  have ended := hf _ _ _ (h first) second
  simpa only [Run.events, List.filterMap_append] using ended

theorem Yields.bind {f : α → Dialogue β} {P : α → List Event → σ → Prop}
    {Q : Except QueryFailure β → List Event → σ → Prop} (h : Yields respond d state P)
    (hf : ∀ a log behind, P a log behind →
      Ends respond (f a) behind fun r log' => Q r (log ++ log')) :
    Ends respond (d >>= f) state Q := by
  refine Ends.finish h ?_
  rintro r log behind ⟨a, rfl, hp⟩
  exact hf a log behind hp

/-! ## Handles -/

theorem Ends.onStatement {p : Provider} {isCall : Bool} {sql : String}
    {Q : Except QueryFailure α → List Event → σ → Prop}
    (h : ∀ reply, (respond (p.prepareEvent isCall sql) state).1 = .ok reply →
      Ends respond d (respond (p.prepareEvent isCall sql) state).2 fun r log _ =>
        ∀ behind, Q r (p.prepareEvent isCall sql :: (log ++ [.closeStatement])) behind) :
    Ends respond (onStatement p isCall sql d) state Q := by
  refine ends_ask fun reply hr => Ends.finish (h reply hr) fun r log behind ended => ?_
  refine ends_ask fun _ _ => ends_done ?_
  cases r <;> exact ended _

theorem yields_onAcquire (p : Provider) :
    Yields respond p.onAcquire state fun _ log _ => log = p.connecting := by
  unfold Provider.onAcquire Provider.connecting
  split
  · exact yields_request fun _ _ => rfl
  · exact yields_pure rfl

/-- The database behind the requests that open a connection. -/
def connected (respond : Responder σ) (p : Provider) (state : σ) : σ :=
  (p.onAcquire.run respond (respond .acquire state).2).state

/-- The database behind the requests that open a connection and prepare a statement on it. -/
def prepared (respond : Responder σ) (p : Provider) (isCall : Bool) (sql : String) (state : σ) : σ :=
  (respond (p.prepareEvent isCall sql) (connected respond p state)).2

theorem Ends.onConnection {p : Provider} {Q : Except QueryFailure α → List Event → σ → Prop}
    (h : Ends respond d (connected respond p state) fun r log _ =>
      ∀ behind, Q r (.acquire :: (p.connecting ++ log ++ [.release])) behind) :
    Ends respond (onConnection p d) state Q := by
  refine ends_ask fun reply _ => ?_
  have used : Ends respond (p.onAcquire >>= fun _ => d) (respond .acquire state).2 fun r log _ =>
      ∀ behind, Q r (.acquire :: (log ++ [.release])) behind := by
    refine (yields_onAcquire p).located.bind fun _ log behind hl => ?_
    obtain ⟨hl, rfl⟩ := hl
    rw [hl]
    exact h
  refine Ends.finish used fun r log behind ended => ?_
  exact ends_ask fun _ _ => ends_done (ended _)

/-- A method that uses one statement of one connection. -/
theorem Ends.onPrepared {p : Provider} {isCall : Bool} {sql : String}
    {Q : Except QueryFailure α → List Event → Prop}
    (h : ∀ reply, (respond (p.prepareEvent isCall sql) (connected respond p state)).1 = .ok reply →
      Ends respond d (prepared respond p isCall sql state) fun r log _ =>
        Q r (.acquire :: (p.connecting ++
          p.prepareEvent isCall sql :: (log ++ [.closeStatement, .release])))) :
    Ends respond (Dialogue.onConnection p (Dialogue.onStatement p isCall sql d)) state
      fun r log _ => Q r log := by
  refine Ends.onConnection (Ends.onStatement fun reply hr => Ends.mono (h reply hr) ?_)
  intro r log _ ended _ _
  simpa using ended

end

end QueryMethods.Dialogue
