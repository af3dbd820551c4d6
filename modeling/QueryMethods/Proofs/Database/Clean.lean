/-
Runs in which no step fails. Such a run has a result, and what it asks for is found from its parts:
`Clean` has a rule for every way in which dialogues are put together.
-/
import QueryMethods.Proofs.Database.FirstFailure

namespace QueryMethods

/-- The requests between the acquiring of a connection and its use. -/
def Provider.connecting (p : Provider) : List Event :=
  if p.supports .onAcquire then [.onAcquire] else []

namespace Dialogue

/-- A run in which no step fails has a result, and result and requests have the property. -/
def Clean {α : Type} (d : Dialogue α) (Q : α → List Event → Prop) : Prop :=
  d.Always fun s r => firstFailure? s = none → ∃ a, r = .ok a ∧ Q a (events s)

section

variable {α β : Type} {P Q : α → List Event → Prop} {d : Dialogue α}

theorem Clean.mono (h : d.Clean P) (hPQ : ∀ a log, P a log → Q a log) : d.Clean Q := by
  refine Always.mono h fun s r hr none => ?_
  obtain ⟨a, ha, hp⟩ := hr none
  exact ⟨a, ha, hPQ a _ hp⟩

theorem clean_pure {a : α} (h : Q a []) : (pure a : Dialogue α).Clean Q := fun _ => ⟨a, rfl, h⟩

theorem clean_fail (e : QueryFailure) : (fail e : Dialogue α).Clean Q := fun none => nomatch none

theorem clean_ofExcept {x : Except QueryFailure α} (h : ∀ a, x = .ok a → Q a []) :
    (ofExcept x).Clean Q := by
  cases x with
  | ok a => exact clean_pure (h a rfl)
  | error e => exact clean_fail e

theorem clean_request {event : Event} {Q : event.Reply → List Event → Prop} (hi : Inside event)
    (h : ∀ reply, Q reply [event]) : (request event).Clean Q := by
  rintro (e | reply)
  · intro none
    rw [firstFailure_cons, failure_asked_error hi] at none
    cases none
  · exact fun _ => ⟨reply, rfl, h reply⟩

theorem Clean.bind {f : α → Dialogue β} {Q : β → List Event → Prop} (h : d.Clean P)
    (hf : ∀ a log, P a log → (f a).Clean fun b log' => Q b (log ++ log')) : (d >>= f).Clean Q := by
  refine Always.bind h (fun s a hs => ?_) fun s e hs none => ?_
  · by_cases clean : firstFailure? s = none
    · obtain ⟨a', ha, hp⟩ := hs clean
      cases ha
      refine Always.mono (hf a _ hp) fun s' r hr none => ?_
      rw [firstFailure_append, clean, Option.none_or] at none
      rw [events_append]
      exact hr none
    · -- what fails first fails whatever follows
      refine (always_path (f a)).mono fun s' r _ none => ?_
      rw [firstFailure_append] at none
      exact absurd (Option.or_eq_none_iff.1 none).1 clean
  · obtain ⟨a, ha, -⟩ := hs none
    cases ha

theorem clean_request_bind {event : Event} {f : event.Reply → Dialogue β}
    {Q : β → List Event → Prop} (hi : Inside event)
    (h : ∀ reply, (f reply).Clean fun b log => Q b (event :: log)) : (request event >>= f).Clean Q := by
  have asked : (request event).Clean fun _ log => log = [event] := clean_request hi fun _ => rfl
  refine asked.bind fun reply log hl => ?_
  rw [hl]
  exact h reply

/-! ## Handles -/

/-- A handle is opened, used and closed. -/
theorem Clean.bracket {opening closing : Event} {body : opening.Reply → Dialogue α}
    (ho : Inside opening) (hc : Inside closing)
    (h : ∀ reply, (body reply).Clean Q) : (bracket opening body closing).Clean fun a log =>
      ∃ work, Q a work ∧ log = opening :: (work ++ [closing]) := by
  refine (always_bracket h).mono fun s r hs none => ?_
  rcases hs with ⟨e, rfl, -⟩ | ⟨reply, used, inner, closed, hin, rfl, rfl⟩
  · rw [firstFailure_cons, failure_asked_error ho] at none
    cases none
  · rw [firstFailure_cons, failure_asked_ok, Option.none_or, firstFailure_append] at none
    obtain ⟨clean, last⟩ := Option.or_eq_none_iff.1 none
    obtain ⟨a, rfl, hq⟩ := hin clean
    cases closed with
    | error e =>
      rw [firstFailure_cons, failure_asked_error hc] at last
      cases last
    | ok u => exact ⟨a, rfl, events used, hq, by rw [events_asked, events_append]; rfl⟩

/-- A statement is prepared, used and closed. -/
theorem Clean.onStatement {p : Provider} {isCall : Bool} {sql : String}
    (hp : Inside (p.prepareEvent isCall sql)) (h : d.Clean Q) :
    (onStatement p isCall sql d).Clean fun a log => ∃ work, Q a work ∧
      log = p.prepareEvent isCall sql :: (work ++ [.closeStatement]) :=
  Clean.bracket hp ⟨nofun, nofun⟩ fun _ => h

/-- A connection is acquired, used and released. A failure of the release does not matter. -/
theorem Clean.onConnection {p : Provider} (h : d.Clean Q) :
    (onConnection p d).Always fun s _ => firstFailure? s = none → ∃ a work, Q a work ∧
      events s = .acquire :: (p.connecting ++ work ++ [.release]) := by
  have connected : p.onAcquire.Clean fun _ log => log = p.connecting := by
    unfold Provider.onAcquire Provider.connecting
    split
    · exact clean_request ⟨nofun, nofun⟩ fun _ => rfl
    · exact clean_pure rfl
  have inside : (p.onAcquire >>= fun _ => d).Clean fun a log => ∃ work, Q a work ∧
      log = p.connecting ++ work := by
    refine connected.bind fun _ _ hl => h.mono fun a work hq => ?_
    rw [hl]
    exact ⟨work, hq, rfl⟩
  refine (always_onConnection inside).mono fun s r hs none => ?_
  rcases hs with ⟨e, rfl, -⟩ | ⟨inner, outcome, released, hin, rfl, -⟩
  · cases none
  · rw [firstFailure_cons, failure_asked_ok, Option.none_or, firstFailure_append] at none
    obtain ⟨a, -, work, hq, hl⟩ := hin (Option.or_eq_none_iff.1 none).1
    refine ⟨a, work, hq, ?_⟩
    rw [events_asked, events_append, hl]
    rfl

end

end Dialogue

end QueryMethods
