/-
Runs that end in two ways only: with a result that has a property, or with a failure that has one
of the causes allowed. `Meets` says so of every path, whatever the database answers, and has a rule
for every way in which dialogues are put together. Failures that the database reports are always
allowed.
-/
import QueryMethods.Proofs.Database.FirstFailure

namespace QueryMethods.Dialogue

/-- On every path, failures of the method's own have the causes, and a result has the property. -/
def Meets {α : Type} (d : Dialogue α) (cause : QueryFailure → Prop) (Q : α → Prop) : Prop :=
  d.Always fun s r => (∀ e, .failed e ∈ s → cause e) ∧ ∀ a, r = .ok a → Q a

section

variable {α β γ : Type} {d : Dialogue α} {cause : QueryFailure → Prop} {P Q : α → Prop}

theorem Meets.run {σ : Type} (h : d.Meets cause Q) (respond : Responder σ) (state : σ) :
    (∀ e, .failed e ∈ (d.run respond state).steps → cause e) ∧
      ∀ a, (d.run respond state).outcome = .ok a → Q a :=
  Always.run h respond state

theorem meets_done {r : Except QueryFailure α} (h : ∀ a, r = .ok a → Q a) :
    (done r).Meets cause Q := ⟨nofun, h⟩

theorem meets_pure {a : α} (h : Q a) : (pure a : Dialogue α).Meets cause Q := by
  refine meets_done fun b hb => ?_
  cases hb
  exact h

theorem meets_fail {e : QueryFailure} (h : cause e) : (fail e : Dialogue α).Meets cause Q := by
  refine ⟨fun e' he => ?_, nofun⟩
  cases List.mem_singleton.1 he
  exact h

theorem meets_ofExcept {x : Except QueryFailure α} (ok : ∀ a, x = .ok a → Q a)
    (error : ∀ e, x = .error e → cause e) : (ofExcept x).Meets cause Q := by
  cases x with
  | ok a => exact meets_pure (ok a rfl)
  | error e => exact meets_fail (error e rfl)

theorem meets_request {event : Event} {Q : event.Reply → Prop} (h : ∀ reply, Q reply) :
    (request event).Meets cause Q := by
  rintro (e | reply)
  · refine ⟨fun e' he => ?_, nofun⟩
    cases List.mem_singleton.1 he
  · refine ⟨fun e' he => ?_, fun a _ => h a⟩
    cases List.mem_singleton.1 he

theorem Meets.bind {f : α → Dialogue β} {Q : β → Prop} (h : d.Meets cause P)
    (hf : ∀ a, P a → (f a).Meets cause Q) : (d >>= f).Meets cause Q := by
  refine Always.bind h (fun s a hs => ?_) fun s e hs => ⟨hs.1, nofun⟩
  refine Always.mono (hf a (hs.2 a rfl)) fun s' r hr => ⟨fun e he => ?_, hr.2⟩
  rcases List.mem_append.1 he with he | he
  · exact hs.1 e he
  · exact hr.1 e he

theorem meets_request_bind {event : Event} {f : event.Reply → Dialogue β} {Q : β → Prop}
    (h : ∀ reply, (f reply).Meets cause Q) : (request event >>= f).Meets cause Q :=
  Meets.bind (P := fun _ => True) (meets_request fun _ => trivial) fun reply _ => h reply

/-- Some failures and some result, of whatever kind. -/
theorem meets_any (d : Dialogue α) : d.Meets (fun _ => True) fun _ => True :=
  (always_path d).mono fun _ _ _ => ⟨fun _ _ => trivial, fun _ _ => trivial⟩

/-- What a dialogue ends with, if nothing is known of what comes before. -/
theorem meets_after (d : Dialogue α) {f : α → Dialogue β} {Q : β → Prop}
    (h : ∀ a, (f a).Meets (fun _ => True) Q) : (d >>= f).Meets (fun _ => True) Q :=
  (meets_any d).bind fun a _ => h a

theorem meets_mapM {f : γ → Dialogue β} (hf : ∀ x, (f x).Meets cause fun _ => True) :
    ∀ xs : List γ, (xs.mapM f).Meets cause fun _ => True
  | [] => by
    rw [List.mapM_nil]
    exact meets_pure trivial
  | x :: xs => by
    rw [List.mapM_cons]
    exact (hf x).bind fun y _ => (meets_mapM hf xs).bind fun ys _ => meets_pure trivial

theorem meets_forM {f : γ → Dialogue Unit} (hf : ∀ x, (f x).Meets cause fun _ => True) :
    ∀ xs : List γ, (xs.forM f).Meets cause fun _ => True
  | [] => meets_pure trivial
  | x :: xs => (hf x).bind fun _ _ => meets_forM hf xs

/-! ## Handles -/

/-- Requests around what a body does are no failures of its own. -/
theorem causes_around {opening closing : Event} {acquired : Except DatabaseFailure opening.Reply}
    {released : Except DatabaseFailure closing.Reply} {used : List Step}
    (h : ∀ e, .failed e ∈ used → cause e) :
    ∀ e, .failed e ∈ .asked opening acquired :: (used ++ [.asked closing released]) → cause e := by
  intro e he
  rcases List.mem_cons.1 he with he | he
  · cases he
  · rcases List.mem_append.1 he with he | he
    · exact h e he
    · cases List.mem_singleton.1 he

theorem Meets.bracket {opening closing : Event} {body : opening.Reply → Dialogue α}
    (h : ∀ reply, (body reply).Meets cause Q) : (bracket opening body closing).Meets cause Q := by
  refine (always_bracket h).mono fun s r hs => ?_
  rcases hs with ⟨e, rfl, rfl⟩ | ⟨reply, used, inner, closed, hin, rfl, rfl⟩
  · refine ⟨fun e' he => ?_, nofun⟩
    cases List.mem_singleton.1 he
  · refine ⟨causes_around hin.1, fun a ha => ?_⟩
    -- closing takes a result away or leaves it
    cases inner with
    | error e => cases ha
    | ok b =>
      cases closed with
      | error e => cases ha
      | ok u => exact hin.2 a ha

theorem Meets.onStatement {p : Provider} {isCall : Bool} {sql : String} (h : d.Meets cause Q) :
    (onStatement p isCall sql d).Meets cause Q := Meets.bracket fun _ => h

theorem Meets.onRows {body : Nat → Dialogue α} (h : ∀ rows, (body rows).Meets cause Q) :
    (onRows body).Meets cause Q := Meets.bracket h

theorem Meets.onConnection {p : Provider} (h : d.Meets cause Q) :
    (onConnection p d).Meets cause Q := by
  have acquired : (p.onAcquire).Meets cause fun _ => True := by
    unfold Provider.onAcquire
    split
    · exact meets_request fun _ => trivial
    · exact meets_pure trivial
  have inside : (p.onAcquire >>= fun _ => d).Meets cause Q := acquired.bind fun _ _ => h
  refine (always_onConnection inside).mono fun s r hs => ?_
  rcases hs with ⟨e, rfl, rfl⟩ | ⟨inner, outcome, released, hin, rfl, rfl⟩
  · refine ⟨fun e' he => ?_, nofun⟩
    cases List.mem_singleton.1 he
  · refine ⟨causes_around hin.1, fun a ha => ?_⟩
    cases released with
    | ok u => exact hin.2 a ha
    | error e => cases ha

end

end QueryMethods.Dialogue
