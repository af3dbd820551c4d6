/-
What holds on every path through a dialogue, whatever the database answers: `Always`, its rules
for composition, and dialogues that make requests of one kind one after the other and stop at the
first failure (`Sequential`).
-/
import QueryMethods.Database.Provider
import Mathlib.Tactic

namespace QueryMethods.Dialogue

/-! ## Monad laws -/

theorem andThen_pure {α : Type} (d : Dialogue α) : d.andThen (fun a => pure a) = d := by
  induction d with
  | done r => cases r <;> rfl
  | ask event next ih => exact congrArg (ask event) (funext ih)
  | fault e rest ih => exact congrArg (fault e) ih

theorem andThen_andThen {α β γ : Type} (d : Dialogue α) (f : α → Dialogue β) (g : β → Dialogue γ) :
    (d.andThen f).andThen g = d.andThen fun a => (f a).andThen g := by
  unfold andThen
  rw [finish_finish]
  congr 1
  funext r
  cases r <;> rfl

instance : LawfulMonad Dialogue :=
  LawfulMonad.mk' Dialogue andThen_pure (fun _ _ => rfl) andThen_andThen

/-! ## Every path -/

/-- The steps and the outcome of every path through the dialogue have the property. -/
def Always {α : Type} : Dialogue α → (List Step → Except QueryFailure α → Prop) → Prop
  | done r, P => P [] r
  | ask event next, P => ∀ reply, (next reply).Always fun s r => P (.asked event reply :: s) r
  | fault e rest, P => rest.Always fun s r => P (.failed e :: s) r

section

variable {α β : Type} {d : Dialogue α} {P Q : List Step → Except QueryFailure α → Prop}

@[simp] theorem always_done (r : Except QueryFailure α) : (done r).Always P ↔ P [] r := Iff.rfl

@[simp] theorem always_pure (a : α) : (pure a : Dialogue α).Always P ↔ P [] (.ok a) := Iff.rfl

@[simp] theorem always_ask (event : Event) (next : Except DatabaseFailure event.Reply → Dialogue α) :
    (ask event next).Always P ↔
      ∀ reply, (next reply).Always fun s r => P (.asked event reply :: s) r := Iff.rfl

@[simp] theorem always_fault (e : QueryFailure) (rest : Dialogue α) :
    (fault e rest).Always P ↔ rest.Always fun s r => P (.failed e :: s) r := Iff.rfl

theorem Always.mono (h : d.Always P) (hPQ : ∀ s r, P s r → Q s r) : d.Always Q := by
  induction d generalizing P Q with
  | done r => exact hPQ _ _ h
  | ask event next ih => exact fun reply => ih reply (h reply) fun s r => hPQ _ r
  | fault e rest ih => exact ih h fun s r => hPQ _ r

theorem Always.and (h : d.Always P) (h' : d.Always Q) : d.Always fun s r => P s r ∧ Q s r := by
  induction d generalizing P Q with
  | done r => exact ⟨h, h'⟩
  | ask event next ih => exact fun reply => ih reply (h reply) (h' reply)
  | fault e rest ih => exact ih h h'

/-- A run against a database with a state is a path. -/
theorem Always.run {σ : Type} (h : d.Always P) (respond : Responder σ) (state : σ) :
    P (d.run respond state).steps (d.run respond state).outcome := by
  induction d generalizing P state with
  | done r => exact h
  | ask event next ih => exact ih _ (h _) _
  | fault e rest ih => exact ih h _

theorem always_finish {f : Except QueryFailure α → Dialogue β}
    {P : List Step → Except QueryFailure β → Prop} :
    (d.finish f).Always P ↔ d.Always fun s r => (f r).Always fun s' r' => P (s ++ s') r' := by
  induction d generalizing P with
  | done r => rfl
  | ask event next ih => exact forall_congr' fun reply => ih reply
  | fault e rest ih => exact ih

/-- What follows a dialogue only runs on its result; a failure is passed on. -/
theorem always_bind {f : α → Dialogue β} {P : List Step → Except QueryFailure β → Prop} :
    (d >>= f).Always P ↔ d.Always fun s r =>
      match r with
      | .ok a => (f a).Always fun s' r' => P (s ++ s') r'
      | .error e => P s (.error e) := by
  show (d.andThen f).Always P ↔ _
  unfold andThen
  rw [always_finish]
  constructor <;> intro h <;> refine h.mono fun s r hr => ?_ <;> cases r <;> simpa using hr

end

theorem Always.bind {α β : Type} {d : Dialogue α} {f : α → Dialogue β}
    {P : List Step → Except QueryFailure α → Prop} {Q : List Step → Except QueryFailure β → Prop}
    (h : d.Always P) (ok : ∀ s a, P s (.ok a) → (f a).Always fun s' r' => Q (s ++ s') r')
    (error : ∀ s e, P s (.error e) → Q s (.error e)) : (d >>= f).Always Q := by
  rw [always_bind]
  refine h.mono fun s r hr => ?_
  cases r with
  | ok a => exact ok s a hr
  | error e => exact error s e hr

/-- A last step that only converts the result adds nothing. -/
theorem Always.then_pure {α β : Type} {d : Dialogue α} {P : List Step → Prop}
    (h : d.Always fun s _ => P s) (g : α → β) :
    (d >>= fun a => pure (g a)).Always fun s _ => P s := by
  refine Always.bind h (fun s a hs => ?_) fun s e hs => hs
  rw [always_pure, List.append_nil]
  exact hs

theorem always_request_bind {β : Type} {event : Event} {f : event.Reply → Dialogue β}
    {P : List Step → Except QueryFailure β → Prop}
    (error : ∀ e, P [.asked event (.error e)] (.error (.statement e)))
    (ok : ∀ reply, (f reply).Always fun s r => P (.asked event (.ok reply) :: s) r) :
    (request event >>= f).Always P := by
  rintro (e | reply)
  · exact error e
  · exact ok reply

/-- A judgment of dialogues and their values that passes on from one to the next passes along a
list. -/
theorem mapM_rule {J : {α : Type} → Dialogue α → α → Prop}
    (value : ∀ {α : Type} (a : α), J (pure a) a)
    (next : ∀ {α β : Type} {d : Dialogue α} {f : α → Dialogue β} {a : α} {b : β},
      J d a → J (f a) b → J (d >>= f) b)
    {α β : Type} {f : α → Dialogue β} {g : α → β} (each : ∀ x, J (f x) (g x)) : ∀ xs : List α,
      J (xs.mapM f) (xs.map g)
  | [] => by
    rw [List.mapM_nil]
    exact value []
  | x :: xs => by
    rw [List.mapM_cons]
    exact next (each x) (next (mapM_rule value next each xs) (value _))

/-- A path through the dialogue: its steps and its outcome. -/
def Path {α : Type} : Dialogue α → List Step → Except QueryFailure α → Prop
  | done r, s, r' => s = [] ∧ r' = r
  | ask event next, s, r' => ∃ reply s', s = .asked event reply :: s' ∧ (next reply).Path s' r'
  | fault e rest, s, r' => ∃ s', s = .failed e :: s' ∧ rest.Path s' r'

theorem always_path {α : Type} (d : Dialogue α) : d.Always d.Path := by
  induction d with
  | done r => exact ⟨rfl, rfl⟩
  | ask event next ih => exact fun reply => (ih reply).mono fun s r h => ⟨reply, s, rfl, h⟩
  | fault e rest ih => exact (always_fault e rest).2 (ih.mono fun s r h => ⟨s, rfl, h⟩)

/-! ## One request after the other -/

/-- Requests of one kind, one after the other, up to the first failure. -/
def Sequential {α : Type} (A : Event → Prop) : Dialogue α → Prop
  | done r => ∃ a, r = .ok a
  | ask event next => A event ∧ (∀ e, next (.error e) = done (.error (.statement e))) ∧
      ∀ reply, (next (.ok reply)).Sequential A
  | fault e rest => rest = done (.error e)

section

variable {α β : Type} {A B : Event → Prop} {d : Dialogue α}

theorem sequential_pure (a : α) : Sequential A (pure a) := ⟨a, rfl⟩

theorem sequential_fail (e : QueryFailure) : Sequential A (fail e : Dialogue α) := rfl

theorem sequential_ofExcept (r : Except QueryFailure α) : Sequential A (ofExcept r) := by
  cases r with
  | ok a => exact sequential_pure a
  | error e => exact sequential_fail e

theorem sequential_request {event : Event} (h : A event) : Sequential A (request event) :=
  ⟨h, fun _ => rfl, fun reply => sequential_pure reply⟩

theorem Sequential.mono (h : Sequential A d) (hAB : ∀ event, A event → B event) :
    Sequential B d := by
  induction d with
  | done r => exact h
  | ask event next ih => exact ⟨hAB _ h.1, h.2.1, fun reply => ih _ (h.2.2 reply)⟩
  | fault e rest ih => exact h

theorem Sequential.bind {f : α → Dialogue β} (h : Sequential A d) (hf : ∀ a, Sequential A (f a)) :
    Sequential A (d >>= f) := by
  show Sequential A (d.andThen f)
  unfold andThen
  induction d with
  | done r => obtain ⟨a, rfl⟩ := h; exact hf a
  | ask event next ih =>
    refine ⟨h.1, fun e => ?_, fun reply => ih _ (h.2.2 reply)⟩
    show (next (.error e)).finish _ = _
    rw [h.2.1 e]; rfl
  | fault e rest ih => obtain rfl := h; rfl

theorem sequential_mapM {γ : Type} {f : γ → Dialogue β} (hf : ∀ x, Sequential A (f x)) :
    ∀ xs : List γ, Sequential A (xs.mapM f)
  | [] => by rw [List.mapM_nil]; exact sequential_pure _
  | x :: xs => by
    rw [List.mapM_cons]
    exact (hf x).bind fun y => (sequential_mapM hf xs).bind fun ys => sequential_pure _

theorem sequential_forM {γ : Type} {f : γ → Dialogue Unit} (hf : ∀ x, Sequential A (f x)) :
    ∀ xs : List γ, Sequential A (xs.forM f)
  | [] => sequential_pure _
  | x :: xs => (hf x).bind fun _ => sequential_forM hf xs

end

/-! ## Events -/

/-- The requests among steps. -/
def events (steps : List Step) : List Event := steps.filterMap Step.event?

@[simp] theorem events_nil : events [] = [] := rfl

@[simp] theorem events_asked (event : Event) (reply : Except DatabaseFailure event.Reply)
    (s : List Step) : events (.asked event reply :: s) = event :: events s := rfl

@[simp] theorem events_failed (e : QueryFailure) (s : List Step) :
    events (.failed e :: s) = events s := rfl

@[simp] theorem events_append (s s' : List Step) : events (s ++ s') = events s ++ events s' :=
  List.filterMap_append

/-- All requests among the steps are of one kind. -/
def Within (A : Event → Prop) (s : List Step) : Prop := ∀ event ∈ events s, A event

section

variable {α β : Type} {A B : Event → Prop}

@[simp] theorem within_nil : Within A [] := fun _ h => absurd h List.not_mem_nil

@[simp] theorem within_asked {event : Event} {reply : Except DatabaseFailure event.Reply}
    {s : List Step} : Within A (.asked event reply :: s) ↔ A event ∧ Within A s := by
  unfold Within
  rw [events_asked, List.forall_mem_cons]

@[simp] theorem within_failed {e : QueryFailure} {s : List Step} :
    Within A (.failed e :: s) ↔ Within A s := Iff.rfl

@[simp] theorem within_append {s s' : List Step} :
    Within A (s ++ s') ↔ Within A s ∧ Within A s' := by
  unfold Within
  rw [events_append, List.forall_mem_append]

theorem Within.mono {s : List Step} (h : Within A s) (hAB : ∀ event, A event → B event) :
    Within B s := fun event hm => hAB event (h event hm)

/-- A sequential dialogue makes no requests of another kind. -/
theorem Sequential.within {d : Dialogue α} (h : Sequential A d) :
    d.Always fun s _ => Within A s := by
  induction d with
  | done r => exact within_nil
  | ask event next ih =>
    rintro (e | reply)
    · rw [h.2.1 e]
      exact within_asked.2 ⟨h.1, within_nil⟩
    · exact (ih _ (h.2.2 reply)).mono fun s _ hs => within_asked.2 ⟨h.1, hs⟩
  | fault e rest ih => obtain rfl := h; exact within_nil

theorem Always.within_bind {d : Dialogue α} {f : α → Dialogue β}
    (h : d.Always fun s _ => Within A s) (hf : ∀ a, (f a).Always fun s _ => Within A s) :
    (d >>= f).Always fun s _ => Within A s :=
  h.bind (fun _ a hs => (hf a).mono fun _ _ hs' => within_append.2 ⟨hs, hs'⟩) fun _ _ hs => hs

end

end QueryMethods.Dialogue

/-! ## Optional operations -/

namespace QueryMethods.Provider

open Dialogue

variable {A : Event → Prop} (p : Provider)

theorem sequential_onAcquire (h : A .onAcquire) : Sequential A p.onAcquire := by
  unfold onAcquire
  split
  · exact sequential_request h
  · exact sequential_pure _

theorem sequential_fetchSize (h : ∀ n, A (.fetchSize n)) (rows : Nat) :
    Sequential A (p.fetchSize rows) := by
  unfold fetchSize
  split
  · exact sequential_request (h _)
  · exact sequential_pure _

theorem sequential_registerOut (h : ∀ slot type, A (.registerOut slot type)) (slot : Nat)
    (type : SlotType) : Sequential A (p.registerOut slot type) := by
  unfold registerOut
  split
  · exact sequential_request (h _ _)
  · exact sequential_fail _

theorem sequential_execute (he : A .execute) (hu : A .executeUpdate) : Sequential A p.execute := by
  unfold execute
  split
  · exact sequential_request he
  · exact (sequential_request hu).bind fun _ => sequential_pure _

theorem sequential_outValue (h : ∀ slot type, A (.outValue slot type)) (slot : Nat)
    (type : SlotType) : Sequential A (p.outValue slot type) := by
  unfold outValue
  split
  · exact sequential_request (h _ _)
  · exact sequential_fail _

end QueryMethods.Provider
