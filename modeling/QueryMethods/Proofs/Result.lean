/-
Computations that may fail: what a result says about the steps it came from.
-/
import Mathlib.Tactic

namespace QueryMethods

variable {ε α β : Type}

theorem bind_eq_ok {x : Except ε α} {f : α → Except ε β} {b : β} :
    (x >>= f) = .ok b ↔ ∃ a, x = .ok a ∧ f a = .ok b := by
  constructor
  · intro h
    cases x with
    | error e => cases h
    | ok a => exact ⟨a, rfl, h⟩
  · rintro ⟨a, rfl, h⟩
    exact h

theorem mapError_eq_ok {ε' : Type} {x : Except ε α} {f : ε → ε'} {a : α} :
    x.mapError f = .ok a ↔ x = .ok a := by
  cases x with
  | error e => exact ⟨nofun, nofun⟩
  | ok b => constructor <;> (intro h; cases h; rfl)

theorem bind_eq_error {x : Except ε α} {f : α → Except ε β} {e : ε} :
    (x >>= f) = .error e ↔ x = .error e ∨ ∃ a, x = .ok a ∧ f a = .error e := by
  cases x with
  | error e' =>
    constructor
    · intro h
      cases h
      exact .inl rfl
    · rintro (h | ⟨a, h, -⟩) <;> cases h
      rfl
  | ok a =>
    constructor
    · intro h
      exact .inr ⟨a, rfl, h⟩
    · rintro (h | ⟨a', h, h'⟩) <;> cases h
      exact h'

theorem map_eq_ok {x : Except ε α} {f : α → β} {b : β} :
    x.map f = .ok b ↔ ∃ a, x = .ok a ∧ f a = b := by
  cases x with
  | error e => exact ⟨nofun, fun ⟨_, h, _⟩ => nomatch h⟩
  | ok a =>
    constructor
    · intro h
      cases h
      exact ⟨a, rfl, rfl⟩
    · rintro ⟨a', h, rfl⟩
      cases h
      rfl

theorem map_eq_error {x : Except ε α} {f : α → β} {e : ε} :
    x.map f = .error e ↔ x = .error e := by
  cases x with
  | error e' => constructor <;> (intro h; cases h; rfl)
  | ok a => exact ⟨nofun, nofun⟩

/-- What a computation yields has a property that can be evaluated. -/
theorem exists_of_any {x : Except ε α} {check : α → Bool} (h : x.toOption.any check = true) :
    ∃ a, x = .ok a ∧ check a = true := by
  cases x with
  | error e => cases h
  | ok a => exact ⟨a, rfl, h⟩

theorem mapM_nil_except (f : α → Except ε β) : ([] : List α).mapM f = .ok [] := rfl

theorem mapM_cons_eq_ok {f : α → Except ε β} {x : α} {xs : List α} {ys : List β} :
    (x :: xs).mapM f = .ok ys ↔ ∃ y rest, f x = .ok y ∧ xs.mapM f = .ok rest ∧ ys = y :: rest := by
  rw [List.mapM_cons, bind_eq_ok]
  constructor
  · rintro ⟨y, hy, h⟩
    obtain ⟨rest, hr, h⟩ := bind_eq_ok.1 h
    cases h
    exact ⟨y, rest, hy, hr, rfl⟩
  · rintro ⟨y, rest, hy, hr, rfl⟩
    exact ⟨y, hy, bind_eq_ok.2 ⟨rest, hr, rfl⟩⟩

/-- Results of a list come one by one, in order. -/
theorem mapM_eq_ok {f : α → Except ε β} : ∀ {xs : List α} {ys : List β},
    xs.mapM f = .ok ys ↔ List.Forall₂ (fun x y => f x = .ok y) xs ys
  | [], ys => by
    rw [mapM_nil_except]
    constructor
    · rintro h; cases h; exact .nil
    · rintro h; cases h; rfl
  | x :: xs, ys => by
    rw [mapM_cons_eq_ok]
    constructor
    · rintro ⟨y, rest, hy, hr, rfl⟩
      exact .cons hy (mapM_eq_ok.1 hr)
    · intro h
      cases h with
      | cons hy hr => exact ⟨_, _, hy, mapM_eq_ok.2 hr, rfl⟩

/-- A list fails where one of its elements does. -/
theorem mapM_eq_error {f : α → Except ε β} {e : ε} : ∀ {xs : List α}, xs.mapM f = .error e →
    ∃ x ∈ xs, f x = .error e
  | [], h => by
    rw [mapM_nil_except] at h
    cases h
  | x :: xs, h => by
    rw [List.mapM_cons] at h
    rcases bind_eq_error.1 h with h | ⟨y, -, h⟩
    · exact ⟨x, List.mem_cons_self, h⟩
    · rcases bind_eq_error.1 h with h | ⟨ys, -, h⟩
      · obtain ⟨x', mem, failed⟩ := mapM_eq_error h
        exact ⟨x', List.mem_cons_of_mem _ mem, failed⟩
      · cases h

/-- Each of the second ones goes with one of the first. -/
theorem exists_of_forall₂ {R : α → β → Prop} {as : List α} {bs : List β}
    (h : List.Forall₂ R as bs) {b : β} (hb : b ∈ bs) : ∃ a ∈ as, R a b := by
  induction h with
  | nil => cases hb
  | @cons a b' as bs hr _ ih =>
    rcases List.mem_cons.1 hb with rfl | hb
    · exact ⟨a, List.mem_cons_self, hr⟩
    · obtain ⟨a', ha, hr'⟩ := ih hb
      exact ⟨a', List.mem_cons_of_mem _ ha, hr'⟩

/-- Each of the first ones goes with one of the second. -/
theorem exists_of_forall₂_left {R : α → β → Prop} {as : List α} {bs : List β}
    (h : List.Forall₂ R as bs) {a : α} (ha : a ∈ as) : ∃ b ∈ bs, R a b := by
  obtain ⟨b, hb, hr⟩ := exists_of_forall₂ h.flip ha
  exact ⟨b, hb, hr⟩

theorem getElem?_of_forall₂ {R : α → β → Prop} {as : List α} {bs : List β}
    (h : List.Forall₂ R as bs) {i : Nat} {a : α} (ha : as[i]? = some a) :
    ∃ b, bs[i]? = some b ∧ R a b := by
  induction h generalizing i with
  | nil => cases ha
  | @cons a' b as bs hr _ ih =>
    cases i with
    | zero =>
      cases ha
      exact ⟨b, rfl, hr⟩
    | succ i => exact ih ha

theorem forall₂_and {R S : α → β → Prop} {as : List α} {bs : List β} (h : List.Forall₂ R as bs)
    (h' : List.Forall₂ S as bs) : List.Forall₂ (fun a b => R a b ∧ S a b) as bs := by
  induction h with
  | nil => exact .nil
  | cons hr _ ih =>
    cases h' with
    | cons hs behind => exact .cons ⟨hr, hs⟩ (ih behind)

/-- What goes with the first ones and with the last ones lies between them. -/
theorem forall₂_comp {γ : Type} {R : α → β → Prop} {S : β → γ → Prop} : ∀ {as : List α} {cs : List γ},
    List.Forall₂ (fun a c => ∃ b, R a b ∧ S b c) as cs ↔
      ∃ bs, List.Forall₂ R as bs ∧ List.Forall₂ S bs cs
  | [], cs => by
    constructor
    · intro h
      cases h
      exact ⟨[], .nil, .nil⟩
    · rintro ⟨bs, h, h'⟩
      cases h
      cases h'
      exact .nil
  | a :: as, cs => by
    constructor
    · intro h
      cases h with
      | cons ha has =>
        obtain ⟨b, hr, hs⟩ := ha
        obtain ⟨bs, hrs, hss⟩ := forall₂_comp.1 has
        exact ⟨b :: bs, .cons hr hrs, .cons hs hss⟩
    · rintro ⟨bs, h, h'⟩
      cases h with
      | cons hr hrs =>
        cases h' with
        | cons hs hss => exact .cons ⟨_, hr, hs⟩ (forall₂_comp.2 ⟨_, hrs, hss⟩)

/-- A second one may be exchanged for another that goes with the same first one. -/
theorem forall₂_set {R : α → β → Prop} {as : List α} {bs : List β} (h : List.Forall₂ R as bs)
    {i : Nat} {a : α} (ha : as[i]? = some a) {b : β} (hr : R a b) :
    List.Forall₂ R as (bs.set i b) := by
  induction h generalizing i with
  | nil => cases ha
  | @cons a' b' as bs hr' h' ih =>
    cases i with
    | zero =>
      cases ha
      exact .cons hr h'
    | succ i => exact .cons hr' (ih ha)

/-- A list of which every element has a value has the values in order. -/
theorem mapM_eq_some {f : α → Option β} : ∀ {xs : List α} {ys : List β},
    xs.mapM f = some ys → List.Forall₂ (fun x y => f x = some y) xs ys
  | [], ys, h => by
    cases h
    exact .nil
  | x :: xs, ys, h => by
    rw [List.mapM_cons] at h
    obtain ⟨y, hy, h⟩ := Option.bind_eq_some_iff.1 h
    obtain ⟨rest, hr, h⟩ := Option.bind_eq_some_iff.1 h
    cases h
    exact .cons hy (mapM_eq_some hr)

/-- Results that are changed afterwards are the changed results. -/
theorem forall₂_exists {γ : Type} {R : α → β → Prop} {f : β → γ} : ∀ {as : List α} {cs : List γ},
    List.Forall₂ (fun a c => ∃ b, R a b ∧ f b = c) as cs ↔
      ∃ bs, List.Forall₂ R as bs ∧ bs.map f = cs
  | [], cs => by
    constructor
    · intro h
      cases h
      exact ⟨[], .nil, rfl⟩
    · rintro ⟨bs, h, rfl⟩
      cases h
      exact .nil
  | a :: as, cs => by
    constructor
    · intro h
      cases h with
      | cons ha has =>
        obtain ⟨b, hb, rfl⟩ := ha
        obtain ⟨bs, hbs, rfl⟩ := forall₂_exists.1 has
        exact ⟨b :: bs, .cons hb hbs, rfl⟩
    · rintro ⟨bs, h, rfl⟩
      cases h with
      | cons hb hbs => exact .cons ⟨_, hb, rfl⟩ (forall₂_exists.2 ⟨_, hbs, rfl⟩)

theorem exists_forall₂ {R : α → β → Prop} : ∀ {as : List α}, (∀ a ∈ as, ∃ b, R a b) →
    ∃ bs, List.Forall₂ R as bs
  | [], _ => ⟨[], .nil⟩
  | _ :: _, each => by
    obtain ⟨⟨b, first⟩, others⟩ := List.forall_mem_cons.1 each
    obtain ⟨bs, rest⟩ := exists_forall₂ others
    exact ⟨b :: bs, .cons first rest⟩

/-- Lists that go together pick the same values. -/
theorem filterMap_of_forall₂ {γ δ : Type} {f : α → Option γ} {g : β → Option δ} {h : γ → δ}
    {as : List α} {bs : List β} (each : List.Forall₂ (fun a b => g b = (f a).map h) as bs) :
    bs.filterMap g = (as.filterMap f).map h := by
  induction each with
  | nil => rfl
  | @cons a b as bs first _ ih =>
    rw [List.filterMap_cons, List.filterMap_cons, first]
    cases f a with
    | none => exact ih
    | some c => exact congrArg (h c :: ·) ih

end QueryMethods
