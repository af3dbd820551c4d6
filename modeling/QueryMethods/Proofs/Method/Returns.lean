/-
What an accepted method hands back: which form serves which declared return type, by the kind of
the statement, whether it runs once per element, whether it has a key, and whether its results are
put together.
-/
import QueryMethods.Proofs.Method.Resolved

namespace QueryMethods

/-! ## Forms and return types -/

/-- The form in which a method hands back what it returns. -/
inductive ReturnForm.Serves (kind : StatementKind) (batched keyed : Bool) (plan : RowPlan) :
    ReturnType → ReturnForm → Prop
  /-- One row of a select. -/
  | row (select : kind = .select) (t : ValueType) :
      Serves kind batched keyed plan (.single t) (.one t.nullable)
  | rows (select : kind = .select) (t : ValueType) :
      Serves kind batched keyed plan (.many t) .many
  | entries (select : kind = .select) (key : keyed = true) (k v : ValueType) :
      Serves kind batched keyed plan (.map k v) .map
  /-- What a call leaves in its OUT parameters. -/
  | out (other : kind ≠ .select) (single : batched = false) (values : plan ≠ .none) (t : ValueType) :
      Serves kind batched keyed plan (.single t) (.one t.nullable)
  | unit (other : kind ≠ .select) (none : plan = .none) : Serves kind batched keyed plan .unit .unit
  | count (other : kind ≠ .select) (single : batched = false) (none : plan = .none) {t : ValueType}
      (number : MethodScope.carriesCount t = true) :
      Serves kind batched keyed plan (.single t) .count
  | counts (other : kind ≠ .select) (many : batched = true) (none : plan = .none) {t : ValueType}
      (number : MethodScope.carriesCount t = true) :
      Serves kind batched keyed plan (.many t) .counts

namespace MethodScope

theorem hasValues_iff {plan : RowPlan} : hasValues plan = true ↔ plan ≠ .none := by
  cases plan with
  | none => exact ⟨nofun, fun h => absurd rfl h⟩
  | atomic index => exact ⟨fun _ => nofun, fun _ => rfl⟩
  | bean type origin => exact ⟨fun _ => nofun, fun _ => rfl⟩

section

variable {s : MethodScope} {batch : Option Nat} {plan : RowPlan} {hasKey : Bool}
  {returns : ReturnForm}

/-- A select hands back its rows. -/
theorem returnForm_of_select (select : s.kind = .select) {values : Bool}
    (h : s.returnForm batch values hasKey = .ok returns) :
    ReturnForm.Serves s.kind batch.isSome hasKey plan s.signature.returns returns := by
  unfold returnForm at h
  rw [if_pos select] at h
  cases declared : s.signature.returns with
  | unit =>
    rw [declared] at h
    cases hasKey <;> cases h
  | single t =>
    rw [declared] at h
    cases hasKey <;> cases h
    exact .row select t
  | many t =>
    rw [declared] at h
    cases hasKey <;> cases h
    exact .rows select t
  | map k v =>
    rw [declared] at h
    cases hasKey <;> cases h
    exact .entries select rfl k v

/-- A call hands back what it leaves in its OUT parameters, once. -/
theorem returnForm_of_values (other : s.kind ≠ .select) (values : plan ≠ .none)
    (h : s.returnForm batch true hasKey = .ok returns) :
    ReturnForm.Serves s.kind batch.isSome hasKey plan s.signature.returns returns := by
  unfold returnForm at h
  rw [if_neg other, if_pos rfl] at h
  cases batch with
  | some position => cases h
  | none =>
    rw [if_neg (by decide)] at h
    cases declared : s.signature.returns with
    | single t =>
      rw [declared] at h
      cases h
      exact .out other rfl values t
    | unit | many t | map k v =>
      rw [declared] at h
      cases h

/-- Without values there are only counts to hand back. -/
theorem returnForm_of_counts (other : s.kind ≠ .select) (none : plan = .none)
    (h : s.returnForm batch false hasKey = .ok returns) :
    ReturnForm.Serves s.kind batch.isSome hasKey plan s.signature.returns returns := by
  unfold returnForm at h
  rw [if_neg other, if_neg (by decide)] at h
  cases declared : s.signature.returns with
  | unit =>
    rw [declared] at h
    cases batch <;> cases h <;> exact .unit other none
  | single t =>
    rw [declared] at h
    cases batch with
    | some position => cases h
    | none =>
      dsimp only at h
      split at h
      · next number =>
        cases h
        exact .count other rfl none number
      · cases h
  | many t =>
    rw [declared] at h
    cases batch with
    | none => cases h
    | some position =>
      dsimp only at h
      split at h
      · next number =>
        cases h
        exact .counts other rfl none number
      · cases h
  | map k v =>
    rw [declared] at h
    cases batch <;> cases h

/-- The form that is chosen serves the declared return type. -/
theorem returnForm_serves (h : s.returnForm batch (hasValues plan) hasKey = .ok returns) :
    ReturnForm.Serves s.kind batch.isSome hasKey plan s.signature.returns returns := by
  by_cases select : s.kind = .select
  · exact returnForm_of_select select h
  · cases values : hasValues plan with
    | true =>
      rw [values] at h
      exact returnForm_of_values select (hasValues_iff.1 values) h
    | false =>
      rw [values] at h
      have none : plan = .none := by
        by_contra some
        exact Bool.false_ne_true (values.symm.trans (hasValues_iff.2 some))
      exact returnForm_of_counts select none h

end

end MethodScope

namespace CompiledMethod.ResolvedFrom

variable {m : CompiledMethod} {s : MethodScope} {t : Template}
  {resolved : MethodScope.ResolvedResults}

theorem serves (h : m.ResolvedFrom s t resolved) :
    ReturnForm.Serves m.kind m.isBatched m.key.isSome m.rowPlan s.signature.returns m.returns := by
  have served := MethodScope.returnForm_serves h.returns
  rw [← h.kind] at served
  exact served

/-- Nothing is put together from a statement that changes rows. -/
theorem mutation_plan (h : m.ResolvedFrom s t resolved) (mutation : m.kind.isMutation = true) :
    m.rowPlan = .none := by
  rw [h.kind] at mutation
  have results := h.results
  rw [(MethodScope.results_reads results).2 mutation] at results
  cases results
  have plan := h.plan
  unfold MethodScope.rowPlan at plan
  dsimp only [List.filter_nil] at plan
  split at plan
  · cases plan
  · exact (Except.ok.inj plan).symm

end CompiledMethod.ResolvedFrom

end QueryMethods
