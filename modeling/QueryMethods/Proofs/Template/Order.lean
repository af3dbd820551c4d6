/-
The order of the placeholders that take a marker: parameters and OUT results as they stand in the
template. In this order their markers are numbered without a gap.
-/
import QueryMethods.Proofs.Template.Layout

namespace QueryMethods

/-! ## Interleaving -/

section

variable {α β : Type}

/-- The elements of two lists in the order of marks: `true` takes from the first. -/
def interleave : List Bool → List α → List α → List α
  | true :: marks, p :: ps, rs => p :: interleave marks ps rs
  | false :: marks, ps, r :: rs => r :: interleave marks ps rs
  | _, _, _ => []

theorem interleave_map (f : α → β) : ∀ (marks : List Bool) (ps rs : List α),
    (interleave marks ps rs).map f = interleave marks (ps.map f) (rs.map f)
  | [], _, _ => by simp [interleave]
  | true :: _, [], _ => by simp [interleave]
  | true :: marks, p :: ps, rs => congrArg (f p :: ·) (interleave_map f marks ps rs)
  | false :: _, _, [] => by simp [interleave]
  | false :: marks, ps, r :: rs => congrArg (f r :: ·) (interleave_map f marks ps rs)

/-- With an element for every mark nothing is lost. -/
theorem interleave_perm : ∀ {marks : List Bool} {ps rs : List α},
    ps.length = marks.count true → rs.length = marks.count false →
    (interleave marks ps rs).Perm (ps ++ rs)
  | [], ps, rs, hp, hr => by
    rw [List.eq_nil_of_length_eq_zero hp, List.eq_nil_of_length_eq_zero hr]
    exact .refl _
  | true :: marks, [], rs, hp, _ => by simp at hp
  | true :: marks, p :: ps, rs, hp, hr =>
    .cons p (interleave_perm (by simpa using hp) (by simpa using hr))
  | false :: marks, ps, [], _, hr => by simp at hr
  | false :: marks, ps, r :: rs, hp, hr => by
    have ih : (interleave marks ps rs).Perm (ps ++ rs) :=
      interleave_perm (by simpa using hp) (by simpa using hr)
    exact (ih.cons r).trans List.perm_middle.symm

/-- Where all marks are parameters the other list does not matter. -/
theorem interleave_true : ∀ {marks : List Bool} {ps : List α} (rs rs' : List α),
    (∀ b ∈ marks, b = true) → interleave marks ps rs = interleave marks ps rs'
  | [], _, _, _, _ => by simp [interleave]
  | false :: _, _, _, _, ht => absurd (ht false List.mem_cons_self) (by decide)
  | true :: _, [], _, _, _ => by simp [interleave]
  | true :: _, p :: _, rs, rs', ht =>
    congrArg (p :: ·) (interleave_true rs rs' fun b hb => ht b (List.mem_cons_of_mem _ hb))

theorem interleave_left : ∀ {marks : List Bool} {ps : List α} (rs : List α),
    (∀ b ∈ marks, b = true) → ps.length = marks.length → interleave marks ps rs = ps
  | [], ps, _, _, hp => by rw [List.eq_nil_of_length_eq_zero hp]; simp [interleave]
  | false :: _, _, _, ht, _ => absurd (ht false List.mem_cons_self) (by decide)
  | true :: _, [], _, _, hp => by simp at hp
  | true :: _, p :: _, rs, ht, hp =>
    congrArg (p :: ·) (interleave_left rs (fun b hb => ht b (List.mem_cons_of_mem _ hb))
      (Nat.succ.inj hp))

end

namespace Segment

/-! ## Numbers of markers -/

/-- In plain text only parameters take markers. -/
theorem marks_plain {segments : List Segment} : ∀ b ∈ marks .plain segments, b = true := by
  intro b hb
  obtain ⟨segment, -, hs⟩ := List.mem_filterMap.1 hb
  cases segment with
  | placeholder body meaning => cases meaning <;> cases hs; rfl
  | plain _ | escape _ | literal _ | comment _ _ => cases hs

theorem assemble_parameters_length (form : TemplateForm) :
    ∀ (segments : List Segment) (markers columns : Nat),
    (Template.assemble form markers columns segments).parameters.length =
      (marks form segments).count true
  | [], _, _ => rfl
  | segment :: rest, markers, columns => by
    have ih := assemble_parameters_length form rest
    cases segment with
    | placeholder body meaning =>
      cases meaning with
      | parameter _ _ _ _ =>
        exact (congrArg (· + 1) (ih (markers + 1) columns)).trans List.count_cons_self.symm
      | result _ _ =>
        cases form with
        | plain => exact ih markers (columns + 1)
        | call => exact (ih (markers + 1) columns).trans (List.count_cons_of_ne (by decide)).symm
    | plain _ | escape _ | literal _ | comment _ _ => exact ih markers columns

theorem assemble_results_length : ∀ (segments : List Segment) (markers columns : Nat),
    (Template.assemble .call markers columns segments).results.length =
      (marks .call segments).count false
  | [], _, _ => rfl
  | segment :: rest, markers, columns => by
    have ih := assemble_results_length rest
    cases segment with
    | placeholder body meaning =>
      cases meaning with
      | parameter _ _ _ _ =>
        exact (ih (markers + 1) columns).trans (List.count_cons_of_ne (by decide)).symm
      | result _ _ =>
        exact (congrArg (· + 1) (ih (markers + 1) columns)).trans List.count_cons_self.symm
    | plain _ | escape _ | literal _ | comment _ _ => exact ih markers columns

/-- Without results there are no placeholders for results. -/
theorem no_result_of_assemble {form : TemplateForm} {body : List Char} {place : ResultPlace}
    {tag : Option Tag} {segments : List Segment} {markers columns : Nat}
    (h : (Template.assemble form markers columns segments).results = []) :
    Segment.placeholder body (.result place tag) ∉ segments := by
  induction segments generalizing markers columns with
  | nil => exact List.not_mem_nil
  | cons segment rest ih =>
    have behind (hs : segment ≠ .placeholder body (.result place tag)) {markers columns : Nat}
        (hr : (Template.assemble form markers columns rest).results = []) :
        Segment.placeholder body (.result place tag) ∉ segment :: rest :=
      List.not_mem_cons_of_ne_of_not_mem (Ne.symm hs) (ih hr)
    cases segment with
    | placeholder body' meaning =>
      cases meaning with
      | parameter _ _ _ _ =>
        have hr : (Template.assemble form (markers + 1) columns rest).results = [] := h
        exact behind (by simp) hr
      | result _ _ => cases form <;> cases h
    | plain _ | escape _ | literal _ | comment _ _ =>
      have hr : (Template.assemble form markers columns rest).results = [] := h
      exact behind (by simp) hr

/-- Markers are numbered in the order of the template. -/
theorem assemble_slots (form : TemplateForm) : ∀ (segments : List Segment) (markers columns : Nat),
    interleave (marks form segments)
        ((Template.assemble form markers columns segments).parameters.map (·.slot))
        ((Template.assemble form markers columns segments).results.map (·.slot)) =
      List.range' (markers + 1) (marks form segments).length
  | [], _, _ => rfl
  | segment :: rest, markers, columns => by
    have ih := assemble_slots form rest
    cases segment with
    | placeholder body meaning =>
      cases meaning with
      | parameter _ _ _ _ => exact congrArg ((markers + 1) :: ·) (ih (markers + 1) columns)
      | result _ _ =>
        cases form with
        | plain => exact (interleave_true _ _ marks_plain).trans (ih markers (columns + 1))
        | call => exact congrArg ((markers + 1) :: ·) (ih (markers + 1) columns)
    | plain _ | escape _ | literal _ | comment _ _ => exact ih markers columns

end Segment

end QueryMethods
