/-
The shape of accepted methods that are no selects: how many slots their mappings have, and that
whatever is an OUT parameter is read.
-/
import QueryMethods.Proofs.Method.Results

namespace QueryMethods

/-- A plan reads every result. -/
def RowPlan.ReadsAll : RowPlan → List ResultReading → Prop
  | .none, results => results = []
  | .atomic index, results => ∃ r, results = [r] ∧ index = 0
  | .bean _ _, results => ∀ r ∈ results, r.target ≠ .whole ∧ r.target ≠ .mapKey

/-- The shape of a method that is no select. -/
structure CompiledMethod.SlotShape (m : CompiledMethod) : Prop where
  /-- Parameters are single values with consecutive slots, as many as their values take. -/
  parameters : ∀ p ∈ m.parameters, p.mapping.iteration = .single ∧
    p.mapping.slots = List.range' p.mapping.firstSlot p.mapping.conversion.width
  bounded : ∀ p ∈ m.parameters, ∀ slot ∈ p.mapping.slots, slot ≤ m.bindCount
  /-- OUT results have as many slots as their values take. -/
  results : ∀ r ∈ m.results, r.mapping.slots.length = r.mapping.conversion.width
  plan : m.rowPlan.ReadsAll m.results
  /-- Only calls that run once have OUT results. -/
  once : m.results ≠ [] → m.kind = .call ∧ m.isBatched = false

namespace MethodScope

variable {s : MethodScope}

/-! ## Targets -/

theorem Targets.ne_mapKey {types : ResultTypes} {parameters : List ValueType} {place : ResultPlace}
    {type : ValueType} {target : Destination} (h : s.Targets types parameters place type target)
    (none : types.key = none) : target ≠ .mapKey := by
  rintro rfl
  cases h with
  | key declared => cases none.symm.trans declared

/-- Only selects have keys. -/
theorem resultTypes_key (mutation : s.kind ≠ .select) {types : ResultTypes}
    (h : s.resultTypes = .ok types) : types.key = none := by
  unfold resultTypes at h
  split at h <;> first | (next kind _ => exact absurd kind mutation) | (cases h; done) | (cases h; rfl)

theorem results_ne_mapKey (mutation : s.kind ≠ .select) {definitions : List Template.Result}
    {resolved : ResolvedResults} (h : s.results definitions = .ok resolved) :
    ∀ r ∈ resolved.results, r.target ≠ .mapKey := by
  cases results_resolution h with
  | none _ => exact List.forall_mem_nil _
  | fields typed each | slots _ typed _ each =>
    intro r hr
    obtain ⟨d, -, reading⟩ := exists_of_forall₂ each hr
    exact reading.target.ne_mapKey (resultTypes_key mutation typed)

/-! ## Plans -/

/-- A plan reads every result, if none is a key. -/
theorem rowPlan_readsAll {r : ResolvedResults} {plan : RowPlan}
    (targets : ∀ x ∈ r.results, x.target ≠ .mapKey) (h : s.rowPlan r = .ok plan) :
    plan.ReadsAll r.results := by
  have all : r.results.filter (·.target ≠ .mapKey) = r.results :=
    List.filter_eq_self.2 fun x hx => decide_eq_true (targets x hx)
  obtain ⟨origin, suits⟩ := rowPlan_eq_ok.1 h
  cases origin with
  | none _ => exact all.symm.trans suits
  | @atomic index _ =>
    obtain ⟨x, here, -, alone⟩ := suits.alone
    rw [all] at alone
    rw [alone] at here
    refine ⟨x, alone, ?_⟩
    cases index with
    | zero => rfl
    | succ n => cases here
  | fresh _ _ _ | constructor _ _ =>
    exact fun x hx =>
      ⟨of_decide_eq_false (List.findIdx?_eq_none_iff.1 suits.2 x hx), targets x hx⟩

/-- What is handed back from OUT parameters is not from a batch. -/
theorem returnForm_batch (mutation : s.kind ≠ .select) {batch : Option Nat} {hasKey : Bool}
    {returns : ReturnForm} (h : s.returnForm batch true hasKey = .ok returns) : batch = none := by
  unfold returnForm at h
  rw [if_neg mutation, if_pos rfl] at h
  split at h
  · cases h
  · next none => simpa using none

/-! ## The whole method -/

/-- Numbering keeps what is read where. -/
theorem readsAll_map {plan : RowPlan} {results : List ResultReading} (h : plan.ReadsAll results)
    (f : SlotMapping → SlotMapping) :
    plan.ReadsAll (results.map fun r => { r with mapping := f r.mapping }) := by
  cases plan with
  | none =>
    rw [show results = [] from h]
    rfl
  | atomic index =>
    obtain ⟨r, hr, hi⟩ := h
    exact ⟨_, by rw [hr]; rfl, hi⟩
  | bean type origin => exact List.forall_mem_map.2 fun r hr => h r hr

/-- Only selects bind all the values of a list. -/
theorem parameters_single (mutation : s.kind ≠ .select) {ps : List Template.Parameter}
    {parameters : List ParameterBinding} (h : ps.mapM s.parameter = .ok parameters) :
    ∀ p ∈ parameters, p.mapping.iteration = .single := by
  intro p hp
  obtain ⟨d, -, hd⟩ := exists_of_forall₂ (mapM_eq_ok.1 h) hp
  obtain ⟨position, a, w, c, -, -, -, rfl⟩ := parameter_eq_ok.1 hd
  exact if_neg mutation

theorem number_range (markers : List WideMarker) (o : SlotMapping) :
    (o.number markers).slots =
      List.range' (o.number markers).firstSlot (o.number markers).slots.length := by
  unfold SlotMapping.firstSlot
  rw [o.length_number_slots, SlotMapping.number_slots, WideMarker.slots]
  cases o.wideMarker.width with
  | zero => rfl
  | succ width => rw [List.range'_succ, List.headD_cons, ← List.range'_succ]

/-- A single mapping has as many slots as its value takes. -/
theorem number_length (markers : List WideMarker) {o : SlotMapping} (single : o.iteration = .single) :
    (o.number markers).slots.length = o.conversion.width :=
  (o.length_number_slots markers).trans (if_pos single)

/-- OUT results are those of a call that runs once. -/
theorem results_once (mutation : s.kind ≠ .select) {definitions : List Template.Result}
    {resolved : ResolvedResults} (reads : List.Forall₂ s.Reads definitions resolved.results)
    (none : s.kind.isMutation = true → definitions = []) {plan : RowPlan}
    (all : plan.ReadsAll resolved.results) {batch : Option Nat} {hasKey : Bool} {returns : ReturnForm}
    (returned : s.returnForm batch (hasValues plan) hasKey = .ok returns)
    (out : resolved.results ≠ []) : s.kind = .call ∧ batch = Option.none := by
  have call : s.kind = .call := by
    by_contra call
    have hm := StatementKind.isMutation_of_ne mutation call
    rw [none hm] at reads
    exact out (List.forall₂_nil_left_iff.1 reads)
  have values : hasValues plan = true := by
    cases plan with
    | none => exact absurd all out
    | atomic index => rfl
    | bean type origin => rfl
  rw [values] at returned
  exact ⟨call, returnForm_batch mutation returned⟩

/-- An accepted method that is no select. -/
theorem compile_slotShape {interface method template : String} {m : CompiledMethod}
    (mutation : s.kind ≠ .select) (h : s.compile interface method template = .ok m) :
    m.SlotShape := by
  obtain ⟨before, segments, after, -, own⟩ := compile_slotsOwnMarkers mutation h
  obtain ⟨t, batch, parameters, resolved, plan, returns, -, -, hp, hr, hl, hf, hm⟩ :=
    compile_eq_ok.1 h
  obtain ⟨reads, none⟩ := results_reads hr
  have all := rowPlan_readsAll (results_ne_mapKey mutation hr) hl
  obtain ⟨markers, hn⟩ : ∃ markers, markers = markersOf s.kind parameters resolved.results := ⟨_, rfl⟩
  have params : m.parameters = parameters.map fun p =>
      { p with mapping := p.mapping.number markers } := by rw [hm, hn]; rfl
  have results : m.results = resolved.results.map fun r =>
      { r with mapping := r.mapping.number markers } := by
    rw [hm, hn]
    exact results_assembled interface method batch parameters plan returns mutation reads none
  constructor
  case parameters =>
    rw [params]
    refine List.forall_mem_map.2 fun p inside => ?_
    have single := parameters_single mutation hp p inside
    have range := number_range markers p.mapping
    rw [number_length markers single] at range
    exact ⟨single, range⟩
  case bounded =>
    intro p hp slot hs
    have mem : p.mapping ∈ m.owners segments :=
      own.complete.mem_iff.2 (List.mem_append_left _ (List.mem_map_of_mem hp))
    have inside : slot ∈ (m.owners segments).flatMap (·.slots) := List.mem_flatMap.2 ⟨_, mem, hs⟩
    rw [own.slots, List.mem_range'_1] at inside
    omega
  case results =>
    rw [results]
    refine List.forall_mem_map.2 fun r inside => ?_
    obtain ⟨d, -, hd⟩ := exists_of_forall₂ reads inside
    exact number_length markers hd.single
  case plan =>
    rw [results, show m.rowPlan = plan by rw [hm]; rfl]
    exact readsAll_map all _
  case once =>
    intro some
    rw [results] at some
    have out : resolved.results ≠ [] := fun hn => some (by rw [hn]; rfl)
    obtain ⟨call, single⟩ := results_once mutation reads none all hf out
    rw [hm]
    exact ⟨call, by rw [single]; rfl⟩

end MethodScope

end QueryMethods
