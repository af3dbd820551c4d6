/-
What compiling establishes for the runs of a method: every argument, result, constructor and fresh
instance that the compiled method names is there, and every constructor slot is filled.
-/
import QueryMethods.Execution.Binding
import QueryMethods.Proofs.Method.Results
import QueryMethods.Proofs.Method.Returns
import QueryMethods.Proofs.Method.Unrolling

namespace QueryMethods

/-! ## What a method names -/

/-- Whatever the method names is there. -/
structure CompiledMethod.Complete (m : CompiledMethod) (g : Signature) : Prop where
  /-- Every parameter has an argument, and a list where elements are bound. -/
  argument : ∀ p ∈ m.parameters, ∃ a, g.arguments[p.argument]? = some a ∧
    (p.isIterated = true → a.hasElements = true)
  batch : ∀ position, m.batchPosition = some position →
    ∃ a, g.arguments[position]? = some a ∧ a.hasElements = true
  /-- The elements of a batch are bound one by one. -/
  single : m.isBatched = true → ∀ p ∈ m.parameters, p.mapping.iteration = .single
  key : m.returns = .map → ∃ r, m.key.bind (m.results[·]?) = some r ∧ r.target = .mapKey
  /-- Rows are read into something. -/
  rows : m.kind = .select → m.rowPlan ≠ .none
  column : ∀ index, m.rowPlan = .atomic index → ∃ r, m.results[index]? = some r ∧ r.target = .whole
  fresh : ∀ c, m.rowPlan = .bean c .fresh → ∃ b, c.fresh? = some b
  constructor : ∀ c index arity, m.rowPlan = .bean c (.constructor index arity) →
    ∃ constructor, c.constructors[index]? = some constructor ∧ constructor.parameters.length = arity
  filled : ∀ c index arity, m.rowPlan = .bean c (.constructor index arity) →
    ∀ n, 1 ≤ n → n ≤ arity → ∃ r ∈ m.results, r.target = .constructorSlot n
  path : ∀ r ∈ m.results, ∀ path, r.target = .field path → path ≠ []

namespace MethodScope

variable {s : MethodScope}

/-! ## Arguments -/

theorem mem_iterablePositions : ∀ {start position : Nat} {arguments : List Argument},
    position ∈ iterablePositions start arguments → start ≤ position ∧
      ∃ a, arguments[position - start]? = some a ∧ a.hasElements = true
  | _, _, [], h => nomatch h
  | start, position, a :: rest, h => by
    have behind (h : position ∈ iterablePositions (start + 1) rest) : start ≤ position ∧
        ∃ b, (a :: rest)[position - start]? = some b ∧ b.hasElements = true := by
      obtain ⟨low, b, hb, elements⟩ := mem_iterablePositions h
      refine ⟨by omega, b, ?_, elements⟩
      rw [show position - start = position - (start + 1) + 1 by omega]
      exact hb
    unfold iterablePositions at h
    split at h
    · next elements =>
      rcases List.mem_cons.1 h with rfl | h
      · refine ⟨Nat.le_refl _, a, ?_, elements⟩
        rw [Nat.sub_self]
        rfl
      · exact behind h
    · exact behind h

/-- The batch argument is one that has elements. -/
theorem batchPosition_elements {position : Nat} (h : s.batchPosition = .ok (some position)) :
    ∃ a, s.signature.arguments[position]? = some a ∧ a.hasElements = true := by
  unfold batchPosition at h
  split at h
  · cases h
  · split at h
    · cases h
    · next first one =>
      cases h
      have mem : position ∈ iterablePositions 0 s.signature.arguments := by
        rw [one]
        exact List.mem_cons_self
      exact (mem_iterablePositions mem).2
    · cases h

theorem batchPosition_select (select : s.kind = .select) : s.batchPosition = .ok none :=
  if_pos select

theorem parameter_single {p : Template.Parameter} {b : ParameterBinding} (h : s.parameter p = .ok b)
    (mutation : s.kind ≠ .select) : b.mapping.iteration = .single := by
  obtain ⟨position, a, w, c, -, -, -, rfl⟩ := parameter_eq_ok.1 h
  exact if_neg mutation

theorem parameter_argument {p : Template.Parameter} {b : ParameterBinding}
    (h : s.parameter p = .ok b) : ∃ a, s.signature.arguments[b.argument]? = some a ∧
      (b.isIterated = true → a.hasElements = true) := by
  obtain ⟨position, a, w, c, ha, -, -, rfl⟩ := parameter_eq_ok.1 h
  refine ⟨a, (argument_eq_ok.1 ha).2, fun iterated => ?_⟩
  have several : (if s.kind = .select then a.shape else .single) ≠ .single :=
    of_decide_eq_true iterated
  refine decide_eq_true fun single => several ?_
  rw [single, ite_self]

/-! ## Results -/

theorem Targets.path_ne_nil {types : ResultTypes} {parameters : List ValueType}
    {place : ResultPlace} {type : ValueType} {path : FieldPath}
    (h : s.Targets types parameters place type (.field path)) : path ≠ [] := by
  cases h with
  | field some _ walk _ =>
    intro empty
    have length := follow_length walk
    rw [empty] at length
    exact some (List.length_eq_zero_iff.1 length.symm)

/-- Every result is read as some placeholder says, for the type of the row. -/
theorem Resolution.reading {definitions : List Template.Result} {resolved : ResolvedResults}
    (h : s.Resolution definitions resolved) {r : ResultReading} (hr : r ∈ resolved.results) :
    ∃ types parameters d, s.Reading types parameters d r ∧ resolved.row = some types.row := by
  cases h with
  | none _ => cases hr
  | fields _ each | slots _ _ _ each =>
    obtain ⟨d, -, reading⟩ := exists_of_forall₂ each hr
    exact ⟨_, _, d, reading, rfl⟩

/-- The slots of a selected constructor are fed by results. -/
theorem Resolution.filled {definitions : List Template.Result} {resolved : ResolvedResults}
    (h : s.Resolution definitions resolved) {index arity : Nat}
    (selected : resolved.constructor = some (index, arity)) :
    ∃ c constructor, resolved.row.bind s.catalog.classOf? = some c ∧
      c.constructors[index]? = some constructor ∧ constructor.parameters.length = arity ∧
      ∀ n, 1 ≤ n → n ≤ arity → ∃ r ∈ resolved.results, r.target = .constructorSlot n := by
  cases h with
  | none _ => cases selected
  | fields _ _ => cases selected
  | slots _ typed chosen each =>
    cases selected
    obtain ⟨c, constructor, type, found, rfl, length, all⟩ := selectConstructor_ok chosen
    refine ⟨c, constructor, type, found, length, fun n low high => ?_⟩
    obtain ⟨tag, mem⟩ := all n low high
    obtain ⟨d, hd, slot⟩ := List.mem_filterMap.1 mem
    obtain ⟨r, hr, reading⟩ := exists_of_forall₂_left each hd
    refine ⟨r, hr, ?_⟩
    -- the placeholder of the slot is read into it
    have target := reading.target
    unfold slotOf? at slot
    split at slot
    · next k place =>
      cases slot
      rw [place] at target
      generalize r.target = destination at target ⊢
      cases target
      rfl
    · cases slot

end MethodScope

/-! ## Accepted methods -/

namespace CompiledMethod.ResolvedFrom

variable {m : CompiledMethod} {s : MethodScope} {t : Template}
  {resolved : MethodScope.ResolvedResults}

/-- A result of the method is a resolved one, apart from its slots. -/
theorem result_mem (h : m.ResolvedFrom s t resolved) {r : ResultReading} (hr : r ∈ m.results) :
    ∃ r' ∈ resolved.results, r'.unplaced = r.unplaced := exists_of_forall₂ h.unplaced hr

/-- The result at an index is the resolved one at that index, apart from its slots. -/
theorem result_at (h : m.ResolvedFrom s t resolved) {p : ResultReading → Bool} {index : Nat}
    (found : resolved.results.findIdx? p = some index) :
    ∃ r r', m.results[index]? = some r ∧ r'.unplaced = r.unplaced ∧ p r' = true := by
  obtain ⟨inside, holds, -⟩ := List.findIdx?_eq_some_iff_getElem.1 found
  obtain ⟨r, hr, same⟩ := getElem?_of_forall₂ h.unplaced (List.getElem?_eq_getElem inside)
  exact ⟨r, _, hr, same, holds⟩

theorem complete (h : m.ResolvedFrom s t resolved) : m.Complete s.signature := by
  have resolution := MethodScope.results_resolution h.results
  have plan := (MethodScope.rowPlan_eq_ok.1 h.plan).1
  constructor
  case argument =>
    intro p hp
    obtain ⟨d, -, hd⟩ := exists_of_forall₂ h.parameters hp
    exact MethodScope.parameter_argument (b := p.unplaced) hd
  case batch =>
    intro position batched
    have found := h.batch
    rw [batched] at found
    exact MethodScope.batchPosition_elements found
  case single =>
    intro batched p hp
    have mutation : s.kind ≠ .select := by
      intro select
      have none := (MethodScope.batchPosition_select select).symm.trans h.batch
      unfold CompiledMethod.isBatched at batched
      rw [← Except.ok.inj none] at batched
      cases batched
    obtain ⟨d, -, hd⟩ := exists_of_forall₂ h.parameters hp
    exact MethodScope.parameter_single (b := p.unplaced) hd mutation
  case key =>
    intro map
    have serves := h.serves
    rw [map] at serves
    generalize s.signature.returns = declared at serves
    cases serves with
    | entries _ keyed k v =>
      obtain ⟨index, hi⟩ := Option.isSome_iff_exists.1 keyed
      obtain ⟨r, r', at', same, isKey⟩ := h.result_at (h.key.symm.trans hi)
      refine ⟨r, by rw [hi]; exact at', ?_⟩
      rw [← ResultReading.target_of_unplaced same]
      exact of_decide_eq_true isKey
  case rows =>
    intro select none
    rw [none] at plan
    cases plan with
    | none other => exact other (h.kind.symm.trans select)
  case column =>
    intro index atomic
    rw [atomic] at plan
    cases plan with
    | atomic found =>
      obtain ⟨r, r', at', same, isWhole⟩ := h.result_at found
      refine ⟨r, at', ?_⟩
      rw [← ResultReading.target_of_unplaced same]
      exact of_decide_eq_true isWhole
  case fresh =>
    intro c fresh
    rw [fresh] at plan
    cases plan with
    | fresh _ _ blank => exact ⟨⟨c.shape, c.blank⟩, if_pos blank⟩
  case constructor =>
    intro c index arity built
    rw [built] at plan
    cases plan with
    | constructor type selected =>
      obtain ⟨c', constructor, type', found, length, -⟩ := resolution.filled selected
      cases type.symm.trans type'
      exact ⟨constructor, found, length⟩
  case filled =>
    intro c index arity built n low high
    rw [built] at plan
    cases plan with
    | constructor type selected =>
      obtain ⟨-, -, -, -, -, all⟩ := resolution.filled selected
      obtain ⟨r, hr, target⟩ := all n low high
      obtain ⟨r', hr', same⟩ := exists_of_forall₂_left h.unplaced hr
      exact ⟨r', hr', (ResultReading.target_of_unplaced same).symm.trans target⟩
  case path =>
    intro r hr path target
    obtain ⟨r', hr', same⟩ := h.result_mem hr
    obtain ⟨types, parameters, d, reading, -⟩ := resolution.reading hr'
    have targets := reading.target
    rw [ResultReading.target_of_unplaced same, target] at targets
    exact targets.path_ne_nil

end CompiledMethod.ResolvedFrom

end QueryMethods
