/-
The columns of accepted selects. Results have the columns from the first one on, as many as their
values take, in the order of the placeholders. No two of them are written to the same field. A plan
covers all results but keys, and a select hands back a map if and only if one of its results is a
key. Of several keys it knows the first.
-/
import QueryMethods.Proofs.Method.Constructors
import QueryMethods.Proofs.Method.Mirrored

namespace QueryMethods

/-! ## Numbers of columns -/

namespace ResultReading

/-- How many columns results have. -/
def columnCount (rs : List ResultReading) : Nat := (rs.map (·.mapping.conversion.width)).sum

theorem numberColumns_split : ∀ {first : Nat} {rs before after : List ResultReading}
    {r : ResultReading}, numberColumns first rs = before ++ r :: after →
      r.mapping.slots = List.range' (first + columnCount before) r.mapping.conversion.width
  | _, [], before, _, _, h => by
    cases before <;> cases h
  | _, _ :: _, [], _, _, h => by
    cases h
    rfl
  | first, x :: rest, y :: before, after, r, h => by
    unfold numberColumns at h
    obtain ⟨rfl, behind⟩ := List.cons.inj h
    rw [numberColumns_split behind, Nat.add_assoc]
    rfl

/-- Together the columns are a range. -/
theorem numberColumns_all : ∀ (first : Nat) (rs : List ResultReading),
    (numberColumns first rs).flatMap (·.mapping.slots) = List.range' first (columnCount rs)
  | _, [] => rfl
  | first, r :: rest => by
    unfold numberColumns
    rw [List.flatMap_cons, numberColumns_all]
    exact List.range'_append_1

/-! ## Targets -/

section

variable {rs rs' : List ResultReading} (same : rs.map (·.target) = rs'.map (·.target))

include same

theorem findIdx?_target (place : Destination) :
    rs.findIdx? (·.target = place) = rs'.findIdx? (·.target = place) := by
  have mapped (xs : List ResultReading) : xs.findIdx? (·.target = place) =
      (xs.map (·.target)).findIdx? (· = place) := by
    rw [List.findIdx?_map]
    rfl
  rw [mapped, mapped, same]

theorem filterMap_target {α : Type} (f : Destination → Option α) :
    rs.filterMap (fun r => f r.target) = rs'.filterMap (fun r => f r.target) := by
  have mapped (xs : List ResultReading) : xs.filterMap (fun r => f r.target) =
      (xs.map (·.target)).filterMap f := by
    rw [List.filterMap_map]
    rfl
  rw [mapped, mapped, same]

end

/-- As many results of a kind are left in every order. -/
theorem length_filter_perm {rs rs' : List ResultReading}
    (h : (rs.map (·.target)).Perm (rs'.map (·.target))) (p : Destination → Bool) :
    (rs.filter fun r => p r.target).length = (rs'.filter fun r => p r.target).length := by
  have mapped (xs : List ResultReading) : (xs.filter fun r => p r.target).length =
      ((xs.map (·.target)).filter p).length := by
    rw [List.filter_map, List.length_map]
    rfl
  rw [mapped, mapped, (h.filter p).length_eq]

end ResultReading

/-! ## Fields -/

/-- The names on the path of a field. -/
def Destination.fieldNames? : Destination → Option (List String)
  | field path => some (path.map (·.name))
  | _ => none

namespace MethodScope

variable {s : MethodScope}

/-- A field is refused if its path is taken. -/
theorem resultTarget_taken {types : ResultTypes} {parameters : List ValueType} {taken : List String}
    {place : ResultPlace} {type : ValueType} {target : Destination}
    (h : s.resultTarget types parameters taken place = .ok (type, target)) :
    (takenPath target).Nodup ∧ ∀ text ∈ takenPath target, text ∉ taken := by
  have other (none : takenPath target = []) :
      (takenPath target).Nodup ∧ ∀ text ∈ takenPath target, text ∉ taken := by
    rw [none]
    exact ⟨List.nodup_nil, List.forall_mem_nil _⟩
  cases place with
  | key | slot n =>
    unfold resultTarget at h
    dsimp only at h
    split at h <;> cases h
    exact other rfl
  | value path =>
    cases path with
    | nil =>
      cases h
      exact other rfl
    | cons name rest =>
      obtain ⟨-, w, -, -, free, rfl, rfl⟩ := resultTarget_field_eq_ok.1 h
      exact ⟨List.nodup_singleton _, List.forall_mem_singleton.2 free⟩

/-- No path is taken twice. -/
theorem resultMappings_taken {types : ResultTypes} {parameters : List ValueType} :
    ∀ {taken : List String} {definitions : List Template.Result} {results : List ResultReading},
      s.resultMappings types parameters taken definitions = .ok results →
        (results.flatMap (takenPath ·.target)).Nodup ∧
          ∀ r ∈ results, ∀ text ∈ takenPath r.target, text ∉ taken
  | _, [], _, h => by
    cases h
    exact ⟨List.nodup_nil, List.forall_mem_nil _⟩
  | taken, d :: rest, _, h => by
    obtain ⟨type, target, c, others, ht, -, ho, rfl⟩ := resultMappings_cons_eq_ok.1 h
    obtain ⟨single, free⟩ := resultTarget_taken ht
    -- the results behind have both kinds of paths taken before them, this one's and the earlier ones
    obtain ⟨distinct, apart⟩ := resultMappings_taken ho
    constructor
    · rw [List.flatMap_cons, List.nodup_append']
      refine ⟨single, distinct, fun text mem mem' => ?_⟩
      obtain ⟨r, hr, mem'⟩ := List.mem_flatMap.1 mem'
      exact apart r hr text mem' (List.mem_append_left taken mem)
    · refine List.forall_mem_cons.2 ⟨free, fun r hr text mem mem' => ?_⟩
      exact apart r hr text mem (List.mem_append_right _ mem')

/-- No two results of a method are written to the same field. -/
theorem results_fields {definitions : List Template.Result} {resolved : ResolvedResults}
    (h : s.results definitions = .ok resolved) :
    (resolved.results.filterMap (·.target.fieldNames?)).Nodup := by
  have mapped : resolved.results = [] ∨ ∃ types parameters,
      s.resultMappings types parameters [] definitions = .ok resolved.results := by
    cases results_eq_ok.1 h with
    | none _ => exact .inl rfl
    | fields _ _ _ _ mapped | slots _ _ _ _ _ mapped => exact .inr ⟨_, _, mapped⟩
  rcases mapped with none | ⟨types, parameters, mapped⟩
  · rw [none]
    exact List.nodup_nil
  · -- a path is taken by its text, which its names determine
    have texts : resolved.results.flatMap (takenPath ·.target) =
        (resolved.results.filterMap (·.target.fieldNames?)).map ".".intercalate := by
      rw [List.map_filterMap, List.filterMap_eq_flatMap_toList]
      refine List.flatMap_congr fun r _ => ?_
      cases r.target <;> rfl
    have distinct := (resultMappings_taken mapped).1
    rw [texts] at distinct
    exact distinct.of_map _

end MethodScope

/-! ## Keys and values -/

namespace CompiledMethod

/-- The results that are keys. -/
def keys (m : CompiledMethod) : List ResultReading := m.results.filter (·.target = .mapKey)

/-- The results that are no keys. -/
def values (m : CompiledMethod) : List ResultReading := m.results.filter (·.target ≠ .mapKey)

/-- The results that are read of a row: the first key, and all that are no keys. -/
def fetched (m : CompiledMethod) : List ResultReading := m.keys.take 1 ++ m.values

/-- Only keys behind the first are not read. -/
theorem fetched_perm (m : CompiledMethod) : (m.fetched ++ m.keys.drop 1).Perm m.results := by
  have split : (m.keys ++ m.values).Perm m.results := by
    unfold keys values
    simpa using List.filter_append_perm (fun r : ResultReading => decide (r.target = .mapKey)) m.results
  have first : (m.fetched ++ m.keys.drop 1).Perm (m.keys.take 1 ++ m.keys.drop 1 ++ m.values) := by
    rw [fetched, List.append_assoc, List.append_assoc]
    exact List.perm_append_comm.append_left _
  rw [List.take_append_drop] at first
  exact first.trans split

/-- With one key at most every result is read. -/
theorem fetched_perm_results {m : CompiledMethod} (single : m.keys.length ≤ 1) :
    m.fetched.Perm m.results := by
  have all := m.fetched_perm
  rwa [List.drop_eq_nil_of_le single, List.append_nil] at all

end CompiledMethod

/-! ## Plans -/

/-- A plan puts together all results but keys. -/
def RowPlan.Covers : RowPlan → List ResultReading → Prop
  | .none, _ => False
  | .atomic index, results => ∃ r, results[index]? = some r ∧
      results.filter (·.target ≠ .mapKey) = [r]
  | .bean _ _, results => ∀ r ∈ results, r.target ≠ .whole

/-- How the rows of a select are read: whatever is no key is put together, and the first key is that
of an entry. -/
structure CompiledMethod.RowShape (m : CompiledMethod) : Prop where
  columns : m.results = ResultReading.numberColumns 1 m.results
  key : m.key.bind (m.results[·]?) = m.keys.head?
  keyed : m.returns = .map ↔ m.keys ≠ []
  plan : m.rowPlan.Covers m.results
  /-- No two results feed the same parameter, and there is one for each number. -/
  numbers : (m.results.filterMap (·.target.number?)).Nodup
  numbered : ∀ r ∈ m.results, ∀ n, r.target = .constructorSlot n → ∃ c index arity,
    m.rowPlan = .bean c (.constructor index arity) ∧ 1 ≤ n ∧ n ≤ arity
  /-- No two results are written to the same field. -/
  fields : (m.results.filterMap (·.target.fieldNames?)).Nodup

theorem getElem?_findIdx? {α : Type} {p : α → Bool} {xs : List α} :
    (xs.findIdx? p).bind (xs[·]?) = xs.find? p := by
  cases found : xs.findIdx? p with
  | none =>
    rw [List.findIdx?_eq_none_iff] at found
    exact (List.find?_eq_none.2 fun x hx => by rw [found x hx]; exact Bool.false_ne_true).symm
  | some i =>
    obtain ⟨inside, holds, before⟩ := List.findIdx?_eq_some_iff_getElem.1 found
    have first : xs.find? p = some xs[i] := by
      refine List.find?_eq_some_iff_getElem.2 ⟨holds, i, inside, rfl, fun j less => ?_⟩
      rw [Bool.not_eq_true', ← Bool.not_eq_true]
      exact before j less
    rw [first]
    exact List.getElem?_eq_getElem inside

namespace MethodScope

variable {s : MethodScope}

/-- Where rows are put together, all results but keys are. -/
theorem rowPlan_covers (select : s.kind = .select) {r : ResolvedResults} {plan : RowPlan}
    (h : s.rowPlan r = .ok plan) {results : List ResultReading}
    (same : r.results.map (·.target) = results.map (·.target)) : plan.Covers results := by
  -- the plan only depends on the targets
  have search := ResultReading.findIdx?_target same .whole
  have count := ResultReading.length_filter_perm (.of_eq same) fun d => decide (d ≠ .mapKey)
  have parts (none : r.results.findIdx? (·.target = .whole) = none) :
      ∀ x ∈ results, x.target ≠ .whole := by
    rw [search, List.findIdx?_eq_none_iff] at none
    exact fun x hx => of_decide_eq_false (none x hx)
  obtain ⟨origin, suits⟩ := rowPlan_eq_ok.1 h
  cases origin with
  | none other => exact absurd select other
  | atomic found =>
    rw [search] at found
    obtain ⟨only, here, -, alone⟩ := RowPlan.Suits.alone ⟨found, count.symm.trans suits.2⟩
    exact ⟨only, here, alone⟩
  | fresh _ _ _ | constructor _ _ => exact parts suits.2

/-- A select hands back a map if it has a key, and only then. -/
theorem returnForm_map (select : s.kind = .select) {batch : Option Nat} {hasValues hasKey : Bool}
    {returns : ReturnForm} (h : s.returnForm batch hasValues hasKey = .ok returns) :
    returns = .map ↔ hasKey = true := by
  unfold returnForm at h
  rw [if_pos select] at h
  generalize s.signature.returns = declared at h
  cases declared <;> cases hasKey <;> cases h <;> simp

theorem selectConstructor_counted {row : ValueType} {slots : List ConstructorSlot} {index : Nat}
    {parameters : List ValueType} (h : s.selectConstructor row slots = .ok (index, parameters)) :
    Counted slots := by
  unfold selectConstructor at h
  split at h
  · cases h
  · obtain ⟨tags, ht, -⟩ := bind_eq_ok.1 h
    exact (slotTags_counted ht).1

/-- Results feed the parameters of the constructor that is selected, each one of them. -/
theorem Resolution.numbers {definitions : List Template.Result} {resolved : ResolvedResults}
    (h : s.Resolution definitions resolved) :
    resolved.results.filterMap (·.target.number?) = [] ∨ ∃ index arity,
      resolved.constructor = some (index, arity) ∧
        (resolved.results.filterMap (·.target.number?)).Perm (List.range' 1 arity) := by
  cases h with
  | none _ => exact .inl rfl
  | fields _ each =>
    -- without parameters to feed there is no such result
    refine .inl (List.filterMap_eq_nil_iff.2 fun r hr => ?_)
    obtain ⟨d, -, reading⟩ := exists_of_forall₂ each hr
    rw [reading.number?]
    cases place : slotOf? d with
    | none => rfl
    | some slot => cases (reading.of_slot place).2.2.2
  | slots _ _ selected each =>
    refine .inr ⟨_, _, rfl, ?_⟩
    rw [Reading.numbers each]
    exact selectConstructor_counted selected

/-- The rows of an accepted select are read as its placeholders say. -/
theorem compile_rowShape (select : s.kind = .select) {interface method template : String}
    {m : CompiledMethod} (h : s.compile interface method template = .ok m) : m.RowShape := by
  obtain ⟨t, resolved, -, source⟩ := compile_resolvedFrom h
  have targets : resolved.results.map (·.target) = m.results.map (·.target) := by
    refine List.forall₂_eq_eq_eq ▸ ?_
    refine List.forall₂_map_left_iff.2 (List.forall₂_map_right_iff.2 ?_)
    exact source.unplaced.imp fun _ _ same => ResultReading.target_of_unplaced same
  have key : m.key = m.results.findIdx? (·.target = .mapKey) :=
    source.key.trans (ResultReading.findIdx?_target targets .mapKey)
  have numbers := ResultReading.filterMap_target targets Destination.number?
  have fed := (results_resolution source.results).numbers
  constructor
  case columns => exact compile_columns (by rw [select]; exact nofun) h
  case key => rw [key, getElem?_findIdx?, CompiledMethod.keys, List.head?_filter]
  case keyed =>
    rw [returnForm_map select source.returns, key, List.findIdx?_isSome, CompiledMethod.keys,
      ne_eq, List.filter_eq_nil_iff]
    simp
  case plan => exact rowPlan_covers select source.plan targets
  case numbers =>
    rw [← numbers]
    rcases fed with none | ⟨index, arity, -, all⟩
    · rw [none]
      exact List.nodup_nil
    · exact all.nodup_iff.2 (List.nodup_range' 1)
  case numbered =>
    intro r hr n target
    have mem : n ∈ m.results.filterMap (·.target.number?) :=
      List.mem_filterMap.2 ⟨r, hr, Destination.number?_eq_some.2 target⟩
    rw [← numbers] at mem
    rcases fed with none | ⟨index, arity, selected, all⟩
    · rw [none] at mem
      cases mem
    · obtain ⟨r', hr', same⟩ := source.result_mem hr
      have target' : r'.target = .constructorSlot n :=
        (ResultReading.target_of_unplaced same).trans target
      obtain ⟨c, -, plan⟩ := rowPlan_constructor source.plan hr' target' selected
      have range := all.subset mem
      rw [List.mem_range'_1] at range
      exact ⟨c, index, arity, plan, range.1, by omega⟩
  case fields =>
    rw [← ResultReading.filterMap_target targets Destination.fieldNames?]
    exact results_fields source.results

end MethodScope

end QueryMethods
