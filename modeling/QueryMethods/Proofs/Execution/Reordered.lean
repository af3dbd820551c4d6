/-
Rows whose columns come in another order. Each result is decoded from its own columns, wherever they
stand. The parts of a bean come in the order of the results, which changes neither what a
constructor is fed nor what is left by writes to different fields. So selects that differ in the
order of their results hand back the same.
-/
import QueryMethods.Proofs.Bean.Commuting
import QueryMethods.Proofs.Execution.Assembly
import QueryMethods.Proofs.Execution.Marshalling
import QueryMethods.Proofs.Method.Reordered

namespace QueryMethods

open Dialogue

/-! ## Paths of fields -/

/-- Paths along the same indices have the same names. -/
theorem MethodScope.follow_indices {s : MethodScope} : ∀ {names names' : List String}
    {start : ValueType} {w w' : FieldWalk}, s.follow start names = .ok w →
      s.follow start names' = .ok w' → Bean.indices w.path = Bean.indices w'.path → names = names'
  | [], [], _, _, _, _, _, _ => rfl
  | [], _ :: _, _, _, _, h, h', same => by
    cases h
    obtain ⟨_, _, _, _, _, -, -, -, -, rfl⟩ := follow_cons h'
    cases same
  | _ :: _, [], _, _, _, h, h', same => by
    cases h'
    obtain ⟨_, _, _, _, _, -, -, -, -, rfl⟩ := follow_cons h
    cases same
  | name :: rest, name' :: rest', _, _, _, h, h', same => by
    obtain ⟨c, index, field, type, v, hc, hi, hf, hv, rfl⟩ := follow_cons h
    obtain ⟨c', index', field', type', v', hc', hi', hf', hv', rfl⟩ := follow_cons h'
    cases hc.symm.trans hc'
    obtain ⟨first, behind⟩ := List.cons.inj same
    cases (first : index = index')
    -- an index selects one member, which has one name
    cases hf.symm.trans hf'
    obtain ⟨position, m, found, rfl, rfl⟩ := BeanClass.field_of hf
    have own := BeanShape.Field.name_eq ⟨hi, found⟩
    have own' := BeanShape.Field.name_eq ⟨hi', found⟩
    rw [← own, ← own', follow_indices hv hv' behind]

/-- The indices on the path of a field. -/
def Destination.fieldIndices? : Destination → Option (List Nat)
  | field path => some (Bean.indices path)
  | _ => none

theorem Destination.fieldIndices?_eq_some {target : Destination} {indices : List Nat} :
    target.fieldIndices? = some indices ↔
      ∃ path, target = .field path ∧ Bean.indices path = indices := by
  cases target <;> simp [fieldIndices?]

namespace CompiledMethod

variable {m : CompiledMethod} {s : MethodScope} {t : Template}
  {resolved : MethodScope.ResolvedResults}

/-- No two results lead along the same indices. -/
theorem RowShape.indices (shape : m.RowShape) (source : m.ResolvedFrom s t resolved) :
    (m.results.filterMap (·.target.fieldIndices?)).Nodup := by
  have names := List.pairwise_filterMap.1 shape.fields
  refine List.pairwise_filterMap.2 (names.imp_of_mem ?_)
  intro r r' hr hr' apart indices hi indices' hi' same
  obtain ⟨path, target, rfl⟩ := Destination.fieldIndices?_eq_some.1 hi
  obtain ⟨path', target', rfl⟩ := Destination.fieldIndices?_eq_some.1 hi'
  obtain ⟨row, w, typed, -, walk, -, rfl⟩ := source.field_walk hr target
  obtain ⟨row', w', typed', -, walk', -, rfl⟩ := source.field_walk hr' target'
  cases typed.symm.trans typed'
  refine apart _ ?_ _ ?_ (MethodScope.follow_indices walk walk' same)
  · rw [target]
    rfl
  · rw [target']
    rfl

end CompiledMethod

/-! ## Parts in another order -/

namespace Destination

/-- What a part writes to a field. -/
def fieldWrite? : Destination × Value → Option (FieldPath × Value)
  | (.field path, v) => some (path, v)
  | _ => none

theorem writeFields_eq : ∀ (b : Bean) (parts : List (Destination × Value)),
    writeFields b parts = b.writeAll (parts.filterMap fieldWrite?)
  | _, [] => rfl
  | b, (.field path, v) :: rest => by
    show (b.writePath (.value v) path >>= fun b => writeFields b rest) =
      (b.writePath (.value v) path >>= fun b => b.writeAll (rest.filterMap fieldWrite?))
    exact congrArg _ (funext fun b => writeFields_eq b rest)
  | b, (.whole, _) :: rest | b, (.constructorSlot _, _) :: rest | b, (.mapKey, _) :: rest =>
    writeFields_eq b rest

theorem indices_fieldWrite? (parts : List (Destination × Value)) :
    ((parts.filterMap fieldWrite?).map fun w => Bean.indices w.1) =
      parts.filterMap (·.1.fieldIndices?) := by
  rw [List.map_filterMap]
  refine List.filterMap_congr fun part _ => ?_
  obtain ⟨target, v⟩ := part
  cases target <;> rfl

theorem slotValue_eq_null {parts : List (Destination × Value)} {n : Nat}
    (none : ∀ v, (.constructorSlot n, v) ∉ parts) : slotValue parts n = .null := by
  have empty : parts.filter (·.1 = .constructorSlot n) = [] := by
    refine List.filter_eq_nil_iff.2 fun part mem own => none part.2 ?_
    rw [← of_decide_eq_true own]
    exact mem
  rw [slotValue, empty]
  rfl

/-- Where no number occurs twice, parameters are fed the same in every order. -/
theorem slotValue_perm {parts parts' : List (Destination × Value)} (perm : parts.Perm parts')
    (numbers : (parts.filterMap (·.1.number?)).Nodup) (n : Nat) :
    slotValue parts n = slotValue parts' n := by
  by_cases fed : ∃ v, (.constructorSlot n, v) ∈ parts
  · have own := slotValue_mem fed
    have own' := slotValue_mem (fed.imp fun _ mem => perm.subset mem)
    exact congrArg Prod.snd (eq_of_nodup_filterMap numbers own (perm.symm.subset own') rfl rfl)
  · rw [slotValue_eq_null fun v mem => fed ⟨v, mem⟩,
      slotValue_eq_null fun v mem => fed ⟨v, perm.symm.subset mem⟩]

end Destination

/-- The same parts make the same instance in every order in which they do. -/
theorem BeanClass.assemble_perm {c : BeanClass} {origin : InstanceOrigin}
    {parts parts' : List (Destination × Value)} (perm : parts.Perm parts')
    (numbers : (parts.filterMap (·.1.number?)).Nodup)
    (fields : (parts.filterMap (·.1.fieldIndices?)).Nodup) {b b' : Bean}
    (h : c.assemble origin parts = .ok b) (h' : c.assemble origin parts' = .ok b') : b = b' := by
  have constructed : c.construct origin parts = c.construct origin parts' := by
    unfold construct
    simp only [Destination.slotValue_perm perm numbers]
  obtain ⟨start, made, written⟩ := bind_eq_ok.1 h
  obtain ⟨start', made', written'⟩ := bind_eq_ok.1 h'
  cases made.symm.trans (constructed.trans made')
  rw [Destination.writeFields_eq] at written written'
  rw [← Destination.indices_fieldWrite?] at fields
  exact Bean.writeAll_perm (perm.filterMap _) fields written written'

/-! ## Rows -/

/-- What a row holds in the columns of a mapping. -/
def SlotMapping.columnsIn (o : SlotMapping) (row : RowContent) : List Value :=
  (o.slots.zip o.conversion.slotTypes).map fun x => row x.1 x.2

/-- Rows that hold the same columns for the results of the same target. -/
def CompiledMethod.SameColumns (m m' : CompiledMethod) (row row' : RowContent) : Prop :=
  ∀ r ∈ m.results, ∀ r' ∈ m'.results, r.target = r'.target →
    r'.mapping.columnsIn row' = r.mapping.columnsIn row

theorem ResultReading.valueIn_of_unplaced {r r' : ResultReading} (same : r.unplaced = r'.unplaced)
    {row row' : RowContent} (columns : r'.mapping.columnsIn row' = r.mapping.columnsIn row) :
    r'.mapping.valueIn row' = r.mapping.valueIn row := by
  show r'.mapping.decode (r'.mapping.columnsIn row') = r.mapping.decode (r.mapping.columnsIn row)
  unfold SlotMapping.decode
  rw [columns, conversion_of_unplaced same, nullable_of_unplaced same, valueType_of_unplaced same]

/-- Parts are as distinct as the results that they are read for. -/
theorem ResultReading.nodup_partsIn {row : RowContent} {rs : List ResultReading}
    {parts : List (Destination × Value)} (h : partsIn row rs = .ok parts) {α : Type}
    {f : Destination → Option α} (distinct : (rs.filterMap fun r => f r.target).Nodup) :
    (parts.filterMap fun part => f part.1).Nodup := by
  have each : List.Forall₂ (fun r part => f part.1 = (f r.target).map id)
      (rs.filter isPart) parts := by
    refine (mapM_eq_ok.1 h).imp fun r part read => ?_
    obtain ⟨v, -, rfl⟩ := map_eq_ok.1 read
    rw [Option.map_id, id]
  rw [filterMap_of_forall₂ each, List.map_id]
  exact distinct.sublist (List.filter_sublist.filterMap _)

namespace CompiledMethod.Reordered

variable {m m' : CompiledMethod} (reordered : m.Reordered m') {row row' : RowContent}
  (same : m.SameColumns m' row row')

include reordered same

/-- Where one result is left of some kind, it is read like the one that it was before. -/
theorem valueIn_of_only (p : Destination → Bool) {r r' : ResultReading} (hr : r ∈ m.results)
    (holds : p r.target = true) (only : m'.results.filter (fun r => p r.target) = [r']) :
    r'.mapping.valueIn row' = r.mapping.valueIn row := by
  obtain ⟨found, mem, unplaced⟩ := List.mem_map.1
    (reordered.results.subset (List.mem_map_of_mem hr))
  have target := ResultReading.target_of_unplaced unplaced
  have own : found ∈ m'.results.filter (fun r => p r.target) :=
    List.mem_filter.2 ⟨mem, by rw [target]; exact holds⟩
  rw [only, List.mem_singleton] at own
  rw [← own]
  exact ResultReading.valueIn_of_unplaced unplaced.symm (same r hr found mem target.symm)

omit reordered in
/-- Results that stand side by side are read alike. -/
theorem partsIn_of_paired {rs rs' : List ResultReading}
    (paired : List.Forall₂ (fun r r' => r.unplaced = r'.unplaced) rs rs') (own : rs ⊆ m.results)
    (own' : rs' ⊆ m'.results) :
    ResultReading.partsIn row' rs' = ResultReading.partsIn row rs := by
  induction paired with
  | nil => rfl
  | @cons r r' rest rest' unplaced _ ih =>
    obtain ⟨hr, own⟩ := List.cons_subset.1 own
    obtain ⟨hr', own'⟩ := List.cons_subset.1 own'
    have target := ResultReading.target_of_unplaced unplaced
    have part : r'.isPart = r.isPart := by
      unfold ResultReading.isPart
      rw [target]
    have value := ResultReading.valueIn_of_unplaced unplaced (same r hr r' hr' target)
    rw [ResultReading.partsIn_cons, ResultReading.partsIn_cons, ih own own', part, value, target]

/-- The same parts are read, in the order of the results. -/
theorem partsIn_perm {parts parts' : List (Destination × Value)}
    (h : ResultReading.partsIn row m.results = .ok parts)
    (h' : ResultReading.partsIn row' m'.results = .ok parts') : parts.Perm parts' := by
  have both : Relation.Comp List.Perm (List.Forall₂ fun r b => r.unplaced = b) m.results
      (m'.results.map (·.unplaced)) := by
    rw [← List.forall₂_comp_perm_eq_perm_comp_forall₂]
    refine ⟨_, ?_, reordered.results⟩
    exact List.forall₂_map_right_iff.2 (List.forall₂_same.2 fun _ _ => rfl)
  -- between the two orders stand the first results in the order of the second
  obtain ⟨between, perm, paired⟩ := both
  obtain ⟨parts₁, read, perm₁⟩ := mapM_perm (perm.filter ResultReading.isPart) h
  have side := partsIn_of_paired same (List.forall₂_map_right_iff.1 paired) perm.symm.subset
    fun _ mem => mem
  cases (side.symm.trans h').symm.trans read
  exact perm₁

/-- A row is put together as it was before. -/
theorem resultIn_unique (shape : m.RowShape) (shape' : m'.RowShape) {s : MethodScope} {t : Template}
    {resolved : MethodScope.ResolvedResults} (source : m.ResolvedFrom s t resolved) {d d' : Datum}
    (h : m.resultIn row = .ok d) (h' : m'.resultIn row' = .ok d') : d = d' := by
  have covers := shape.plan
  have covers' := shape'.plan
  have alike := reordered.plan
  unfold resultIn at h h'
  generalize m.rowPlan = p, m'.rowPlan = p' at alike covers covers' h h'
  cases alike with
  | none => cases covers
  | atomic index index' =>
    obtain ⟨r, found, alone⟩ := covers
    obtain ⟨r', found', alone'⟩ := covers'
    obtain ⟨hr, value⟩ := List.mem_filter.1 (alone ▸ List.mem_singleton_self r)
    have read := reordered.valueIn_of_only same (fun d => decide (d ≠ .mapKey)) hr value alone'
    dsimp only at h h'
    rw [found] at h
    rw [found'] at h'
    dsimp only at h h'
    rw [read] at h'
    exact Except.ok.inj (h.symm.trans h')
  | bean c origin =>
    obtain ⟨parts, read, assembled⟩ := bind_eq_ok.1 h
    obtain ⟨parts', read', assembled'⟩ := bind_eq_ok.1 h'
    obtain ⟨b, made, rfl⟩ := map_eq_ok.1 assembled
    obtain ⟨b', made', rfl⟩ := map_eq_ok.1 assembled'
    have perm := reordered.partsIn_perm same read read'
    have numbers := ResultReading.nodup_partsIn read shape.numbers
    have fields := ResultReading.nodup_partsIn read (shape.indices source)
    rw [BeanClass.assemble_perm perm numbers fields made made']

/-- The key of an entry is the same, if there is one at most. -/
theorem keyIn_unique (shape : m.RowShape) (shape' : m'.RowShape) (single : m.keys.length ≤ 1)
    {d d' : Datum} (h : m.keyIn row = .ok d) (h' : m'.keyIn row' = .ok d') : d = d' := by
  have targets := ResultReading.perm_targets reordered.results
  have count : m.keys.length = m'.keys.length :=
    ResultReading.length_filter_perm targets fun d => decide (d = .mapKey)
  unfold keyIn at h h'
  rw [shape.key] at h
  rw [shape'.key] at h'
  cases keys : m.keys with
  | nil =>
    rw [keys] at h
    cases h
  | cons r others =>
    cases keys' : m'.keys with
    | nil =>
      rw [keys'] at h'
      cases h'
    | cons r' others' =>
      rw [keys] at h
      rw [keys'] at h'
      have alone : others' = [] := by
        rw [count, keys', List.length_cons] at single
        exact List.eq_nil_of_length_eq_zero (Nat.le_zero.1 (Nat.le_of_succ_le_succ single))
      subst alone
      have mem : r ∈ m.keys := by
        rw [keys]
        exact List.mem_cons_self
      obtain ⟨hr, key⟩ := List.mem_filter.1 mem
      have read := reordered.valueIn_of_only same (fun d => decide (d = .mapKey)) hr key keys'
      dsimp only [List.head?_cons] at h h'
      rw [read] at h'
      exact Except.ok.inj (h.symm.trans h')

theorem entryIn_unique (shape : m.RowShape) (shape' : m'.RowShape) {s : MethodScope} {t : Template}
    {resolved : MethodScope.ResolvedResults} (source : m.ResolvedFrom s t resolved)
    (single : m.keys.length ≤ 1) {e e' : Datum × Datum} (h : m.entryIn row = .ok e)
    (h' : m'.entryIn row' = .ok e') : e = e' := by
  obtain ⟨key, hk, h⟩ := bind_eq_ok.1 h
  obtain ⟨key', hk', h'⟩ := bind_eq_ok.1 h'
  obtain ⟨value, hv, rfl⟩ := map_eq_ok.1 h
  obtain ⟨value', hv', rfl⟩ := map_eq_ok.1 h'
  rw [reordered.keyIn_unique same shape shape' single hk hk',
    reordered.resultIn_unique same shape shape' source hv hv']

end CompiledMethod.Reordered

/-! ## Selects -/

/-- Scans of rows that decode alike decode the same, if all rows decode. -/
theorem Scan.unique {α : Type} {decode decode' : RowContent → Except ConversionFailure α}
    {alike : RowContent → RowContent → Prop}
    (agree : ∀ row row' v v', alike row row' → decode row = .ok v → decode' row' = .ok v' → v = v')
    {rows rows' : List RowContent} (each : List.Forall₂ alike rows rows') {values values' : List α}
    {count count' : Nat} (h : Scan decode rows (.ok values) count)
    (h' : Scan decode' rows' (.ok values') count') : values = values' := by
  cases h with
  | all decoded =>
  cases h' with
  | all decoded' =>
  induction each generalizing values values' with
  | nil =>
    cases decoded
    cases decoded'
    rfl
  | cons first _ ih =>
    cases decoded with
    | cons own others =>
    cases decoded' with
    | cons own' others' => rw [agree _ _ _ _ first own own', ih others others']

namespace CompiledMethod.Reordered

variable {m m' : CompiledMethod} (reordered : m.Reordered m') {rows rows' : List RowContent}

include reordered

/-- Of rows with the same columns the same is handed back. -/
theorem marshals_unique (shape : m.RowShape) (shape' : m'.RowShape) {s : MethodScope} {t : Template}
    {resolved : MethodScope.ResolvedResults} (source : m.ResolvedFrom s t resolved)
    (single : m.keys.length ≤ 1) (alike : List.Forall₂ (m.SameColumns m') rows rows')
    {declared : ReturnType} {outcome outcome' : Except QueryFailure Output} {count count' : Nat}
    (h : m.Marshals rows declared outcome count) (h' : m'.Marshals rows' declared outcome' count')
    {o o' : Output} (ok : outcome = .ok o) (ok' : outcome' = .ok o') : o = o' := by
  cases h with
  | @empty t none =>
    subst none
    cases alike
    cases h' with
    | empty _ =>
      cases null : t.nullable <;> rw [null] at ok ok' <;> cases ok
      cases ok'
      rfl
    | only one _ => cases one
    | several more _ => cases more
    | refused first _ => cases first
  | only one decoded =>
    subst one
    cases ok
    obtain ⟨row', _, same, rest, rfl⟩ := List.forall₂_cons_left_iff.1 alike
    cases rest
    cases h' with
    | empty none => cases none
    | only one decoded' =>
      cases one
      cases ok'
      rw [reordered.resultIn_unique same shape shape' source decoded decoded']
    | several more _ => cases more
    | refused _ _ => cases ok'
  | several more decoded => cases ok
  | refused first failed => cases ok
  | many scan =>
    obtain ⟨data, read, rfl⟩ := map_eq_ok.1 (mapError_eq_ok.1 ok)
    cases h' with
    | many scan' =>
      obtain ⟨data', read', rfl⟩ := map_eq_ok.1 (mapError_eq_ok.1 ok')
      subst read
      subst read'
      have agree : ∀ row row' d d', m.SameColumns m' row row' → m.resultIn row = .ok d →
          m'.resultIn row' = .ok d' → d = d' := fun _ _ _ _ same =>
        reordered.resultIn_unique same shape shape' source
      rw [Scan.unique agree alike scan scan']
  | map scan =>
    obtain ⟨entries, read, rfl⟩ := map_eq_ok.1 (mapError_eq_ok.1 ok)
    cases h' with
    | map scan' =>
      obtain ⟨entries', read', rfl⟩ := map_eq_ok.1 (mapError_eq_ok.1 ok')
      subst read
      subst read'
      have agree : ∀ row row' e e', m.SameColumns m' row row' → m.entryIn row = .ok e →
          m'.entryIn row' = .ok e' → e = e' := fun _ _ _ _ same =>
        reordered.entryIn_unique same shape shape' source single
      rw [Scan.unique agree alike scan scan']

end CompiledMethod.Reordered

/-- A call of a select that succeeds has made its query, and marshals the rows. -/
theorem CompiledMethod.marshals_of_ok {m : CompiledMethod} {declared : ReturnType}
    (select : m.kind = .select)
    (serves : ReturnForm.Serves m.kind m.isBatched m.key.isSome m.rowPlan declared m.returns)
    {rows : List RowContent} {i : CallContext} {args : List Bindable} {σ : Type}
    {respond : Responder σ} {state : σ}
    (served : ServesRows rows 0 ((m.execute i args).run respond state).steps) {o : Output}
    (ok : ((m.execute i args).run respond state).outcome = .ok o) :
    ∃ count, m.Marshals rows declared (.ok o) count := by
  obtain ⟨outcome, count, marshals, answers⟩ := answers_execute select serves rows i args
  obtain ⟨queried, silent⟩ := answers.run respond state served
  by_cases made : .query ∈ ((m.execute i args).run respond state).events
  · have same : outcome = .ok o := (queried made).1.symm.trans ok
    exact ⟨count, same ▸ marshals⟩
  · obtain ⟨e, failed⟩ := silent made
    cases failed.symm.trans ok

/-! ## Accepted selects -/

/-- The order of results does not matter. Let a select be accepted, and let another template differ
from its own in the order of the results only. With that template it is accepted as well: it is the
same method but for the order of its results, which have as many columns as before, and a bean is
made by the same constructor, or fresh in both. Let databases that fail no request serve rows that
hold the same in the columns of the same results. If there is one key at most and both calls
succeed, they hand back the same. -/
theorem MethodDeclaration.results_in_any_order {d : MethodDeclaration} {catalog : Catalog}
    {adapters : AdapterTable} {interface template : String} {m : CompiledMethod}
    (select : d.kind = .select) (h : d.compile catalog adapters interface = .ok m)
    {segments segments' : List Segment}
    (scan : Segment.scan false 0 d.template.toList = .ok segments)
    (scan' : Segment.scan false 0 template.toList = .ok segments')
    (reordered : Segment.Reordered segments segments') :
    ∃ m', { d with template }.compile catalog adapters interface = .ok m' ∧ m.Reordered m' ∧
      (m.results.map fun r => (r.target, r.mapping.slots.length)).Perm
        (m'.results.map fun r => (r.target, r.mapping.slots.length)) ∧
      (m.keys.length ≤ 1 → ∀ rows rows', List.Forall₂ (m.SameColumns m') rows rows' →
        ∀ (i : CallContext) (args : List Bindable) {σ σ' : Type} (respond : Responder σ)
          (respond' : Responder σ') (state : σ) (state' : σ'),
        let run := (m.execute i args).run respond state
        let run' := (m'.execute i args).run respond' state'
        ServesRows rows 0 run.steps → ServesRows rows' 0 run'.steps →
          ∀ o o', run.outcome = .ok o → run'.outcome = .ok o' → o = o') := by
  have compiled := mapError_eq_ok.1 h
  obtain ⟨m', compiled', same⟩ := MethodScope.compile_reordered select compiled scan scan' reordered
  have shape := MethodScope.compile_rowShape select compiled
  have shape' := MethodScope.compile_rowShape select compiled'
  obtain ⟨t, resolved, -, source⟩ := MethodScope.compile_resolvedFrom compiled
  obtain ⟨t', resolved', -, source'⟩ := MethodScope.compile_resolvedFrom compiled'
  refine ⟨m', mapError_eq_ok.2 compiled', same, same.widths shape shape', ?_⟩
  intro single rows rows' alike i args _ _ respond respond' state state' run run' served served'
    o o' ok ok'
  obtain ⟨count, marshals⟩ :=
    CompiledMethod.marshals_of_ok (source.kind.trans select) source.serves served ok
  obtain ⟨count', marshals'⟩ :=
    CompiledMethod.marshals_of_ok (source'.kind.trans select) source'.serves served' ok'
  exact same.marshals_unique shape shape' source single alike marshals marshals' rfl rfl

namespace Sample

/-- Orders by numbers, with a total in two columns and a postal code two beans deep. -/
def ordersByNumber : MethodDeclaration :=
  { name := "orders_by_number"
    kind := .select
    template :=
      "SELECT \x7b%%,%*\x7d, \x7b%%.total\x7d, \x7b%%.id\x7d, \x7b%%.customer.address.zip\x7d FROM o"
    signature :=
      { arguments := [], returns := .map ⟨.scalar .long, false⟩ ⟨.bean "Order", false⟩ } }

/-- The same with the placeholders in another order. -/
def ordersReordered : MethodDeclaration :=
  { ordersByNumber with
    template :=
      "SELECT \x7b%%.customer.address.zip\x7d, \x7b%%.id\x7d, \x7b%%,%*\x7d, \x7b%%.total\x7d FROM o" }

/-- The row that has these columns. -/
def rowOf (columns : List Value) : RowContent := fun column _ => (columns[column - 1]?).getD .null

/-- The key and the total have other columns, and the same order is read by the same number. -/
theorem ordersByNumber_reordered :
    let adapters : AdapterTable := ⟨[("money", moneyAdapter)]⟩
    let i : CallContext := ⟨⟨fun _ => true, none⟩, {}, none⟩
    let row := rowOf [.long 1, .long 250, .string "EUR", .int 7, .int 75001]
    let row' := rowOf [.int 75001, .int 7, .long 1, .long 250, .string "EUR"]
    ∃ m m' o, ordersByNumber.compile catalog adapters "Shop" = .ok m ∧
      ordersReordered.compile catalog adapters "Shop" = .ok m' ∧ m.Reordered m' ∧
      m.results.map (·.mapping.slots) = [[1], [2, 3], [4], [5]] ∧
      m'.results.map (·.mapping.slots) = [[1], [2], [3], [4, 5]] ∧ m.SameColumns m' row row' ∧
      ((m.execute i []).run (cursorOver [row]) 0).outcome = .ok o ∧
      ((m'.execute i []).run (cursorOver [row']) 0).outcome = .ok o := by
  intro adapters i row row'
  have scans : (Segment.scan false 0 ordersByNumber.template.toList).toOption.any (fun segments =>
      (Segment.scan false 0 ordersReordered.template.toList).toOption.any fun segments' =>
        decide (segments.filter (·.result?.isNone) = segments'.filter (·.result?.isNone) ∧
          (segments.filterMap Segment.result?).Perm (segments'.filterMap Segment.result?))) =
            true := by
    decide +kernel
  have calls : (ordersByNumber.compile catalog adapters "Shop").toOption.any (fun m =>
      (ordersReordered.compile catalog adapters "Shop").toOption.any fun m' =>
        ((m.execute i []).run (cursorOver [row]) 0).outcome.toOption.any (fun _ => true) &&
        ((m'.execute i []).run (cursorOver [row']) 0).outcome.toOption.any (fun _ => true) &&
        decide (m.results.map (·.mapping.slots) = [[1], [2, 3], [4], [5]] ∧
          m'.results.map (·.mapping.slots) = [[1], [2], [3], [4, 5]] ∧ m.keys.length ≤ 1 ∧
          ∀ r ∈ m.results, ∀ r' ∈ m'.results, r.target = r'.target →
            r'.mapping.columnsIn row' = r.mapping.columnsIn row)) = true := by
    decide +kernel
  obtain ⟨segments, scan, scans⟩ := exists_of_any scans
  obtain ⟨segments', scan', scans⟩ := exists_of_any scans
  obtain ⟨others, results⟩ := of_decide_eq_true scans
  obtain ⟨m, h, calls⟩ := exists_of_any calls
  obtain ⟨m', h', calls⟩ := exists_of_any calls
  obtain ⟨succeed, checks⟩ := Bool.and_eq_true_iff.1 calls
  obtain ⟨ok, ok'⟩ := Bool.and_eq_true_iff.1 succeed
  obtain ⟨slots, slots', single, same⟩ := of_decide_eq_true checks
  obtain ⟨o, outcome, -⟩ := exists_of_any ok
  obtain ⟨o', outcome', -⟩ := exists_of_any ok'
  obtain ⟨m'', h'', reordered, -, alike⟩ :=
    MethodDeclaration.results_in_any_order rfl h scan scan' ⟨others, results⟩
  cases h'.symm.trans h''
  have equal := alike single [row] [row'] (.cons same .nil) i [] (cursorOver [row])
    (cursorOver [row']) 0 0 (cursorOver_serves [row] _) (cursorOver_serves [row'] _) o o' outcome
    outcome'
  exact ⟨m, m', o, h, h', reordered, slots, slots', same, outcome, equal ▸ outcome'⟩

end Sample

end QueryMethods
