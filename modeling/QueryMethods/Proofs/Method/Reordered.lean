/-
Templates whose results come in another order. What a result resolves to does not depend on the
results before it, except that no field may be taken twice, which is the same in every order. So a
template is accepted in every order of its results, with the same constructor and the same readings
but for their columns.
-/
import QueryMethods.Proofs.Method.Columns

namespace QueryMethods

/-! ## Templates -/

/-- Segments that differ in the order of their results only. -/
structure Segment.Reordered (segments segments' : List Segment) : Prop where
  others : segments.filter (·.result?.isNone) = segments'.filter (·.result?.isNone)
  results : (segments.filterMap result?).Perm (segments'.filterMap result?)

namespace Template

/-- What a result says, wherever it stands. -/
def Result.content (d : Result) : ResultPlace × Option Tag := (d.place, d.tag)

/-- Templates that differ in the order of their results only. -/
structure Reordered (t t' : Template) : Prop where
  sql : t'.sql = t.sql
  parameters : t'.parameters = t.parameters
  results : (t.results.map Result.content).Perm (t'.results.map Result.content)

theorem content_inColumns : ∀ (columns : Nat) (contents : List (ResultPlace × Option Tag)),
    (inColumns columns contents).map Result.content = contents
  | _, [] => rfl
  | columns, content :: rest => congrArg (content :: ·) (content_inColumns (columns + 1) rest)

/-- Results leave nothing in the text of a plain template, and take no markers. -/
theorem assemble_others : ∀ (segments : List Segment) (markers columns columns' : Nat),
    let parts := assemble .plain markers columns segments
    let others := assemble .plain markers columns' (segments.filter (·.result?.isNone))
    parts.text = others.text ∧ parts.parameters = others.parameters
  | [], _, _, _ => ⟨rfl, rfl⟩
  | segment :: rest, markers, columns, columns' => by
    have ih := assemble_others rest
    cases segment with
    | placeholder body meaning =>
      cases meaning with
      | parameter argument path tag separator =>
        obtain ⟨text, parameters⟩ := ih (markers + 1) columns columns'
        exact ⟨congrArg ('?' :: ·) text, congrArg (_ :: ·) parameters⟩
      | result place tag => exact ih markers (columns + 1) columns'
    | plain _ | escape _ | literal _ | comment _ _ =>
      obtain ⟨text, parameters⟩ := ih markers columns columns'
      exact ⟨congrArg (_ ++ ·) text, parameters⟩

/-- Plain texts are read alike but for the order of their results. -/
theorem read_reordered {text text' : String} {t : Template} {segments segments' : List Segment}
    (read : Template.read .plain text = .ok t)
    (scan : Segment.scan false 0 text.toList = .ok segments)
    (scan' : Segment.scan false 0 text'.toList = .ok segments')
    (reordered : Segment.Reordered segments segments') :
    ∃ t', Template.read .plain text' = .ok t' ∧ t.Reordered t' := by
  obtain ⟨segments₁, scan₁, rfl⟩ := read_plain_eq_ok.1 read
  cases scan.symm.trans scan₁
  obtain ⟨sql, parameters⟩ := assemble_others segments 0 0 0
  obtain ⟨sql', parameters'⟩ := assemble_others segments' 0 0 0
  rw [← reordered.others] at sql' parameters'
  refine ⟨_, read_plain_eq_ok.2 ⟨segments', scan', rfl⟩, ?_, parameters'.trans parameters.symm, ?_⟩
  · have text := sql'.trans sql.symm
    rw [Segment.assemble_text, Segment.assemble_text] at text
    exact congrArg String.ofList text
  · dsimp only
    rw [Segment.assemble_results, Segment.assemble_results, content_inColumns, content_inColumns]
    exact reordered.results

end Template

/-! ## Readings -/

theorem mapM_perm {ε α β : Type} {f : α → Except ε β} {xs xs' : List α} {ys : List β}
    (perm : xs.Perm xs') (h : xs.mapM f = .ok ys) : ∃ ys', xs'.mapM f = .ok ys' ∧ ys.Perm ys' := by
  have both : Relation.Comp List.Perm (List.Forall₂ fun x y => f x = .ok y) xs' ys :=
    ⟨xs, perm.symm, mapM_eq_ok.1 h⟩
  rw [← List.forall₂_comp_perm_eq_perm_comp_forall₂] at both
  obtain ⟨ys', each, perm'⟩ := both
  exact ⟨ys', mapM_eq_ok.2 each, perm'.symm⟩

namespace MethodScope

variable {s : MethodScope} {types : ResultTypes} {parameters : List ValueType}

/-- What a result resolves to by itself, before it has a column. -/
def reading (s : MethodScope) (types : ResultTypes) (parameters : List ValueType)
    (content : ResultPlace × Option Tag) : Except Rejection ResultReading :=
  s.resultTarget types parameters [] content.1 >>= fun found =>
    s.conversionFor content.2 found.1 >>= fun conversion =>
      .ok ⟨⟨conversion, found.1, found.1.nullable || tagNullable content.2, [0], .single⟩, found.2⟩

/-- What is taken only matters to fields. -/
theorem resultTarget_eq_ok {taken : List String} {place : ResultPlace} {type : ValueType}
    {target : Destination} : s.resultTarget types parameters taken place = .ok (type, target) ↔
      s.resultTarget types parameters [] place = .ok (type, target) ∧
        ∀ text ∈ takenPath target, text ∉ taken := by
  cases place with
  | key => exact ⟨fun h => ⟨h, (resultTarget_taken h).2⟩, fun h => h.1⟩
  | slot n => exact ⟨fun h => ⟨h, (resultTarget_taken h).2⟩, fun h => h.1⟩
  | value path =>
    cases path with
    | nil => exact ⟨fun h => ⟨h, (resultTarget_taken h).2⟩, fun h => h.1⟩
    | cons name rest =>
      rw [resultTarget_field_eq_ok, resultTarget_field_eq_ok]
      constructor
      · rintro ⟨bean, w, walk, direct, free, rfl, rfl⟩
        exact ⟨⟨bean, w, walk, direct, List.not_mem_nil, rfl, rfl⟩,
          List.forall_mem_singleton.2 free⟩
      · rintro ⟨⟨bean, w, walk, direct, -, rfl, rfl⟩, free⟩
        exact ⟨bean, w, walk, direct, free _ (List.mem_singleton_self _), rfl, rfl⟩

theorem reading_eq_ok {content : ResultPlace × Option Tag} {r : ResultReading} :
    s.reading types parameters content = .ok r ↔ ∃ type target conversion,
      s.resultTarget types parameters [] content.1 = .ok (type, target) ∧
        s.conversionFor content.2 type = .ok conversion ∧
        r = ⟨⟨conversion, type, type.nullable || tagNullable content.2, [0], .single⟩, target⟩ := by
  unfold reading
  rw [bind_eq_ok]
  constructor
  · rintro ⟨⟨type, target⟩, ht, h⟩
    obtain ⟨conversion, hc, h⟩ := bind_eq_ok.1 h
    exact ⟨type, target, conversion, ht, hc, (Except.ok.inj h).symm⟩
  · rintro ⟨type, target, conversion, ht, hc, rfl⟩
    exact ⟨(type, target), ht, bind_eq_ok.2 ⟨conversion, hc, rfl⟩⟩

/-- Results resolve one by one, if no field is taken twice. -/
theorem resultMappings_eq_ok : ∀ {taken : List String} {definitions : List Template.Result}
    {readings : List ResultReading},
    (∃ results, s.resultMappings types parameters taken definitions = .ok results ∧
      results.map (·.unplaced) = readings) ↔
    (definitions.map Template.Result.content).mapM (s.reading types parameters) = .ok readings ∧
      (readings.flatMap (takenPath ·.target)).Nodup ∧
      ∀ r ∈ readings, ∀ text ∈ takenPath r.target, text ∉ taken
  | taken, [], readings => by
    constructor
    · rintro ⟨results, h, rfl⟩
      cases h
      exact ⟨rfl, List.nodup_nil, List.forall_mem_nil _⟩
    · rintro ⟨h, -⟩
      cases h
      exact ⟨[], rfl, rfl⟩
  | taken, d :: rest, readings => by
    constructor
    · rintro ⟨results, h, rfl⟩
      obtain ⟨distinct, free⟩ := resultMappings_taken h
      obtain ⟨type, target, c, others, ht, hc, ho, rfl⟩ := resultMappings_cons_eq_ok.1 h
      obtain ⟨each, -⟩ := resultMappings_eq_ok.1 ⟨others, ho, rfl⟩
      have first : s.reading types parameters d.content = .ok _ :=
        reading_eq_ok.2 ⟨type, target, c, (resultTarget_eq_ok.1 ht).1, hc, rfl⟩
      refine ⟨mapM_cons_eq_ok.2 ⟨_, _, first, each, rfl⟩, ?_, List.forall_mem_map.2 free⟩
      rw [List.flatMap_map]
      exact distinct
    · rintro ⟨h, distinct, free⟩
      obtain ⟨r, others, hr, ho, rfl⟩ := mapM_cons_eq_ok.1 h
      obtain ⟨type, target, c, ht, hc, rfl⟩ := reading_eq_ok.1 hr
      rw [List.flatMap_cons, List.nodup_append'] at distinct
      obtain ⟨-, distinct, apart⟩ := distinct
      obtain ⟨own, free⟩ := List.forall_mem_cons.1 free
      -- the results behind find the path of this one taken too
      have free' : ∀ r ∈ others, ∀ text ∈ takenPath r.target, text ∉ takenPath target ++ taken := by
        intro r hr text mem mem'
        rcases List.mem_append.1 mem' with mem' | mem'
        · exact apart mem' (List.mem_flatMap.2 ⟨r, hr, mem⟩)
        · exact free r hr text mem mem'
      obtain ⟨results, hm, rfl⟩ := resultMappings_eq_ok.2 ⟨ho, distinct, free'⟩
      have target' := resultTarget_eq_ok.2 ⟨ht, own⟩
      exact ⟨_, resultMappings_cons_eq_ok.2 ⟨type, target, c, results, target', hc, hm, rfl⟩, rfl⟩

/-- In another order the same results resolve to the same readings. -/
theorem resultMappings_perm {definitions definitions' : List Template.Result}
    {results : List ResultReading}
    (perm : (definitions.map Template.Result.content).Perm (definitions'.map Template.Result.content))
    (h : s.resultMappings types parameters [] definitions = .ok results) :
    ∃ results', s.resultMappings types parameters [] definitions' = .ok results' ∧
      (results.map (·.unplaced)).Perm (results'.map (·.unplaced)) := by
  obtain ⟨each, distinct, -⟩ := resultMappings_eq_ok.1 ⟨results, h, rfl⟩
  obtain ⟨readings, each', perm'⟩ := mapM_perm perm each
  have distinct' := (perm'.flatMap_right (takenPath ·.target)).nodup_iff.1 distinct
  have free : ∀ r ∈ readings, ∀ text ∈ takenPath r.target, text ∉ [] := fun _ _ _ _ => nofun
  obtain ⟨results', h', rfl⟩ := resultMappings_eq_ok.2 ⟨each', distinct', free⟩
  exact ⟨results', h', perm'⟩

/-! ## Constructors -/

/-- The tags of slots are those of their numbers, in whatever order the slots come. -/
theorem slotTags_perm {slots slots' : List ConstructorSlot} {tags : List (Option Tag)}
    (perm : slots.Perm slots') (h : slotTags slots = .ok tags) : slotTags slots' = .ok tags := by
  obtain ⟨counted, length, tagged⟩ := slotTags_counted h
  have counted' : Counted slots' := by
    unfold Counted at counted ⊢
    rw [← perm.length_eq]
    exact (perm.map (·.1)).symm.trans counted
  obtain ⟨tags', h'⟩ := slotTags_of_counted counted'
  obtain ⟨-, length', tagged'⟩ := slotTags_counted h'
  have same : tags = tags' := by
    refine List.ext_getElem? fun i => ?_
    by_cases inside : i < slots.length
    · obtain ⟨tag, hs⟩ := counted.slot (Nat.succ_pos i) inside
      exact (tagged _ hs).trans (tagged' _ (perm.subset hs)).symm
    · have outside : tags.length ≤ i := by omega
      have outside' : tags'.length ≤ i := by
        rw [length', ← perm.length_eq]
        omega
      rw [List.getElem?_eq_none outside, List.getElem?_eq_none outside']
  rw [same]
  exact h'

theorem selectConstructor_perm {row : ValueType} {slots slots' : List ConstructorSlot}
    {selected : Nat × List ValueType} (perm : slots.Perm slots')
    (h : s.selectConstructor row slots = .ok selected) :
    s.selectConstructor row slots' = .ok selected := by
  unfold selectConstructor at h ⊢
  split at h
  · cases h
  · obtain ⟨tags, ht, h⟩ := bind_eq_ok.1 h
    exact bind_eq_ok.2 ⟨tags, slotTags_perm perm ht, h⟩

/-! ## Results and plans -/

/-- The slot that a result feeds, by what it says. -/
def slotIn? (content : ResultPlace × Option Tag) : Option ConstructorSlot :=
  slotOf? ⟨0, content.1, content.2⟩

/-- Results that are put together alike: they are the same but for their order and columns. -/
structure ResolvedResults.Reordered (resolved resolved' : ResolvedResults) : Prop where
  results : (resolved.results.map (·.unplaced)).Perm (resolved'.results.map (·.unplaced))
  row : resolved'.row = resolved.row
  constructor : resolved'.constructor = resolved.constructor

theorem results_perm {definitions definitions' : List Template.Result} {resolved : ResolvedResults}
    (perm : (definitions.map Template.Result.content).Perm (definitions'.map Template.Result.content))
    (h : s.results definitions = .ok resolved) :
    ∃ resolved', s.results definitions' = .ok resolved' ∧ resolved.Reordered resolved' := by
  have length : definitions.length = definitions'.length := by
    simpa only [List.length_map] using perm.length_eq
  have slots : (definitions.filterMap slotOf?).Perm (definitions'.filterMap slotOf?) := by
    have mapped (ds : List Template.Result) :
        ds.filterMap slotOf? = (ds.map Template.Result.content).filterMap slotIn? := by
      rw [List.filterMap_map]
      rfl
    rw [mapped, mapped]
    exact perm.filterMap _
  have filled (some : definitions ≠ []) : definitions' ≠ [] := by
    rintro rfl
    exact some (List.eq_nil_of_length_eq_zero length)
  cases results_eq_ok.1 h with
  | none empty =>
    have empty' : definitions' = [] := List.eq_nil_of_length_eq_zero (by rw [← length, empty]; rfl)
    exact ⟨_, results_eq_ok.2 (.none empty'), .refl _, rfl, rfl⟩
  | fields some other typed unfed mapped =>
    obtain ⟨results', mapped', same⟩ := resultMappings_perm perm mapped
    rw [unfed] at slots
    exact ⟨_, results_eq_ok.2 (.fields (filled some) other typed slots.nil_eq.symm mapped'), same, rfl,
      rfl⟩
  | slots some other typed fed selected mapped =>
    obtain ⟨results', mapped', same⟩ := resultMappings_perm perm mapped
    have fed' : definitions'.filterMap slotOf? ≠ [] := by
      intro none
      rw [none] at slots
      exact fed slots.eq_nil
    have selected' := selectConstructor_perm slots selected
    exact ⟨_, results_eq_ok.2 (.slots (filled some) other typed fed' selected' mapped'), same, rfl,
      by rw [slots.length_eq]⟩

end MethodScope

/-- Plans that put the same together: a bean of the same class, made by the same constructor or
fresh, or the value of one result. -/
inductive RowPlan.Alike : RowPlan → RowPlan → Prop
  | none : Alike .none .none
  | atomic (index index' : Nat) : Alike (.atomic index) (.atomic index')
  | bean (type : BeanClass) (origin : InstanceOrigin) : Alike (.bean type origin) (.bean type origin)

namespace ResultReading

variable {rs rs' : List ResultReading}

theorem perm_targets (h : (rs.map (·.unplaced)).Perm (rs'.map (·.unplaced))) :
    (rs.map (·.target)).Perm (rs'.map (·.target)) := by
  have mapped (xs : List ResultReading) :
      xs.map (·.target) = (xs.map (·.unplaced)).map (·.target) := by
    rw [List.map_map]
    rfl
  rw [mapped rs, mapped rs']
  exact h.map _

theorem isSome_findIdx?_perm (h : (rs.map (·.target)).Perm (rs'.map (·.target)))
    (place : Destination) :
    (rs.findIdx? (·.target = place)).isSome = (rs'.findIdx? (·.target = place)).isSome := by
  have mapped (xs : List ResultReading) : (xs.findIdx? (·.target = place)).isSome =
      (xs.map (·.target)).any (· = place) := by
    rw [List.findIdx?_isSome, List.any_map]
    rfl
  rw [mapped, mapped, h.any_eq]

end ResultReading

namespace MethodScope

variable {s : MethodScope}

theorem rowPlan_perm {resolved resolved' : ResolvedResults} {plan : RowPlan}
    (reordered : resolved.Reordered resolved') (h : s.rowPlan resolved = .ok plan) :
    ∃ plan', s.rowPlan resolved' = .ok plan' ∧ plan.Alike plan' := by
  have targets := ResultReading.perm_targets reordered.results
  have count := ResultReading.length_filter_perm targets fun d => decide (d ≠ .mapKey)
  have search := ResultReading.isSome_findIdx?_perm targets .whole
  have filled (some : resolved.results.filter (·.target ≠ .mapKey) ≠ []) :
      resolved'.results.filter (·.target ≠ .mapKey) ≠ [] := fun none =>
    some (List.eq_nil_of_length_eq_zero (by rw [count, none]; rfl))
  have parts (none : resolved.results.findIdx? (·.target = .whole) = none) :
      resolved'.results.findIdx? (·.target = .whole) = Option.none := by
    rw [none] at search
    exact Option.isSome_eq_false_iff.1 search.symm |> Option.isNone_iff_eq_none.1
  obtain ⟨origin, suits⟩ := rowPlan_eq_ok.1 h
  cases origin with
  | none other =>
    have empty : resolved.results.filter (·.target ≠ .mapKey) = [] := suits
    have empty' : resolved'.results.filter (·.target ≠ .mapKey) = [] :=
      List.eq_nil_of_length_eq_zero (by rw [← count, empty]; rfl)
    exact ⟨_, rowPlan_eq_ok.2 ⟨.none other, empty'⟩, .none⟩
  | atomic found =>
    rw [found] at search
    obtain ⟨index', found'⟩ := Option.isSome_iff_exists.1 search.symm
    exact ⟨_, rowPlan_eq_ok.2 ⟨.atomic found', found', count.symm.trans suits.2⟩, .atomic _ _⟩
  | fresh type fields blank =>
    rw [← reordered.row] at type
    rw [← reordered.constructor] at fields
    exact ⟨_, rowPlan_eq_ok.2 ⟨.fresh type fields blank, filled suits.1, parts suits.2⟩, .bean _ _⟩
  | constructor type selected =>
    rw [← reordered.row] at type
    rw [← reordered.constructor] at selected
    exact ⟨_, rowPlan_eq_ok.2 ⟨.constructor type selected, filled suits.1, parts suits.2⟩,
      .bean _ _⟩

end MethodScope

/-! ## Methods -/

theorem RowPlan.Alike.hasValues {plan plan' : RowPlan} (h : plan.Alike plan') :
    MethodScope.hasValues plan' = MethodScope.hasValues plan := by
  cases h <;> rfl

/-- Every result has as many columns as its values take. -/
theorem CompiledMethod.RowShape.width {m : CompiledMethod} (shape : m.RowShape) {r : ResultReading}
    (hr : r ∈ m.results) : r.mapping.slots.length = r.mapping.conversion.width := by
  obtain ⟨before, after, split⟩ := List.append_of_mem hr
  rw [ResultReading.numberColumns_split (shape.columns.symm.trans split), List.length_range']

/-- Methods that are the same but for the order and the columns of their results. -/
structure CompiledMethod.Reordered (m m' : CompiledMethod) : Prop where
  rest : m' = { m with results := m'.results, key := m'.key, rowPlan := m'.rowPlan }
  results : (m.results.map (·.unplaced)).Perm (m'.results.map (·.unplaced))
  plan : m.rowPlan.Alike m'.rowPlan

/-- Wherever they stand, results that are the same have the same width. -/
theorem CompiledMethod.Reordered.widths {m m' : CompiledMethod} (h : m.Reordered m')
    (shape : m.RowShape) (shape' : m'.RowShape) :
    (m.results.map fun r => (r.target, r.mapping.slots.length)).Perm
      (m'.results.map fun r => (r.target, r.mapping.slots.length)) := by
  have mapped {m : CompiledMethod} (shape : m.RowShape) :
      (m.results.map fun r => (r.target, r.mapping.slots.length)) =
        (m.results.map (·.unplaced)).map fun r => (r.target, r.mapping.conversion.width) := by
    rw [List.map_map]
    exact List.map_congr_left fun r hr => congrArg (Prod.mk r.target) (shape.width hr)
  rw [mapped shape, mapped shape']
  exact h.results.map _

namespace MethodScope

variable {s : MethodScope}

/-- A select is accepted in every order of its results. -/
theorem compile_reordered (select : s.kind = .select) {interface method template template' : String}
    {m : CompiledMethod} (h : s.compile interface method template = .ok m)
    {segments segments' : List Segment}
    (scan : Segment.scan false 0 template.toList = .ok segments)
    (scan' : Segment.scan false 0 template'.toList = .ok segments')
    (reordered : Segment.Reordered segments segments') :
    ∃ m', s.compile interface method template' = .ok m' ∧ m.Reordered m' := by
  obtain ⟨t, batch, parameters, resolved, plan, returns, ht, hb, hp, hr, hl, hf, rfl⟩ :=
    compile_eq_ok.1 h
  have plain : form s.kind = .plain := by rw [select]; rfl
  rw [plain] at ht
  obtain ⟨t', ht', same⟩ := Template.read_reordered ht scan scan' reordered
  obtain ⟨resolved', hr', same'⟩ := results_perm same.results hr
  obtain ⟨plan', hl', alike⟩ := rowPlan_perm same' hl
  have targets := ResultReading.perm_targets same'.results
  rw [ResultReading.isSome_findIdx?_perm targets .mapKey, ← alike.hasValues] at hf
  refine ⟨_, compile_eq_ok.2 ⟨t', batch, parameters, resolved', plan', returns,
    by rw [plain]; exact ht', hb, by rw [same.parameters]; exact hp, hr', hl', hf, rfl⟩, ?_⟩
  -- only the markers of parameters are numbered
  have other : ¬ s.kind = .call := by rw [select]; exact nofun
  have results (t : Template) (resolved : ResolvedResults) (plan : RowPlan) :
      (s.assembled interface method t batch parameters resolved plan returns).results =
        ResultReading.numberColumns 1 resolved.results := if_neg other
  constructor
  case rest =>
    unfold assembled markersOf
    rw [if_neg other, if_neg other, same.sql]
  case results =>
    rw [results, results, ResultReading.map_unplaced_numberColumns,
      ResultReading.map_unplaced_numberColumns]
    exact same'.results
  case plan => exact alike

end MethodScope

end QueryMethods
