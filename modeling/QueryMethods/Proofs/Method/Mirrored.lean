/-
Inserts and selects over the same fields. What a field path resolves to depends on the class alone,
and how an untagged value is converted on its type and the adapters. So an insert that binds fields
of a bean and a select that reads the same fields convert each field alike, and each takes the same
numbers as slots and as columns.
-/
import QueryMethods.Proofs.Bean.Fields
import QueryMethods.Proofs.Method.Complete

namespace QueryMethods

/-! ## Templates over fields -/

namespace Template

/-- The parameters are the fields at the paths of one argument, in order and without tags. -/
def BindsFields (t : Template) (selector : ArgumentSelector) (paths : List (List String)) : Prop :=
  t.parameters.map (fun p => (p.argument, p.path, p.tag)) = paths.map fun path => (selector, path, none)

/-- The results are the fields at the paths, in order and without tags. -/
def ReadsFields (t : Template) (paths : List (List String)) : Prop :=
  t.results.map (fun r => (r.place, r.tag)) = paths.map fun path => (.value path, none)

instance (t : Template) (selector : ArgumentSelector) (paths : List (List String)) :
    Decidable (t.BindsFields selector paths) := inferInstanceAs (Decidable (_ = _))

instance (t : Template) (paths : List (List String)) : Decidable (t.ReadsFields paths) :=
  inferInstanceAs (Decidable (_ = _))

variable {t : Template} {paths : List (List String)}

theorem BindsFields.each {selector : ArgumentSelector} (h : t.BindsFields selector paths) :
    List.Forall₂ (fun path (p : Parameter) => p.argument = selector ∧ p.path = path ∧ p.tag = none)
      paths t.parameters := by
  have same : List.Forall₂ (· = ·) _ _ := List.forall₂_eq_eq_eq ▸ h.symm
  rw [List.forall₂_map_left_iff, List.forall₂_map_right_iff] at same
  refine same.imp fun path p eq => ?_
  simp only [Prod.mk.injEq] at eq
  exact ⟨eq.1.symm, eq.2.1.symm, eq.2.2.symm⟩

theorem ReadsFields.each (h : t.ReadsFields paths) :
    List.Forall₂ (fun path (r : Result) => r.place = .value path ∧ r.tag = none) paths t.results := by
  have same : List.Forall₂ (· = ·) _ _ := List.forall₂_eq_eq_eq ▸ h.symm
  rw [List.forall₂_map_left_iff, List.forall₂_map_right_iff] at same
  refine same.imp fun path r eq => ?_
  simp only [Prod.mk.injEq] at eq
  exact ⟨eq.1.symm, eq.2.symm⟩

end Template

/-! ## Field paths -/

namespace MethodScope

variable {s s' : MethodScope}

/-- A path resolves alike in every scope with the same classes, from a type with null or without. -/
theorem follow_determined (same : s'.catalog = s.catalog) : ∀ {names : List String}
    {start start' : ValueType} {w w' : FieldWalk}, start'.kind = start.kind → names ≠ [] →
    s.follow start names = .ok w → s'.follow start' names = .ok w' →
      w'.path = w.path ∧ w'.type = w.type
  | [], _, _, _, _, _, steps, _, _ => absurd rfl steps
  | name :: rest, start, start', _, _, kind, _, h, h' => by
    obtain ⟨c, index, field, type, v, hc, hi, hf, hv, rfl⟩ := follow_cons h
    obtain ⟨c', index', field', type', v', hc', hi', hf', hv', rfl⟩ := follow_cons h'
    have classOf : s'.catalog.classOf? start' = s.catalog.classOf? start := by
      unfold Catalog.classOf?
      rw [same, kind]
    rw [classOf] at hc'
    cases hc.symm.trans hc'
    cases hi.symm.trans hi'
    cases hf.symm.trans hf'
    cases rest with
    | nil =>
      cases hv
      cases hv'
      exact ⟨rfl, rfl⟩
    | cons next rest =>
      obtain ⟨path, type⟩ := follow_determined same rfl (List.cons_ne_nil next rest) hv hv'
      exact ⟨congrArg (_ :: ·) path, type⟩

/-- A path that resolves without a null on the way, through fields that can be descended into,
leads to its field. -/
theorem follow_leads : ∀ {names : List String} {start : ValueType} {w : FieldWalk} {c : BeanClass},
    s.follow start names = .ok w → names ≠ [] → s.catalog.classOf? start = some c →
    w.optional = false → s.catalog.descends c names = true →
      ∃ t, s.catalog.Leads c names w.path t ∧ t.valueType = w.type
  | [], _, _, _, _, steps, _, _, _ => absurd rfl steps
  | [name], _, _, _, h, _, hc, _, _ => by
    obtain ⟨c', index, field, type, v, hc', hi, hf, hv, rfl⟩ := follow_cons h
    cases hc.symm.trans hc'
    cases hv
    obtain ⟨position, m, found, rfl, rfl⟩ := BeanClass.field_of hf
    exact ⟨m.type, .last ⟨hi, found⟩, rfl⟩
  | name :: next :: rest, _, _, c, h, _, hc, direct, descends => by
    obtain ⟨c', index, field, type, v, hc', hi, hf, hv, rfl⟩ := follow_cons h
    cases hc.symm.trans hc'
    obtain ⟨position, m, found, rfl, rfl⟩ := BeanClass.field_of hf
    have direct : v.optional = false := (Bool.or_eq_false_iff.1 direct).2
    -- the next step finds the class of the bean in this field
    obtain ⟨inner, _, _, _, behind, hc', -, -, -, last⟩ := follow_cons hv
    have present : m.type.valueType.nullable = false := by
      rw [last] at direct
      exact (Bool.or_eq_false_iff.1 direct).1
    have field : c.shape.Field name index position m := ⟨hi, found⟩
    rw [Catalog.descends_cons field hc', Bool.and_eq_true] at descends
    obtain ⟨nested, descends⟩ := descends
    obtain ⟨t, leads, type⟩ := follow_leads hv (List.cons_ne_nil next rest) hc' direct descends
    obtain ⟨kind, known⟩ := Catalog.bean_of_classOf hc'
    exact ⟨t, .step field nested (HostType.eq_bean kind present) known leads, type⟩

end MethodScope

/-! ## Columns -/

namespace ResultReading

/-- The columns that results have do not depend on those they had. -/
theorem numberColumns_again (columns : Nat) : ∀ (first : Nat) (rs : List ResultReading),
    numberColumns first (numberColumns columns rs) = numberColumns first rs
  | _, [] => rfl
  | first, r :: rest => by
    unfold numberColumns
    exact congrArg (_ :: ·) (numberColumns_again _ _ rest)

/-- Results that are converted like parameters have the columns of the parameters' slots. -/
theorem numberColumns_slots : ∀ {first : Nat} {ps : List ParameterBinding} {rs : List ResultReading},
    SlotMapping.Consecutive first (ps.map (·.mapping)) →
    (∀ p ∈ ps, p.mapping.slots.length = p.mapping.conversion.width) →
    List.Forall₂ (fun p r => r.mapping.conversion = p.mapping.conversion) ps rs →
      List.Forall₂ (fun p r => r.mapping.slots = p.mapping.slots) ps (numberColumns first rs)
  | _, [], _, _, _, h => by
    cases h
    exact .nil
  | first, p :: ps, r :: rs, consecutive, widths, h => by
    obtain ⟨width, widths⟩ := List.forall_mem_cons.1 widths
    obtain ⟨slots, -, behind⟩ := consecutive
    obtain ⟨same, others⟩ := List.forall₂_cons.1 h
    rw [width] at slots behind
    unfold numberColumns
    rw [same]
    exact .cons slots.symm (numberColumns_slots behind widths others)

end ResultReading

/-! ## Accepted inserts and selects -/

namespace MethodScope

variable {s : MethodScope} {interface method template : String} {m : CompiledMethod}

/-- The results of an accepted statement that is no call are columns, from the first one on. -/
theorem compile_columns (noCall : s.kind ≠ .call)
    (h : s.compile interface method template = .ok m) :
    m.results = ResultReading.numberColumns 1 m.results := by
  obtain ⟨t, batch, parameters, resolved, plan, returns, -, -, -, -, -, -, rfl⟩ := compile_eq_ok.1 h
  have results : (s.assembled interface method t batch parameters resolved plan returns).results =
      ResultReading.numberColumns 1 resolved.results := if_neg noCall
  rw [results, ResultReading.numberColumns_again]

/-- A parameter that binds the field at a path of an argument. -/
structure Binds (s : MethodScope) (position : Nat) (type : ValueType) (names : List String)
    (p : ParameterBinding) : Prop where
  argument : p.argument = position
  follows : ∃ w, s.follow type names = .ok w ∧ p.path = w.path ∧
    s.conversionFor none w.type = .ok p.mapping.conversion

/-- A result that is read into the field at a path of a class. -/
structure ReadsInto (s : MethodScope) (c : BeanClass) (row : ValueType) (names : List String)
    (r : ResultReading) : Prop where
  leads : ∃ w t, s.follow row names = .ok w ∧ s.catalog.Leads c names w.path t ∧
    t.valueType = w.type ∧ r.target = .field w.path ∧
    s.conversionFor none w.type = .ok r.mapping.conversion ∧ r.mapping.nullable = t.optional

theorem ReadsInto.of_unplaced {c : BeanClass} {row : ValueType} {names : List String}
    {r r' : ResultReading} (h : s.ReadsInto c row names r) (same : r.unplaced = r'.unplaced) :
    s.ReadsInto c row names r' := by
  obtain ⟨w, t, walk, leads, typed, field, conversion, nullable⟩ := h.leads
  refine ⟨w, t, walk, leads, typed, ?_, ?_, ?_⟩
  · rw [← ResultReading.target_of_unplaced same]
    exact field
  · rw [← ResultReading.conversion_of_unplaced same]
    exact conversion
  · rw [← ResultReading.nullable_of_unplaced same]
    exact nullable

variable {t : Template} {resolved : ResolvedResults} {paths : List (List String)} {row : ValueType}
  {c : BeanClass}

/-- Results at field paths take no constructor, and each is read into its field. -/
theorem Resolution.reads (h : s.Resolution t.results resolved) (select : s.kind = .select)
    (fields : t.ReadsFields paths) (returns : s.signature.returns = .single row)
    (class' : s.catalog.classOf? row = some c)
    (steps : ∀ names ∈ paths, names ≠ [] ∧ s.catalog.descends c names = true) :
    resolved.constructor = Option.none ∧ (∀ type, resolved.row = some type → type = row) ∧
      List.Forall₂ (s.ReadsInto c { row with nullable := false }) paths resolved.results := by
  have each := fields.each
  cases h with
  | none empty =>
    rw [empty] at each
    cases each
    exact ⟨rfl, nofun, .nil⟩
  | slots fed _ _ _ =>
    refine absurd (List.filterMap_eq_nil_iff.2 fun d hd => ?_) fed
    obtain ⟨path, -, place, -⟩ := exists_of_forall₂ each hd
    unfold slotOf?
    rw [place]
  | @fields types results typed readings =>
    have row' : types = ⟨row, Option.none⟩ := by
      unfold resultTypes at typed
      rw [select, returns] at typed
      cases typed
      rfl
    subst row'
    refine ⟨rfl, fun type same => (Option.some.inj same).symm, ?_⟩
    have both := (List.forall₂_and_left _ _).2 ⟨steps, each⟩
    refine (forall₂_comp.2 ⟨_, both, readings⟩).imp fun names r hr => ?_
    obtain ⟨d, ⟨⟨steps, descends⟩, place, untagged⟩, reading⟩ := hr
    have target := reading.target
    have conversion := reading.conversion
    have nullable := reading.nullable
    rw [place] at target
    rw [untagged] at conversion nullable
    obtain ⟨w, walk, direct, type, field⟩ := target.of_value steps
    have class'' : s.catalog.classOf? { row with nullable := false } = some c := class'
    obtain ⟨t, leads, typed⟩ := follow_leads walk steps class'' direct descends
    rw [type] at conversion nullable
    refine ⟨w, t, walk, leads, typed, field, conversion, ?_⟩
    rw [nullable, ← typed]
    exact Bool.or_false _

/-- Rows of fields are put together by filling a fresh instance. -/
theorem PlanFrom.fills {plan : RowPlan} (h : s.PlanFrom resolved plan) (select : s.kind = .select)
    (own : resolved.constructor = Option.none) (rows : ∀ type, resolved.row = some type → type = row)
    (class' : s.catalog.classOf? row = some c)
    (each : List.Forall₂ (s.ReadsInto c { row with nullable := false }) paths resolved.results) :
    plan = .bean c .fresh ∧ c.hasDefault = true := by
  cases h with
  | none other => exact absurd select other
  | constructor _ selected => cases own.symm.trans selected
  | atomic found =>
    obtain ⟨inside, whole, -⟩ := List.findIdx?_eq_some_iff_getElem.1 found
    obtain ⟨names, -, into⟩ := exists_of_forall₂ each (List.getElem_mem inside)
    obtain ⟨w, t, -, -, -, field, -⟩ := into.leads
    cases field.symm.trans (of_decide_eq_true whole)
  | fresh type _ blank =>
    obtain ⟨type', known, found⟩ := Option.bind_eq_some_iff.1 type
    cases rows type' known
    cases class'.symm.trans found
    exact ⟨rfl, blank⟩

end MethodScope

namespace CompiledMethod.ResolvedFrom

variable {m : CompiledMethod} {s : MethodScope} {t : Template}
  {resolved : MethodScope.ResolvedResults} {paths : List (List String)}

theorem binds (h : m.ResolvedFrom s t resolved) {selector : ArgumentSelector}
    (fields : t.BindsFields selector paths) {position : Nat} {a : Argument}
    (argument : s.argument selector = .ok (position, a)) :
    List.Forall₂ (s.Binds position a.element) paths m.parameters := by
  refine (forall₂_comp.2 ⟨_, fields.each, h.parameters⟩).imp fun names b hb => ?_
  obtain ⟨p, ⟨selects, path, untagged⟩, resolves⟩ := hb
  obtain ⟨position', a', w, conversion, ha, hw, hc, eq⟩ := MethodScope.parameter_eq_ok.1 resolves
  change s.argument p.argument = _ at ha
  change s.follow a'.element p.path = _ at hw
  change s.conversionFor p.tag w.type = _ at hc
  rw [selects, argument] at ha
  rw [path] at hw
  rw [untagged] at hc
  cases ha
  have own : b.mapping.conversion = conversion := congrArg (·.mapping.conversion) eq
  refine ⟨congrArg (·.argument) eq, w, hw, congrArg (·.path) eq, ?_⟩
  rw [own]
  exact hc

/-- A select of fields of a class reads each into a fresh instance. -/
theorem reads (h : m.ResolvedFrom s t resolved) (select : s.kind = .select)
    (fields : t.ReadsFields paths) {row : ValueType} (returns : s.signature.returns = .single row)
    {c : BeanClass} (class' : s.catalog.classOf? row = some c)
    (steps : ∀ names ∈ paths, names ≠ [] ∧ s.catalog.descends c names = true) :
    m.rowPlan = .bean c .fresh ∧ m.returns = .one row.nullable ∧ c.hasDefault = true ∧
      List.Forall₂ (s.ReadsInto c { row with nullable := false }) paths m.results := by
  have resolution := MethodScope.results_resolution h.results
  obtain ⟨none, rows, read⟩ := resolution.reads select fields returns class' steps
  obtain ⟨plan, blank⟩ := (MethodScope.rowPlan_eq_ok.1 h.plan).1.fills select none rows class' read
  have form : m.returns = .one row.nullable := by
    have serves := h.serves
    rw [returns] at serves
    generalize m.returns = form at serves ⊢
    cases serves with
    | row _ _ => rfl
    | out other _ _ _ | count other _ _ _ => exact absurd (h.kind.trans select) other
  refine ⟨plan, form, blank, (forall₂_comp.2 ⟨_, read, h.unplaced⟩).imp fun names r' hr => ?_⟩
  obtain ⟨r, into, same⟩ := hr
  exact into.of_unplaced same

end CompiledMethod.ResolvedFrom

/-! ## Fields that are bound and read alike -/

namespace MethodScope

variable {s s' : MethodScope} {c : BeanClass} {position : Nat} {paths : List (List String)}

/-- The field that a parameter binds is the one that a result is read into, by the same conversion
and in the columns with the numbers of the slots. -/
structure Mirrors (s : MethodScope) (c : BeanClass) (position : Nat) (names : List String)
    (p : ParameterBinding) (r : ResultReading) : Prop where
  argument : p.argument = position
  field : ∃ t, s.catalog.Leads c names p.path t ∧
    s.conversionFor none t.valueType = .ok p.mapping.conversion ∧ r.mapping.nullable = t.optional
  target : r.target = .field p.path
  conversion : r.mapping.conversion = p.mapping.conversion
  slots : r.mapping.slots = p.mapping.slots

theorem conversionFor_same (catalog : s'.catalog = s.catalog) (adapters : s'.adapters = s.adapters)
    (tag : Option Tag) (type : ValueType) : s'.conversionFor tag type = s.conversionFor tag type := by
  unfold conversionFor
  rw [catalog, adapters]

/-- The two resolve the path to the same steps and the same type. -/
theorem Binds.conversion_same {type row : ValueType} {names : List String} {p : ParameterBinding}
    {r : ResultReading} (binds : s.Binds position type names p) (reads : s'.ReadsInto c row names r)
    (catalog : s'.catalog = s.catalog) (adapters : s'.adapters = s.adapters)
    (kind : row.kind = type.kind) : r.target = .field p.path ∧
      r.mapping.conversion = p.mapping.conversion ∧ ∃ t, s.catalog.Leads c names p.path t ∧
        s.conversionFor none t.valueType = .ok p.mapping.conversion ∧
        r.mapping.nullable = t.optional := by
  obtain ⟨w, walk, path, conversion⟩ := binds.follows
  obtain ⟨w', t, walk', leads, typed, target, conversion', nullable⟩ := reads.leads
  have steps : names ≠ [] := by
    rintro rfl
    cases leads
  obtain ⟨same, type'⟩ := follow_determined catalog kind steps walk walk'
  rw [conversionFor_same catalog adapters, type'] at conversion'
  rw [catalog, same, ← path] at leads
  rw [same, ← path] at target
  refine ⟨target, ?_, t, leads, ?_, nullable⟩
  · exact (Except.ok.inj (conversion.symm.trans conversion')).symm
  · rw [typed, type']
    exact conversion

theorem mirrors {type row : ValueType} {parameters : List ParameterBinding}
    {results : List ResultReading} (binds : List.Forall₂ (s.Binds position type) paths parameters)
    (reads : List.Forall₂ (s'.ReadsInto c row) paths results) (catalog : s'.catalog = s.catalog)
    (adapters : s'.adapters = s.adapters) (kind : row.kind = type.kind)
    (consecutive : SlotMapping.Consecutive 1 (parameters.map (·.mapping)))
    (widths : ∀ p ∈ parameters, p.mapping.slots.length = p.mapping.conversion.width)
    (columns : results = ResultReading.numberColumns 1 results) :
    List.Forall₂ (fun names r => ∃ p ∈ parameters, s.Mirrors c position names p r) paths results := by
  have alike : List.Forall₂ (fun p r => r.mapping.conversion = p.mapping.conversion)
      parameters results := by
    refine (forall₂_comp.2 ⟨_, binds.flip, reads⟩).imp fun p r h => ?_
    obtain ⟨names, hp, hr⟩ := h
    exact (hp.conversion_same hr catalog adapters kind).2.1
  have slots := ResultReading.numberColumns_slots consecutive widths alike
  rw [← columns] at slots
  have bound := (List.forall₂_and_left _ _).2 ⟨fun p hp => hp, binds.flip⟩
  have both := forall₂_and (forall₂_comp.2 ⟨_, bound.flip, slots⟩) reads
  refine both.imp fun names r h => ?_
  obtain ⟨⟨p, ⟨mem, hp⟩, same⟩, hr⟩ := h
  obtain ⟨target, conversion, field⟩ := hp.conversion_same hr catalog adapters kind
  exact ⟨p, mem, hp.argument, field, target, conversion, same⟩

end MethodScope

end QueryMethods
