/-
Reading through beans that may be missing. A path that resolves reads, from anything of the type it
starts at, the field that its names select, or nothing where something on the way is missing.
-/
import QueryMethods.Proofs.Bean.Fields
import QueryMethods.Proofs.Method.Results

namespace QueryMethods

theorem HostType.kind_of_bean {t : HostType} {name : String}
    (h : t.valueType.kind = .bean name) : t.kind = .bean name := by
  obtain ⟨kind, optional⟩ := t
  cases kind <;> cases h
  rfl

/-- Every type that the compiler sees is one of the host program. -/
theorem HostType.exists_valueType (type : ValueType) : ∃ t : HostType, t.valueType = type := by
  obtain ⟨kind, nullable⟩ := type
  cases kind with
  | scalar s => exact ⟨⟨.scalar s, nullable⟩, rfl⟩
  | bean name => exact ⟨⟨.bean name, nullable⟩, rfl⟩
  | custom name => exact ⟨⟨.custom name name, nullable⟩, rfl⟩

theorem Content.HasType.optional {catalog : Catalog} {t : HostType} {x : Content}
    (h : x.HasType catalog t) : x.HasType catalog ⟨t.kind, true⟩ := by
  cases h with
  | absent _ => exact .absent rfl
  | scalar type => exact .scalar type
  | unsigned below => exact .unsigned below
  | custom carries => exact .custom carries
  | bean found members => exact .bean found members

/-- What has a bean type is nothing, or an instance of the class of that name. -/
theorem Content.HasType.absent_or_bean {catalog : Catalog} {t : HostType} {x : Content} {name : String}
    (h : x.HasType catalog t) (kind : t.kind = .bean name) :
    x = .absent ∨ ∃ (b : Bean) (c : BeanClass), x = .bean b.shape b.contents ∧
      catalog.find? name = some c ∧ b.IsOf catalog c ∧ b.shape.name = name := by
  cases h with
  | absent _ => exact .inl rfl
  | scalar _ | unsigned _ | custom _ => cases kind
  | @bean _ c contents _ found members =>
    cases kind
    have named : c.name = name := by simpa using List.find?_some found
    exact .inr ⟨⟨c.shape, contents⟩, c, rfl, found, ⟨rfl, members⟩, named⟩

theorem Content.HasType.bean_cases {catalog : Catalog} {t : HostType} {x : Content} {name : String}
    (h : x.HasType catalog t) (kind : t.kind = .bean name) :
    x.toBindable = .value .null ∨ ∃ b c, x.toBindable = .bean b ∧ catalog.find? name = some c ∧
      b.IsOf catalog c ∧ b.shape.name = name := by
  rcases h.absent_or_bean kind with rfl | ⟨b, c, rfl, known⟩
  · exact .inl rfl
  · exact .inr ⟨b, c, rfl, known⟩

/-! ## Paths that resolve -/

/-- Reading on from a field that a bean, a null or the end of the path is found in. -/
theorem Bean.readPath_cons (b : Bean) (step : PathStep) {path : FieldPath}
    (h : path = [] ∨ b.get step.index = .value .null ∨ ∃ inner, b.get step.index = .bean inner) :
    b.readPath (step :: path) = path.read (b.get step.index) := by
  cases path with
  | nil => rfl
  | cons next rest =>
    rcases h with none | null | ⟨inner, bean⟩
    · cases none
    · simp only [Bean.readPath, null, FieldPath.read]
    · simp only [Bean.readPath, bean, FieldPath.read]

/-- Something on the way to the field that names select is missing, the field included. -/
def Content.Misses (x : Content) (names : List String) : Prop :=
  ∃ front, front <+: names ∧ x.at? front = some .absent

/-- Nothing is selected behind what is missing. -/
theorem Content.Misses.absent_of_at? {x y : Content} {names : List String} (h : x.Misses names)
    (selected : x.at? names = some y) : y = .absent := by
  obtain ⟨front, ⟨rest, rfl⟩, missing⟩ := h
  rw [Content.at?_append, missing, Option.bind_some] at selected
  cases rest with
  | nil => exact (Option.some.inj selected).symm
  | cons name rest => cases selected

theorem Content.Misses.cons {b : Bean} {name : String} {index position : Nat} {m : Member}
    (field : b.shape.Field name index position m) {x : Content} (held : b.content? index = some x)
    {rest : List String} (h : x.Misses rest) :
    (Content.bean b.shape b.contents).Misses (name :: rest) := by
  obtain ⟨front, lies, absent⟩ := h
  refine ⟨name :: front, List.cons_prefix_cons.2 ⟨rfl, lies⟩, ?_⟩
  show b.at? (name :: front) = _
  rw [Bean.at?_cons field, held]
  exact absent

namespace MethodScope

variable {s : MethodScope}

/-- From anything of the type that it starts at, a path that resolves reads the field that its
names select, which has the type that it leads to, or null where something on the way is missing.
-/
theorem follow_reads : ∀ {names : List String} {start : ValueType} {w : FieldWalk} {t : HostType}
    {x : Content}, s.follow start names = .ok w → t.valueType = start → x.HasType s.catalog t →
      (x.Misses names ∧ w.path.read x.toBindable = .ok (.value .null)) ∨
      ∃ (y : Content) (u : HostType), x.at? names = some y ∧ y.HasType s.catalog u ∧
        u.valueType = w.type ∧ w.path.read x.toBindable = .ok y.toBindable
  | [], _, _, t, x, walk, type, fits => by
    cases walk
    exact .inr ⟨x, t, rfl, fits, type, rfl⟩
  | name :: rest, start, w, t, x, walk, type, fits => by
    obtain ⟨c, index, fieldName, fieldType, v, hc, hi, hf, hv, rfl⟩ := follow_cons walk
    obtain ⟨kind, found⟩ := Catalog.bean_of_classOf hc
    rw [← type] at kind
    rcases fits.absent_or_bean (HostType.kind_of_bean kind) with
      rfl | ⟨b, c', rfl, found', typed, -⟩
    · exact .inl ⟨⟨[], List.nil_prefix, rfl⟩, rfl⟩
    · cases found.symm.trans found'
      obtain ⟨position, m, field, rfl, rfl⟩ := BeanClass.field_of hf
      have field : b.shape.Field name index position m := by
        rw [typed.shape]
        exact ⟨hi, field⟩
      obtain ⟨y, -, held, fits'⟩ := typed.content field
      have here : b.get index = y.toBindable := by simp [Bean.get, held]
      -- behind this field the path ends, or leads on from a bean that may be missing
      have on : v.path = [] ∨ b.get index = .value .null ∨ ∃ inner, b.get index = .bean inner := by
        cases rest with
        | nil =>
          cases hv
          exact .inl rfl
        | cons next rest =>
          obtain ⟨inner, -, -, -, -, hc', -⟩ := follow_cons hv
          obtain ⟨kind', -⟩ := Catalog.bean_of_classOf hc'
          rw [here]
          rcases fits'.absent_or_bean (HostType.kind_of_bean kind') with rfl | ⟨b', -, rfl, -⟩
          · exact .inr (.inl rfl)
          · exact .inr (.inr ⟨b', rfl⟩)
      have steps : FieldPath.read (⟨index, m.name⟩ :: v.path) (.bean b) = v.path.read y.toBindable := by
        rw [← here]
        exact b.readPath_cons ⟨index, m.name⟩ on
      rcases follow_reads hv rfl fits' with ⟨missing, null⟩ | ⟨z, u, leads, fits'', reached, read⟩
      · exact .inl ⟨missing.cons field held, steps.trans null⟩
      · refine .inr ⟨z, u, ?_, fits'', reached, steps.trans read⟩
        show b.at? (name :: rest) = _
        rw [Bean.at?_cons field, held]
        exact leads

/-- What such a path reads has the type that it leads to, or is nothing. -/
theorem follow_read {names : List String} {start : ValueType} {w : FieldWalk}
    (walk : s.follow start names = .ok w) {t : HostType} (type : t.valueType = start) {x : Content}
    (fits : x.HasType s.catalog t) :
    ∃ (y : Content) (u : HostType), w.path.read x.toBindable = .ok y.toBindable ∧
      u.valueType = w.type ∧ y.HasType s.catalog ⟨u.kind, true⟩ := by
  rcases follow_reads walk type fits with ⟨-, null⟩ | ⟨y, u, -, fits', reached, read⟩
  · obtain ⟨u, reached⟩ := HostType.exists_valueType w.type
    exact ⟨.absent, u, null, reached, .absent rfl⟩
  · exact ⟨y, u, read, reached, fits'.optional⟩

end MethodScope

end QueryMethods
