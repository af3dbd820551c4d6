/-
What the results of an accepted method resolve to: each placeholder to a type and a target, the
constructor slots to a constructor, and all of them to a plan that finds whatever it names.
-/
import QueryMethods.Proofs.Method.Resolved

namespace QueryMethods

namespace MethodScope

variable {s : MethodScope}

/-! ## Field paths -/

theorem follow_cons {start : ValueType} {name : String} {rest : List String} {w : FieldWalk}
    (h : s.follow start (name :: rest) = .ok w) :
    ∃ c index field type v, s.catalog.classOf? start = some c ∧ c.shape.indexOf? name = some index ∧
      c.fields[index]? = some (field, type) ∧ s.follow type rest = .ok v ∧
      w = ⟨⟨index, field⟩ :: v.path, v.type, start.nullable || v.optional⟩ := by
  unfold follow at h
  cases hc : s.catalog.classOf? start with
  | none =>
    rw [hc] at h
    cases h
  | some c =>
    rw [hc] at h
    dsimp only at h
    cases hi : c.shape.indexOf? name with
    | none =>
      rw [hi] at h
      cases h
    | some index =>
      rw [hi] at h
      dsimp only at h
      cases hf : c.fields[index]? with
      | none =>
        rw [hf] at h
        cases h
      | some field =>
        rw [hf] at h
        obtain ⟨v, hv, h⟩ := bind_eq_ok.1 h
        cases h
        exact ⟨c, index, field.1, field.2, v, rfl, hi, hf, hv, rfl⟩

/-- A path has as many steps as names. -/
theorem follow_length : ∀ {path : List String} {start : ValueType} {w : FieldWalk},
    s.follow start path = .ok w → w.path.length = path.length
  | [], _, _, h => by
    cases h
    rfl
  | name :: rest, _, _, h => by
    obtain ⟨c, index, field, type, v, -, -, -, hv, rfl⟩ := follow_cons h
    exact congrArg (· + 1) (follow_length hv)

/-! ## Targets -/

/-- The type and the target that the place of a result resolves to. -/
inductive Targets (s : MethodScope) (types : ResultTypes) (parameters : List ValueType) :
    ResultPlace → ValueType → Destination → Prop
  | key {key : ValueType} (declared : types.key = some key) :
      Targets s types parameters .key key .mapKey
  | slot {n : Nat} {parameter : ValueType} (positive : n ≠ 0)
      (found : parameters[n - 1]? = some parameter) :
      Targets s types parameters (.slot n) parameter (.constructorSlot n)
  | whole : Targets s types parameters (.value []) types.row .whole
  | field {path : List String} {w : FieldWalk} (some : path ≠ [])
      (bean : (s.catalog.classOf? types.row).isSome = true)
      (walk : s.follow { types.row with nullable := false } path = .ok w)
      (direct : w.optional = false) : Targets s types parameters (.value path) w.type (.field w.path)

/-- A path resolves to a field that is not taken. -/
theorem resultTarget_field_eq_ok {types : ResultTypes} {parameters : List ValueType}
    {taken : List String} {name : String} {rest : List String} {type : ValueType}
    {target : Destination} :
    s.resultTarget types parameters taken (.value (name :: rest)) = .ok (type, target) ↔
      (s.catalog.classOf? types.row).isSome = true ∧
        ∃ w, s.follow { types.row with nullable := false } (name :: rest) = .ok w ∧
          w.optional = false ∧ w.path.text ∉ taken ∧ type = w.type ∧ target = .field w.path := by
  unfold resultTarget
  dsimp only
  constructor
  · intro h
    split at h
    · cases h
    · next bean =>
      obtain ⟨w, walk, h⟩ := bind_eq_ok.1 h
      split at h
      · cases h
      · next direct =>
        split at h
        · cases h
        · next free =>
          cases h
          rw [Bool.not_eq_true, Option.isNone_eq_false_iff] at bean
          refine ⟨bean, w, walk, Bool.eq_false_iff.2 direct, fun mem => free ?_, rfl, rfl⟩
          exact List.contains_iff_mem.2 mem
  · rintro ⟨bean, w, walk, direct, free, rfl, rfl⟩
    have bean' : ¬ (s.catalog.classOf? types.row).isNone = true := by
      rwa [Bool.not_eq_true, Option.isNone_eq_false_iff]
    have free' : ¬ taken.contains w.path.text = true := fun mem => free (List.contains_iff_mem.1 mem)
    rw [if_neg bean']
    refine bind_eq_ok.2 ⟨w, walk, ?_⟩
    rw [if_neg (Bool.eq_false_iff.1 direct), if_neg free']

theorem resultTarget_targets {types : ResultTypes} {parameters : List ValueType}
    {taken : List String} {place : ResultPlace} {type : ValueType} {target : Destination}
    (h : s.resultTarget types parameters taken place = .ok (type, target)) :
    s.Targets types parameters place type target := by
  cases place with
  | key =>
    unfold resultTarget at h
    dsimp only at h
    split at h
    · next key declared =>
      cases h
      exact .key declared
    · cases h
  | slot n =>
    unfold resultTarget at h
    dsimp only at h
    split at h
    · next parameter found =>
      cases h
      by_cases zero : n = 0
      · rw [if_pos zero] at found
        cases found
      · rw [if_neg zero] at found
        exact .slot zero found
    · cases h
  | value path =>
    cases path with
    | nil =>
      cases h
      exact .whole
    | cons name rest =>
      obtain ⟨bean, w, walk, direct, -, rfl, rfl⟩ := resultTarget_field_eq_ok.1 h
      exact .field (List.cons_ne_nil name rest) bean walk direct

theorem Targets.of_value {types : ResultTypes} {parameters : List ValueType} {path : List String}
    {type : ValueType} {target : Destination} (h : s.Targets types parameters (.value path) type target)
    (steps : path ≠ []) : ∃ w, s.follow { types.row with nullable := false } path = .ok w ∧
      w.optional = false ∧ type = w.type ∧ target = .field w.path := by
  cases h with
  | whole => exact absurd rfl steps
  | field _ _ walk direct => exact ⟨_, walk, direct, rfl, rfl⟩

/-- A result is read as its placeholder says, numbered or not. -/
structure Reading (s : MethodScope) (types : ResultTypes) (parameters : List ValueType)
    (d : Template.Result) (r : ResultReading) : Prop where
  target : s.Targets types parameters d.place r.mapping.valueType r.target
  conversion : s.conversionFor d.tag r.mapping.valueType = .ok r.mapping.conversion
  nullable : r.mapping.nullable = (r.mapping.valueType.nullable || tagNullable d.tag)

theorem ResolvesTo.reading {types : ResultTypes} {parameters : List ValueType}
    {d : Template.Result} {r : ResultReading} (h : s.ResolvesTo types parameters d r) :
    s.Reading types parameters d r := by
  obtain ⟨place, conversion⟩ := h
  exact ⟨resultTarget_targets place, conversion, rfl⟩

/-- The ways in which the results of a method resolve. -/
inductive Resolution (s : MethodScope) (definitions : List Template.Result) :
    ResolvedResults → Prop
  | none (empty : definitions = []) : Resolution s definitions ⟨[], none, none⟩
  | fields {types : ResultTypes} {results : List ResultReading} (typed : s.resultTypes = .ok types)
      (each : List.Forall₂ (s.Reading types []) definitions results) :
      Resolution s definitions ⟨results, some types.row, none⟩
  | slots {types : ResultTypes} {index : Nat} {parameters : List ValueType}
      {results : List ResultReading} (fed : definitions.filterMap slotOf? ≠ [])
      (typed : s.resultTypes = .ok types)
      (selected : s.selectConstructor types.row (definitions.filterMap slotOf?) =
        .ok (index, parameters))
      (each : List.Forall₂ (s.Reading types parameters) definitions results) :
      Resolution s definitions
        ⟨results, some types.row, some (index, (definitions.filterMap slotOf?).length)⟩

theorem results_resolution {definitions : List Template.Result} {resolved : ResolvedResults}
    (h : s.results definitions = .ok resolved) : s.Resolution definitions resolved := by
  cases results_eq_ok.1 h with
  | none empty => exact .none empty
  | fields _ _ typed _ mapped =>
    exact .fields typed ((resultMappings_resolves mapped).imp fun _ _ h => h.reading)
  | slots _ _ typed fed selected mapped =>
    exact .slots fed typed selected ((resultMappings_resolves mapped).imp fun _ _ h => h.reading)

/-! ## Constructors -/

/-- Constructor slots are numbered from 1 on, and none is left out. -/
theorem slotTags_ok {slots : List (Nat × Option Tag)} {tags : List (Option Tag)}
    (h : slotTags slots = .ok tags) : tags.length = slots.length ∧
      ∀ n, 1 ≤ n → n ≤ slots.length → ∃ tag, (n, tag) ∈ slots := by
  unfold slotTags at h
  split at h
  · next found =>
    cases h
    have each := mapM_eq_some found
    refine ⟨?_, fun n low high => ?_⟩
    · rw [← each.length_eq, List.length_range]
    · have inside : n - 1 ∈ List.range slots.length := List.mem_range.2 (by omega)
      obtain ⟨tag, -, ht⟩ := exists_of_forall₂_left each inside
      obtain ⟨slot, hs, -⟩ := Option.map_eq_some_iff.1 ht
      have number : slot.1 = n - 1 + 1 := by simpa using List.find?_some hs
      refine ⟨slot.2, ?_⟩
      rw [show n = slot.1 by omega]
      exact List.mem_of_find?_eq_some hs
  · cases h

theorem fits_length {exact : Bool} {tags : List (Option Tag)} {c : BeanClass.Constructor}
    (h : s.fits exact tags c = true) : c.parameters.length = tags.length :=
  of_decide_eq_true (Bool.and_eq_true_iff.1 h).1

/-- Constructor slots select a constructor of the class with as many parameters. -/
theorem selectConstructor_ok {row : ValueType} {slots : List (Nat × Option Tag)} {index : Nat}
    {parameters : List ValueType} (h : s.selectConstructor row slots = .ok (index, parameters)) :
    ∃ c constructor, s.catalog.classOf? row = some c ∧ c.constructors[index]? = some constructor ∧
      constructor.parameters = parameters ∧ parameters.length = slots.length ∧
      ∀ n, 1 ≤ n → n ≤ slots.length → ∃ tag, (n, tag) ∈ slots := by
  unfold selectConstructor at h
  split at h
  · cases h
  · next c found =>
    obtain ⟨tags, ht, h⟩ := bind_eq_ok.1 h
    obtain ⟨length, all⟩ := slotTags_ok ht
    dsimp only at h
    split at h
    · next i hi =>
      -- the constructor is one that takes the tags, exactly or by widening
      have fitting : ∃ exact, c.constructors.findIdx? (s.fits exact tags) = some i := by
        rcases Option.or_eq_some_iff.1 hi with hi | ⟨-, hi⟩
        · exact ⟨true, hi⟩
        · exact ⟨false, hi⟩
      obtain ⟨exact, hi⟩ := fitting
      obtain ⟨inside, fits, -⟩ := List.findIdx?_eq_some_iff_getElem.1 hi
      have at' : c.constructors[i]? = some c.constructors[i] := List.getElem?_eq_getElem inside
      cases h
      rw [at']
      refine ⟨c, _, found, at', rfl, ?_, all⟩
      exact (fits_length fits).trans length
    · cases h

end MethodScope

end QueryMethods
