/-
Built-in type tags of accepted methods. A tag is accepted on every type that it widens to or from;
at run time the value is coerced to the type of the tag when it is bound, and from the type of the
tag when it is read. The two agree but for floating-point values and integer types.
-/
import QueryMethods.Execution.Filling
import QueryMethods.Proofs.Coercion
import QueryMethods.Proofs.Method.Resolved

namespace QueryMethods

/-! ## Tagged placeholders -/

/-- The built-in type that a tag selects. -/
def Tag.builtin? (tag : Option Tag) : Option BuiltinType :=
  tag.bind fun t => BuiltinType.ofTag? t.name

/-- A tag of a built-in type is accepted on the types that it widens to or from. -/
theorem MethodScope.conversionFor_builtin {s : MethodScope} {tag : Option Tag} {type : ValueType}
    {c : Conversion} {b : BuiltinType} (selects : Tag.builtin? tag = some b)
    (h : s.conversionFor tag type = .ok c) :
    ∃ actual, type.scalar? = some actual ∧ c = .scalar b ∧
      (b.admits actual || actual.admits b) = true := by
  obtain ⟨t, rfl, ht⟩ := Option.bind_eq_some_iff.1 selects
  unfold conversionFor at h
  dsimp only at h
  rw [ht] at h
  cases actual : type.scalar? with
  | none =>
    rw [actual] at h
    cases h
  | some a =>
    rw [actual] at h
    dsimp only at h
    split at h
    · next accepted =>
      cases h
      exact ⟨a, rfl, rfl, accepted⟩
    · cases h

/-! ## Binding -/

/-- A parameter binds the values of one built-in type as another one. -/
structure ParameterBinding.BindsAs (b : ParameterBinding) (tag type : BuiltinType) : Prop where
  conversion : b.mapping.conversion = .scalar tag
  valueType : b.mapping.valueType.scalar? = some type
  /-- A value that fails to be encoded is out of range or a text that is no character. -/
  misfit : ¬ (type = .double ∧ tag.isInteger = true) → ∀ source v,
    b.path.read source = .ok (.value v) → v.type? = some type →
      ∀ e, b.encodeElement source = .error e → tag.Misfit v e
  /-- A floating-point value is never encoded as an integer. -/
  refused : type = .double ∧ tag.isInteger = true → ∀ source v,
    b.path.read source = .ok (.value v) → v.type? = some type →
      b.encodeElement source = .error (v.mismatch tag.name)

theorem ParameterBinding.bindsAs {b : ParameterBinding} {tag type : BuiltinType}
    (conversion : b.mapping.conversion = .scalar tag)
    (valueType : b.mapping.valueType.scalar? = some type)
    (accepted : (tag.admits type || type.admits tag) = true) : b.BindsAs tag type := by
  have encoded {source : Bindable} {v : Value} (read : b.path.read source = .ok (.value v))
      (typed : v.type? = some type) :
      b.encodeElement source = (tag.conform v).map ([·]) := by
    rw [encodeElement_value read (Value.not_null_of_type typed), conversion]
    rfl
  refine ⟨conversion, valueType, ?_, ?_⟩
  · intro coerced source v read typed e failed
    rw [encoded read typed, map_eq_error] at failed
    have mem := (BuiltinType.sources_of_admits accepted).2 coerced
    exact BuiltinType.conform_misfit typed mem failed
  · rintro ⟨rfl, integer⟩ source v read typed
    rw [encoded read typed, BuiltinType.conform_integer_of_float integer typed (.inr rfl)]
    rfl

/-! ## Reading -/

/-- A result reads the values of one built-in type as another one. -/
structure ResultReading.ReadsAs (r : ResultReading) (tag type : BuiltinType) : Prop where
  conversion : r.mapping.conversion = .scalar tag
  valueType : r.mapping.valueType.scalar? = some type
  /-- A decoded value that does not convert to the declared type is out of range or a text that is
  no character. -/
  misfit : ¬ (tag = .double ∧ type.isInteger = true) → ∀ columns v,
    r.mapping.decode columns = .ok v → v.isNull = false →
      ∀ host : HostType, host.valueType = r.mapping.valueType →
        ∀ e, host.ofDatum (.value v) = .error e → host.Misfit v e
  /-- A floating-point number never converts to an integer type. -/
  refused : tag = .double ∧ type.isInteger = true → ∀ columns v,
    r.mapping.decode columns = .ok v → v.isNull = false →
      ∀ host : HostType, host.valueType = r.mapping.valueType →
        host.ofDatum (.value v) = .error (v.mismatch type.name)

theorem ResultReading.readsAs {r : ResultReading} {tag type : BuiltinType}
    (conversion : r.mapping.conversion = .scalar tag)
    (valueType : r.mapping.valueType.scalar? = some type)
    (accepted : (tag.admits type || type.admits tag) = true) : r.ReadsAs tag type := by
  have decoded {columns : List Value} {v : Value} (h : r.mapping.decode columns = .ok v)
      (some : v.isNull = false) : v.type? = Option.some tag := by
    obtain ⟨w, hw, h⟩ := bind_eq_ok.1 h
    rw [conversion] at hw
    split at h
    · cases h
    · cases h
      exact (BuiltinType.type_of_conform hw some).2
  refine ⟨conversion, valueType, ?_, ?_⟩
  · intro coerced columns v h some host type e failed
    rw [Bool.or_comm] at accepted
    have mem := (BuiltinType.sources_of_admits accepted).2 coerced
    exact HostType.ofDatum_misfit (type ▸ valueType) (decoded h some) mem failed
  · rintro ⟨rfl, integer⟩ columns v h some host type
    exact HostType.ofDatum_integer_of_float (type ▸ valueType) integer (decoded h some) (.inr rfl)

/-! ## Accepted methods -/

/-- The placeholders of an accepted method whose tags select built-in types. A parameter encodes
every value of its type, and a result converts every value that it decodes, but for integers out of
range and texts that are no single character; only a floating-point value where the tag, or the
declared type of a result, is an integer type is always refused. -/
theorem MethodDeclaration.builtin_tags_convert {d : MethodDeclaration} {catalog : Catalog}
    {adapters : AdapterTable} {interface : String} {m : CompiledMethod}
    (h : d.compile catalog adapters interface = .ok m) :
    ∃ t, Template.read (MethodScope.form d.kind) d.template = .ok t ∧
      List.Forall₂ (fun p b => ∀ tag, Tag.builtin? p.tag = some tag → ∃ type,
        b.BindsAs tag type) t.parameters m.parameters ∧
      List.Forall₂ (fun p r => ∀ tag, Tag.builtin? p.tag = some tag → ∃ type,
        r.ReadsAs tag type) t.results m.results := by
  obtain ⟨t, resolved, read, from'⟩ := MethodScope.compile_resolvedFrom (mapError_eq_ok.1 h)
  refine ⟨t, read, ?_, ?_⟩
  · refine from'.parameter_conversions.imp fun p b hb tag selects => ?_
    obtain ⟨type, valueType, conversion, accepted⟩ := MethodScope.conversionFor_builtin selects hb
    exact ⟨type, ParameterBinding.bindsAs conversion valueType accepted⟩
  · refine from'.result_conversions.imp fun p r hr tag selects => ?_
    obtain ⟨type, valueType, conversion, accepted⟩ := MethodScope.conversionFor_builtin selects hr
    exact ⟨type, ResultReading.readsAs conversion valueType accepted⟩

/-- Accounts by the age of their last entry, both narrower in the statement than in the method. -/
def Sample.agedAccounts : MethodDeclaration :=
  { name := "aged_accounts"
    kind := .select
    template := "SELECT \x7bshort %%\x7d FROM accounts WHERE age = \x7bint %1\x7d"
    signature :=
      { arguments := [⟨none, .single, ⟨.scalar .long, false⟩⟩]
        returns := .many ⟨.scalar .int, false⟩ } }

theorem Sample.agedAccounts_tags_convert :
    ∃ m b r, Sample.agedAccounts.compile ⟨[]⟩ ⟨[]⟩ "Accounts" = .ok m ∧ m.parameters = [b] ∧
      m.results = [r] ∧ b.BindsAs .int .long ∧ r.ReadsAs .short .int := by
  have checked : (match Sample.agedAccounts.compile ⟨[]⟩ ⟨[]⟩ "Accounts" with
      | .ok m =>
        (match Template.read .plain Sample.agedAccounts.template with
        | .ok t =>
          decide (t.parameters.map (fun p => Tag.builtin? p.tag) = [some .int]) &&
            decide (t.results.map (fun r => Tag.builtin? r.tag) = [some .short])
        | .error _ => false) &&
          decide (m.parameters.map (·.mapping.valueType.scalar?) = [some .long]) &&
          decide (m.results.map (·.mapping.valueType.scalar?) = [some .int])
      | .error _ => false) = true := by decide +kernel
  cases h : Sample.agedAccounts.compile ⟨[]⟩ ⟨[]⟩ "Accounts" with
  | error e => rw [h] at checked; cases checked
  | ok m =>
    obtain ⟨t, read, parameters, results⟩ := MethodDeclaration.builtin_tags_convert h
    rw [h, show Template.read .plain Sample.agedAccounts.template = .ok t from read] at checked
    simp only [Bool.and_eq_true, decide_eq_true_eq] at checked
    obtain ⟨⟨⟨tag, tag'⟩, type⟩, type'⟩ := checked
    obtain ⟨p, hp, tag⟩ := List.map_eq_singleton_iff.1 tag
    obtain ⟨r, hr, tag'⟩ := List.map_eq_singleton_iff.1 tag'
    obtain ⟨b, hb, type⟩ := List.map_eq_singleton_iff.1 type
    obtain ⟨r', hr', type'⟩ := List.map_eq_singleton_iff.1 type'
    rw [hp, hb, List.forall₂_cons] at parameters
    rw [hr, hr', List.forall₂_cons] at results
    obtain ⟨t₁, binds⟩ := parameters.1 .int tag
    obtain ⟨t₂, reads⟩ := results.1 .short tag'
    cases binds.valueType.symm.trans type
    cases reads.valueType.symm.trans type'
    exact ⟨m, b, r', rfl, hb, hr', binds, reads⟩

/-- A rate that is kept as a whole number. -/
def Sample.addRate : MethodDeclaration :=
  { name := "add_rate"
    kind := .insert
    template := "INSERT INTO rates VALUES (\x7blong %1\x7d)"
    signature := { arguments := [⟨none, .single, ⟨.scalar .double, false⟩⟩], returns := .unit } }

/-- The tag is accepted although no value of the argument can be bound, not even a whole number. -/
theorem Sample.addRate_refused :
    ∃ m b, Sample.addRate.compile ⟨[]⟩ ⟨[]⟩ "Rates" = .ok m ∧ m.parameters = [b] ∧
      b.mapping.valueType = ⟨.scalar .double, false⟩ ∧
      b.encodeElement (.value (.double ⟨0x3ff0000000000000⟩)) = .error (.typeMismatch "i64" "f64") := by
  have checked : (match Sample.addRate.compile ⟨[]⟩ ⟨[]⟩ "Rates" with
      | .ok m => decide (m.parameters.map (fun b => (b.mapping.valueType,
            b.encodeElement (.value (.double ⟨0x3ff0000000000000⟩)))) =
          [(⟨.scalar .double, false⟩, .error (.typeMismatch "i64" "f64"))])
      | .error _ => false) = true := by decide +kernel
  cases h : Sample.addRate.compile ⟨[]⟩ ⟨[]⟩ "Rates" with
  | error e => rw [h] at checked; cases checked
  | ok m =>
    rw [h] at checked
    obtain ⟨b, hb, both⟩ := List.map_eq_singleton_iff.1 (of_decide_eq_true checked)
    exact ⟨m, b, rfl, hb, congrArg (·.1) both, congrArg (·.2) both⟩

end QueryMethods
