/-
Results without a tag. A column of a built-in type is converted twice, when it is decoded and when
the value is handed to the host program; together this is one exact conversion. What was decoded is
left as it is, so only the range of an unsigned type can refuse it; and an integer type takes
exactly the integers of its range, whatever the column holds them as.
-/
import QueryMethods.Proofs.Execution.Constructors
import QueryMethods.Proofs.Execution.Restoring
import QueryMethods.Proofs.Method.Nulls

namespace QueryMethods

/-! ## Integer views -/

theorem Value.not_null_of_asInt {v : Value} {n : Int} (view : v.asInt = some n) :
    v.isNull = false := by
  cases v <;> first | rfl | cases view

/-- Every integer view fits the widest integer type. -/
theorem Value.asInt_range {v : Value} {n : Int} (view : v.asInt = some n) :
    Int64.minValue.toInt ≤ n ∧ n ≤ Int64.maxValue.toInt := by
  rw [Int64.toInt_minValue, Int64.toInt_maxValue]
  cases v with
  | bool b => cases b <;> cases view <;> decide
  | byte k | short k | int k | long k =>
    cases view
    have low := k.le_toInt
    have high := k.toInt_lt
    omega
  | _ => cases view

/-! ## Coercing again -/

namespace BuiltinType

variable {target : BuiltinType} {v w : Value} {low high n : Int}

/-- What was coerced is left as it is. -/
theorem conform_conform (h : target.conform v = .ok w) : target.conform w = .ok w := by
  cases null : w.isNull with
  | true =>
    rw [Value.isNull_iff.1 null]
    exact conform_null rfl
  | false => exact conform_own (type_of_conform h null).2

/-- An integer in the range of the type is kept. -/
theorem conform_integer_inside (range : target.range? = some (low, high)) (view : v.asInt = some n)
    (inside : low ≤ n ∧ n ≤ high) : ∃ w, target.conform v = .ok w ∧ w.asInt = some n := by
  have some := Value.not_null_of_asInt view
  cases h : target.conform v with
  | ok w => exact ⟨w, rfl, (conform_integer_view range some h).trans view⟩
  | error e =>
    have failed := (conform_integer_eq_error range some).1 h
    exact absurd inside ((Value.integerWithin_eq_error view).1 failed).1

theorem conform_integer_outside (range : target.range? = some (low, high)) (view : v.asInt = some n)
    (outside : ¬ (low ≤ n ∧ n ≤ high)) :
    target.conform v = .error (.overflow (toString n) target.name) := by
  have some := Value.not_null_of_asInt view
  rw [conform_integer_eq_error range some, Value.integerWithin_eq_error view]
  exact ⟨outside, rfl⟩

end BuiltinType

/-! ## Handing values over -/

/-- The integer that a content is, of whatever width. -/
def Content.asInt : Content → Option Int
  | .value v => v.asInt
  | .unsigned n => some n.toNat
  | .absent | .bean _ _ => none

/-- The integers that a type of the host program holds, from the lowest to the highest, and what
the type is called. -/
inductive HostKind.Integers : HostKind → Int → Int → String → Prop
  | signed {s : BuiltinType} {low high : Int} (range : s.range? = some (low, high)) :
      Integers (.scalar s) low high s.name
  | unsigned (u : UnsignedType) : Integers (.unsigned u) 0 (u.bound - 1) u.name

/-- What a decoded value is handed over as. Only the range of an unsigned type can refuse it. -/
inductive HostType.Hands (t : HostType) : Value → Except ConversionFailure Content → Prop
  | absent (optional : t.optional = true) : Hands t .null (.ok .absent)
  | scalar {s : BuiltinType} {w : Value} (kind : t.kind = .scalar s) (typed : w.type? = some s) :
      Hands t w (.ok (.value w))
  | unsigned {u : UnsignedType} {w : Value} {n : Int} (kind : t.kind = .unsigned u)
      (view : w.asInt = some n) (inside : 0 ≤ n ∧ n < u.bound) :
      Hands t w (.ok (.unsigned (UInt64.ofInt n)))
  | overflow {u : UnsignedType} {w : Value} {n : Int} (kind : t.kind = .unsigned u)
      (view : w.asInt = some n) (outside : ¬ (0 ≤ n ∧ n < u.bound)) :
      Hands t w (.error (.overflow (toString n) u.name))

theorem Datum.toUnsigned_of_view {u : UnsignedType} {w : Value} {n : Int}
    (typed : w.type? = some .long) (view : w.asInt = some n) :
    (Datum.value w).toUnsigned u = if 0 ≤ n ∧ n < u.bound then .ok (UInt64.ofInt n) else
      .error (.overflow (toString n) u.name) := by
  unfold toUnsigned
  rw [HostType.toScalar_value (Value.not_null_of_type typed), BuiltinType.conform_own typed]
  show (if 0 ≤ w.asInt.getD 0 ∧ w.asInt.getD 0 < u.bound then _ else _) = _
  rw [view]
  rfl

theorem HostType.hands_typed {t : HostType} {type : BuiltinType} {w : Value}
    (scalar : t.valueType.scalar? = some type) (typed : w.type? = some type) :
    t.Hands w (t.ofDatum (.value w)) := by
  have some := Value.not_null_of_type typed
  rw [ofDatum_value some]
  rw [scalar?_of_kind] at scalar
  cases kind : t.kind with
  | scalar s =>
    rw [kind] at scalar
    cases scalar
    dsimp only
    rw [toScalar_value some, BuiltinType.conform_own typed]
    exact .scalar kind typed
  | unsigned u =>
    rw [kind] at scalar
    cases scalar
    obtain ⟨n, view⟩ := Option.isSome_iff_exists.1
      ((Value.asInt_isSome typed).trans (decide_eq_true (by decide)))
    dsimp only
    rw [Datum.toUnsigned_of_view typed view]
    split
    · next inside => exact .unsigned kind view inside
    · next outside => exact .overflow kind view outside
  | custom name typeName =>
    rw [kind] at scalar
    cases scalar
  | bean name =>
    rw [kind] at scalar
    cases scalar

/-! ## Reading a column -/

namespace SlotMapping

variable {m : SlotMapping} {type : BuiltinType} {t : HostType} {v w : Value}

theorem decode_scalar (conversion : m.conversion = .scalar type) :
    m.decode [v] = .ok w ↔ type.conform v = .ok w ∧ (w.isNull = true → m.nullable = true) := by
  unfold decode
  rw [conversion, bind_eq_ok]
  constructor
  · rintro ⟨u, conforms, h⟩
    split at h
    · cases h
    · next allowed =>
      cases h
      refine ⟨conforms, fun null => ?_⟩
      simpa [null] using allowed
  · rintro ⟨conforms, allowed⟩
    refine ⟨w, conforms, if_neg ?_⟩
    simpa using allowed

/-- What is coerced is handed over. -/
theorem handed_of_conform (conversion : m.conversion = .scalar type) (conforms : type.conform v = .ok w)
    (some : w.isNull = false) : m.handed t v = t.ofDatum (.value w) := by
  have decoded : m.decode [v] = .ok w :=
    (decode_scalar conversion).2 ⟨conforms, fun null => by rw [some] at null; cases null⟩
  unfold handed
  rw [decoded]
  rfl

theorem handed_of_error {e : ConversionFailure} (conversion : m.conversion = .scalar type)
    (fails : type.conform v = .error e) : m.handed t v = .error e := by
  have decoded : m.decode [v] = .error e := by
    unfold decode
    rw [conversion]
    exact bind_eq_error.2 (.inl fails)
  unfold handed
  rw [decoded]
  rfl

/-- A column is read into an integer type exactly: an integer of the range is kept, another one is
out of range, and whatever is no integer does not match. -/
structure TakesIntegers (m : SlotMapping) (type : BuiltinType) (t : HostType) (low high : Int)
    (name : String) : Prop where
  kept : ∀ {v n}, v.asInt = some n → low ≤ n ∧ n ≤ high →
    ∃ content, m.handed t v = .ok content ∧ content.asInt = some n
  overflow : ∀ {v n}, v.asInt = some n → ¬ (low ≤ n ∧ n ≤ high) →
    m.handed t v = .error (.overflow (toString n) name)
  mismatch : ∀ {v}, v.isNull = false → v.asInt = none →
    m.handed t v = .error (v.mismatch type.name)

/-- A signed type is the type that the column is coerced to. -/
theorem takesIntegers_signed {low high : Int} (conversion : m.conversion = .scalar type)
    (kind : t.kind = .scalar type) (range : type.range? = some (low, high)) :
    m.TakesIntegers type t low high type.name := by
  refine ⟨fun {v n} view inside => ?_, fun {v n} view outside => ?_, fun {v} some view => ?_⟩
  · obtain ⟨w, conforms, kept⟩ := BuiltinType.conform_integer_inside range view inside
    have some := Value.not_null_of_asInt kept
    refine ⟨.value w, ?_, kept⟩
    rw [handed_of_conform conversion conforms some, HostType.ofDatum_value some, kind]
    dsimp only
    rw [HostType.toScalar_value some, BuiltinType.conform_conform conforms]
    rfl
  · exact handed_of_error conversion (BuiltinType.conform_integer_outside range view outside)
  · exact handed_of_error conversion (BuiltinType.conform_integer_mismatch range some view)

/-- For an unsigned type the column is coerced to the widest signed one, which every integer view
fits. -/
theorem takesIntegers_unsigned {u : UnsignedType} (conversion : m.conversion = .scalar .long)
    (kind : t.kind = .unsigned u) : m.TakesIntegers .long t 0 (u.bound - 1) u.name := by
  have range : BuiltinType.range? .long = some (Int64.minValue.toInt, Int64.maxValue.toInt) := rfl
  -- the first conversion keeps every integer, so the range of the unsigned type decides alone
  have handed {v : Value} {n : Int} (view : v.asInt = some n) :
      m.handed t v = (if 0 ≤ n ∧ n < u.bound then .ok (UInt64.ofInt n) else
        .error (.overflow (toString n) u.name) : Except ConversionFailure UInt64).map .unsigned := by
    obtain ⟨w, conforms, kept⟩ :=
      BuiltinType.conform_integer_inside range view (Value.asInt_range view)
    have some := Value.not_null_of_asInt kept
    have typed := (BuiltinType.type_of_conform conforms some).2
    rw [handed_of_conform conversion conforms some, HostType.ofDatum_value some, kind]
    dsimp only
    rw [Datum.toUnsigned_of_view typed kept]
  have bound : u.bound ≤ 2 ^ 64 := by cases u <;> decide
  refine ⟨fun {v n} view inside => ?_, fun {v n} view outside => ?_, fun {v} some view => ?_⟩
  · refine ⟨.unsigned (UInt64.ofInt n), by rw [handed view, if_pos (by omega)]; rfl, ?_⟩
    refine congrArg some ?_
    simp only [UInt64.ofInt, UInt64.toNat_ofNat']
    omega
  · rw [handed view, if_neg (by omega)]
    rfl
  · exact handed_of_error conversion (BuiltinType.conform_integer_mismatch range some view)

end SlotMapping

/-! ## Untagged results -/

/-- Decoding a column and handing the value over are one conversion. -/
structure ResultReading.ConvertsOnce (r : ResultReading) (type : BuiltinType) : Prop where
  conversion : r.mapping.conversion = .scalar type
  /-- A null is decoded exactly where the type admits one. -/
  null : (∃ w, r.mapping.decode [.null] = .ok w) ↔ r.mapping.valueType.nullable = true
  /-- A decoded value is not changed by a second coercion. -/
  again : ∀ {v w}, r.mapping.decode [v] = .ok w → type.conform w = .ok w
  /-- A decoded value is handed over, unless the type is an unsigned one that does not hold it. -/
  hands : ∀ {t : HostType}, t.valueType = r.mapping.valueType → ∀ {v w},
    r.mapping.decode [v] = .ok w → t.Hands w (t.ofDatum (.value w))
  /-- Into an integer type the whole conversion is exact. -/
  integers : ∀ {t : HostType} {low high name}, t.valueType = r.mapping.valueType →
    t.kind.Integers low high name → r.mapping.TakesIntegers type t low high name

theorem ResultReading.convertsOnce {r : ResultReading} {type : BuiltinType}
    (conversion : r.mapping.conversion = .scalar type)
    (scalar : r.mapping.valueType.scalar? = some type)
    (nullable : r.mapping.nullable = r.mapping.valueType.nullable) : r.ConvertsOnce type := by
  refine ⟨conversion, ?_, fun {v w} h => ?_, fun {t} same {v w} h => ?_,
    fun {t low high name} same holds => ?_⟩
  · rw [← nullable]
    constructor
    · rintro ⟨w, h⟩
      obtain ⟨conforms, allowed⟩ := (SlotMapping.decode_scalar conversion).1 h
      rw [BuiltinType.conform_null rfl] at conforms
      cases conforms
      exact allowed rfl
    · intro allowed
      exact ⟨.null, (SlotMapping.decode_scalar conversion).2
        ⟨BuiltinType.conform_null rfl, fun _ => allowed⟩⟩
  · exact BuiltinType.conform_conform ((SlotMapping.decode_scalar conversion).1 h).1
  · obtain ⟨conforms, allowed⟩ := (SlotMapping.decode_scalar conversion).1 h
    cases null : w.isNull with
    | false => exact HostType.hands_typed (same ▸ scalar) (BuiltinType.type_of_conform conforms null).2
    | true =>
      have optional : t.optional = true := by
        rw [← allowed null, nullable, ← same]
        rfl
      rw [Value.isNull_iff.1 null, HostType.ofDatum_null optional rfl]
      exact .absent optional
  · have kinds := HostType.scalar?_of_kind t
    rw [same, scalar] at kinds
    generalize kind : t.kind = k at kinds holds
    cases holds with
    | signed range =>
      cases kinds
      exact SlotMapping.takesIntegers_signed conversion kind range
    | unsigned u =>
      cases kinds
      exact SlotMapping.takesIntegers_unsigned conversion kind

/-- Each result of an accepted method is read as its placeholder says. -/
theorem CompiledMethod.ResolvedFrom.readings {m : CompiledMethod} {s : MethodScope} {t : Template}
    {resolved : MethodScope.ResolvedResults} (h : m.ResolvedFrom s t resolved) :
    List.Forall₂ (fun d r => ∃ types parameters, s.Reading types parameters d r)
      t.results m.results := by
  have each : List.Forall₂ (fun d r => ∃ types parameters, s.Reading types parameters d r)
      t.results resolved.results := by
    cases MethodScope.results_resolution h.results with
    | none empty =>
      rw [empty]
      exact .nil
    | fields _ each | slots _ _ _ each => exact each.imp fun _ _ reading => ⟨_, _, reading⟩
  refine (forall₂_comp.2 ⟨_, each, h.unplaced⟩).imp fun d r' => ?_
  rintro ⟨r, ⟨types, parameters, reading⟩, same⟩
  exact ⟨types, parameters, reading.of_unplaced same⟩

/-- The results of an accepted method that have no tag and a built-in type, whatever they are: a
whole value, a field or a key. Decoding the column and handing the value to the host program are one
exact conversion. -/
theorem MethodDeclaration.untagged_results_convert {d : MethodDeclaration} {catalog : Catalog}
    {adapters : AdapterTable} {interface : String} {m : CompiledMethod}
    (h : d.compile catalog adapters interface = .ok m) :
    ∃ t, Template.read (MethodScope.form d.kind) d.template = .ok t ∧
      List.Forall₂ (fun p r => p.tag = none → ∀ type,
        r.mapping.valueType.scalar? = some type → r.ConvertsOnce type) t.results m.results := by
  obtain ⟨t, resolved, read, source⟩ := MethodScope.compile_resolvedFrom (mapError_eq_ok.1 h)
  refine ⟨t, read, source.readings.imp fun p r hr untagged type scalar => ?_⟩
  obtain ⟨types, parameters, reading⟩ := hr
  have conversion := reading.conversion
  have nullable := reading.nullable
  rw [untagged] at conversion nullable
  have converted := MethodScope.conversionFor_none conversion
  rw [scalar] at converted
  exact ResultReading.convertsOnce converted scalar (nullable.trans (Bool.or_false _))

/-- Numbers of visits, by the day that they were counted on. -/
def Sample.countedVisits : MethodDeclaration :=
  { name := "counted_visits"
    kind := .select
    template := "SELECT \x7b%%,%*\x7d, \x7b%%\x7d FROM visits"
    signature :=
      { arguments := []
        returns := .map ⟨.scalar .date, false⟩ (HostType.valueType ⟨.unsigned .word32, true⟩) } }

theorem Sample.countedVisits_convert :
    ∃ m day count, Sample.countedVisits.compile ⟨[]⟩ ⟨[]⟩ "Visits" = .ok m ∧
      m.results = [day, count] ∧ day.ConvertsOnce .date ∧ count.ConvertsOnce .long := by
  have accepted : (Sample.countedVisits.compile ⟨[]⟩ ⟨[]⟩ "Visits").toOption.any
      (fun m => decide (m.results.map (·.mapping.valueType.scalar?) = [some .date, some .long])) =
        true := by decide +kernel
  have shape : (Template.read .plain Sample.countedVisits.template).toOption.any (fun t =>
      decide (t.results.map (·.tag) = [none, none])) = true := by decide +kernel
  obtain ⟨m, h, types⟩ := exists_of_any accepted
  obtain ⟨t', read', tags⟩ := exists_of_any shape
  obtain ⟨t, read, each⟩ := MethodDeclaration.untagged_results_convert h
  cases read'.symm.trans read
  obtain ⟨p, ps, hp, untagged, rest⟩ := List.map_eq_cons_iff.1 (of_decide_eq_true tags)
  obtain ⟨q, rfl, untagged'⟩ := List.map_eq_singleton_iff.1 rest
  obtain ⟨day, rs, hr, date, rest⟩ := List.map_eq_cons_iff.1 (of_decide_eq_true types)
  obtain ⟨count, rfl, long⟩ := List.map_eq_singleton_iff.1 rest
  rw [hp, hr, List.forall₂_cons, List.forall₂_cons] at each
  exact ⟨m, day, count, h, hr, each.1 untagged .date date, each.2.1 untagged' .long long⟩

end QueryMethods
