/-
Coercion to a built-in type. The type of a value decides whether it can be coerced, but for two
cases that depend on the value: an integer out of range and a text that is no single character. So
the pairs of types that a type tag is accepted for can be compared with what coercion does.
-/
import QueryMethods.Execution.Filling
import QueryMethods.Proofs.Result

namespace QueryMethods

/-! ## Types of values -/

/-- The built-in type of a value. Nulls and custom values have none. -/
def Value.type? : Value → Option BuiltinType
  | .bool _ => some .bool
  | .byte _ => some .byte
  | .short _ => some .short
  | .int _ => some .int
  | .long _ => some .long
  | .float _ => some .float
  | .double _ => some .double
  | .char _ => some .char
  | .string _ => some .string
  | .date _ => some .date
  | .time _ => some .time
  | .timestamp _ => some .timestamp
  | .null | .custom _ => none

theorem Value.not_null_of_type {v : Value} {s : BuiltinType} (h : v.type? = some s) :
    v.isNull = false := by
  cases v <;> first | rfl | cases h

namespace BuiltinType

/-- The range of an integer type. -/
def range? : BuiltinType → Option (Int × Int)
  | byte => some (Int8.minValue.toInt, Int8.maxValue.toInt)
  | short => some (Int16.minValue.toInt, Int16.maxValue.toInt)
  | int => some (Int32.minValue.toInt, Int32.maxValue.toInt)
  | long => some (Int64.minValue.toInt, Int64.maxValue.toInt)
  | _ => none

/-- Integers of every width. -/
def isInteger (s : BuiltinType) : Bool := s.range?.isSome

/-- The types of which some value can be coerced to this one. -/
def sources : BuiltinType → List BuiltinType
  | bool | byte | short | int | long => [bool, byte, short, int, long]
  | float | double => [bool, byte, short, int, long, float, double]
  | char | string => [char, string]
  | date | timestamp => [date, timestamp]
  | time => [time, timestamp]

/-- Why a value of a type that can be coerced may still not be: an integer is out of range, or a
text is no single character. -/
inductive Misfit (target : BuiltinType) (v : Value) : ConversionFailure → Prop
  | overflow {low high n : Int} (range : target.range? = some (low, high))
      (view : v.asInt = some n) (outside : ¬ (low ≤ n ∧ n ≤ high)) :
      Misfit target v (.overflow (toString n) target.name)
  | text {s : String} (char : target = .char) (string : v = .string s)
      (length : s.toList.length ≠ 1) : Misfit target v (v.mismatch "char")

end BuiltinType

/-! ## Integers -/

theorem Value.asInt_isSome {v : Value} {s : BuiltinType} (h : v.type? = some s) :
    v.asInt.isSome = decide (s ∈ BuiltinType.sources .long) := by
  cases v <;> cases h <;> rfl

theorem Value.integerWithin_eq_error {v : Value} {target : String} {low high n : Int}
    {e : ConversionFailure} (view : v.asInt = some n) :
    v.integerWithin target low high = .error e ↔
      ¬ (low ≤ n ∧ n ≤ high) ∧ .overflow (toString n) target = e := by
  unfold Value.integerWithin
  rw [view]
  dsimp only
  by_cases inside : low ≤ n ∧ n ≤ high
  · rw [if_pos inside]
    constructor
    · intro h
      cases h
    · rintro ⟨outside, -⟩
      exact absurd inside outside
  · rw [if_neg inside, Except.error.injEq]
    exact ⟨fun h => ⟨inside, h⟩, fun h => h.2⟩

theorem Value.integerWithin_eq_ok {v : Value} {target : String} {low high n : Int} :
    v.integerWithin target low high = .ok n ↔ v.asInt = some n ∧ low ≤ n ∧ n ≤ high := by
  unfold Value.integerWithin
  cases v.asInt with
  | none => exact ⟨nofun, nofun⟩
  | some k =>
    dsimp only
    split
    · next inside =>
      constructor
      · intro h
        cases h
        exact ⟨rfl, inside⟩
      · rintro ⟨h, -⟩
        cases h
        rfl
    · next outside =>
      constructor
      · intro h
        cases h
      · rintro ⟨h, inside⟩
        cases h
        exact absurd inside outside

namespace BuiltinType

variable {target source : BuiltinType} {v w : Value} {e : ConversionFailure}

/-- To an integer type a value is coerced by its integer view. -/
theorem conform_integer_eq_error {low high : Int} (range : target.range? = some (low, high))
    (some : v.isNull = false) :
    target.conform v = .error e ↔ v.integerWithin target.name low high = .error e := by
  unfold conform
  rw [if_neg (by rw [some]; exact Bool.false_ne_true)]
  cases target <;> cases range <;>
  · dsimp only [name]
    cases v.integerWithin _ _ _ with
    | error e => constructor <;> (intro h; cases h; rfl)
    | ok n => constructor <;> (intro h; cases h)

/-! ## Failures of coercion -/

/-- A single character is a text of length one. -/
theorem conform_char_of_string {s : String} (h : conform .char (.string s) = .error e) :
    s.toList.length ≠ 1 ∧ (Value.string s).mismatch "char" = e := by
  simp only [conform, Value.isNull, Bool.false_eq_true, if_false] at h
  split at h
  · cases h
  · next many =>
    cases h
    refine ⟨fun one => ?_, rfl⟩
    obtain ⟨c, hc⟩ := List.length_eq_one_iff.1 one
    exact many c hc

/-- A value of a type that can be coerced fails as a misfit or not at all. -/
theorem conform_misfit (typed : v.type? = some source) (mem : source ∈ target.sources)
    (h : target.conform v = .error e) : target.Misfit v e := by
  have some := Value.not_null_of_type typed
  by_cases integer : target.isInteger = true
  · obtain ⟨⟨low, high⟩, range⟩ := Option.isSome_iff_exists.1 integer
    have viewed : source ∈ sources .long := by
      cases target <;> first | exact mem | cases integer
    obtain ⟨n, view⟩ := Option.isSome_iff_exists.1
      ((Value.asInt_isSome typed).trans (decide_eq_true viewed))
    have failed := (conform_integer_eq_error range some).1 h
    obtain ⟨outside, rfl⟩ := (Value.integerWithin_eq_error view).1 failed
    exact .overflow range view outside
  · -- but for texts, the type of the value decides whether the other types take it
    by_cases text : target = .char ∧ source = .string
    · obtain ⟨rfl, rfl⟩ := text
      cases v with
      | string s =>
        obtain ⟨length, rfl⟩ := conform_char_of_string h
        exact .text rfl rfl length
      | _ => cases typed
    · cases target <;> first
        | exact absurd rfl integer
        | (cases v <;> cases typed <;> first
            | exact absurd mem (by decide)
            | exact absurd ⟨rfl, rfl⟩ text
            | cases h)

/-- What has no integer view is not coerced to an integer type. -/
theorem conform_integer_mismatch {low high : Int} (range : target.range? = some (low, high))
    (some : v.isNull = false) (view : v.asInt = none) :
    target.conform v = .error (v.mismatch target.name) := by
  rw [conform_integer_eq_error range some]
  unfold Value.integerWithin
  rw [view]

/-- A float is never coerced to an integer type. -/
theorem conform_integer_of_float (integer : target.isInteger = true) (typed : v.type? = some source)
    (float : source = .float ∨ source = .double) :
    target.conform v = .error (v.mismatch target.name) := by
  obtain ⟨⟨low, high⟩, range⟩ := Option.isSome_iff_exists.1 integer
  have view : v.asInt = none := by
    rcases float with rfl | rfl <;> (cases v <;> first | rfl | cases typed)
  exact conform_integer_mismatch range (Value.not_null_of_type typed) view

/-! ## Results of coercion -/

/-- What is coerced has the type. -/
theorem conform_type (some : v.isNull = false) (h : target.conform v = .ok w) :
    w.type? = Option.some target := by
  unfold conform at h
  rw [if_neg (by rw [some]; exact Bool.false_ne_true)] at h
  cases target with
  | byte | short | int | long =>
    obtain ⟨n, -, h⟩ := bind_eq_ok.1 h
    cases h
    rfl
  | bool =>
    dsimp only at h
    cases view : v.asInt <;> rw [view] at h <;> cases h
    rfl
  | char =>
    cases v with
    | string s =>
      dsimp only at h
      split at h <;> cases h
      rfl
    | _ => cases h <;> rfl
  | float | double | string | date | time | timestamp => cases v <;> cases h <;> rfl

theorem conform_null (null : v.isNull = true) : target.conform v = .ok .null := by
  unfold conform
  exact if_pos null

/-- A coerced value that is no null has the type and came from no null. -/
theorem type_of_conform (h : target.conform v = .ok w) (some : w.isNull = false) :
    v.isNull = false ∧ w.type? = Option.some target := by
  cases null : v.isNull with
  | false => exact ⟨rfl, conform_type null h⟩
  | true =>
    rw [conform_null null] at h
    cases h
    cases some

/-- Between integers of any width the integer view is kept. -/
theorem conform_integer_view {low high : Int} (range : target.range? = some (low, high))
    (some : v.isNull = false) (h : target.conform v = .ok w) : w.asInt = v.asInt := by
  unfold conform at h
  rw [if_neg (by rw [some]; exact Bool.false_ne_true)] at h
  cases target <;> cases range <;>
  · obtain ⟨n, within, h⟩ := bind_eq_ok.1 h
    cases h
    obtain ⟨view, low, high⟩ := Value.integerWithin_eq_ok.1 within
    rw [view]
    first
      | exact congrArg Option.some (Int8.toInt_ofInt_of_le low (Int.lt_add_one_of_le high))
      | exact congrArg Option.some (Int16.toInt_ofInt_of_le low (Int.lt_add_one_of_le high))
      | exact congrArg Option.some (Int32.toInt_ofInt_of_le low (Int.lt_add_one_of_le high))
      | exact congrArg Option.some (Int64.toInt_ofInt_of_le low (Int.lt_add_one_of_le high))

/-- A value that has the type already is left as it is. -/
theorem conform_own (typed : v.type? = some target) : target.conform v = .ok v := by
  cases v with
  | bool b =>
    cases typed
    cases b <;> rfl
  | byte n =>
    cases typed
    refine bind_eq_ok.2 ⟨n.toInt, ?_, by rw [n.ofInt_toInt]; rfl⟩
    exact Value.integerWithin_eq_ok.2 ⟨rfl, n.minValue_le_toInt, n.toInt_le⟩
  | short n =>
    cases typed
    refine bind_eq_ok.2 ⟨n.toInt, ?_, by rw [n.ofInt_toInt]; rfl⟩
    exact Value.integerWithin_eq_ok.2 ⟨rfl, n.minValue_le_toInt, n.toInt_le⟩
  | int n =>
    cases typed
    refine bind_eq_ok.2 ⟨n.toInt, ?_, by rw [n.ofInt_toInt]; rfl⟩
    exact Value.integerWithin_eq_ok.2 ⟨rfl, n.minValue_le_toInt, n.toInt_le⟩
  | long n =>
    cases typed
    refine bind_eq_ok.2 ⟨n.toInt, ?_, by rw [n.ofInt_toInt]; rfl⟩
    exact Value.integerWithin_eq_ok.2 ⟨rfl, n.minValue_le_toInt, n.toInt_le⟩
  | float _ | double _ | char _ | string _ | date _ | time _ | timestamp _ =>
    cases typed
    rfl
  | null | custom _ => cases typed

/-! ## Accepted pairs -/

/-- The pairs that a tag is accepted for without a coercion between them: a floating-point value
where the tag or the type asks for an integer. -/
theorem sources_of_admits (h : target.admits source || source.admits target) :
    source ∈ target.sources ↔ ¬ (source = .double ∧ target.isInteger = true) := by
  revert h
  cases target <;> cases source <;> decide

end BuiltinType

/-! ## Reading into a host type -/

namespace HostType

variable {t : HostType} {target source : BuiltinType} {v : Value} {e : ConversionFailure}

/-- Why a value that was read may not fit the type it is read into: it cannot be coerced, or its
number is not one of an unsigned type. -/
inductive Misfit (t : HostType) (v : Value) : ConversionFailure → Prop
  | coercion {target : BuiltinType} {e : ConversionFailure}
      (type : t.valueType.scalar? = some target) (misfit : target.Misfit v e) : Misfit t v e
  | unsigned {u : UnsignedType} {n : Int} (type : t.kind = .unsigned u) (view : v.asInt = some n)
      (outside : ¬ (0 ≤ n ∧ n < u.bound)) : Misfit t v (.overflow (toString n) u.name)

theorem scalar?_of_kind (t : HostType) : t.valueType.scalar? = match t.kind with
    | .scalar s => some s
    | .unsigned _ => some .long
    | .custom _ _ | .bean _ => none := by
  unfold valueType ValueType.scalar?
  cases t.kind <;> rfl

theorem ofDatum_value (some : v.isNull = false) :
    t.ofDatum (.value v) = match t.kind with
      | .scalar s => ((Datum.value v).toScalar s).map .value
      | .unsigned u => ((Datum.value v).toUnsigned u).map .unsigned
      | .custom name typeName => ((Datum.value v).toCustom name typeName).map .value
      | .bean name => ((Datum.value v).toBean name).map fun b => .bean b.shape b.contents := by
  unfold ofDatum
  refine if_neg fun absent => ?_
  have null := (Bool.and_eq_true_iff.1 absent).2
  rw [show (Datum.value v).isNull = v.isNull from rfl, some] at null
  cases null

/-- A value that is no null is coerced, and what it is coerced to is none either. -/
theorem toScalar_value (some : v.isNull = false) :
    (Datum.value v).toScalar target = target.conform v := by
  show (target.conform v >>= fun w => if w.isNull then _ else _) = _
  cases h : target.conform v with
  | error e => rfl
  | ok w =>
    have typed := BuiltinType.conform_type some h
    show (if w.isNull then _ else _) = _
    rw [if_neg (by rw [Value.not_null_of_type typed]; exact Bool.false_ne_true)]
    rfl

/-- A value of a type that can be coerced to the type it is read into does not fit or is read. -/
theorem ofDatum_misfit (type : t.valueType.scalar? = some target) (typed : v.type? = some source)
    (mem : source ∈ target.sources) (h : t.ofDatum (.value v) = .error e) : t.Misfit v e := by
  have some := Value.not_null_of_type typed
  rw [ofDatum_value some] at h
  rw [scalar?_of_kind] at type
  cases kind : t.kind with
  | scalar s =>
    rw [kind] at h type
    cases type
    rw [map_eq_error, toScalar_value some] at h
    exact .coercion (by rw [scalar?_of_kind, kind]) (BuiltinType.conform_misfit typed mem h)
  | unsigned u =>
    rw [kind] at h type
    cases type
    rw [map_eq_error] at h
    unfold Datum.toUnsigned at h
    rw [toScalar_value some] at h
    rcases bind_eq_error.1 h with h | ⟨w, hw, h⟩
    · exact .coercion (by rw [scalar?_of_kind, kind]) (BuiltinType.conform_misfit typed mem h)
    · -- the number is in the range of the signed type, so only its own type can refuse it
      obtain ⟨n, view⟩ := Option.isSome_iff_exists.1
        ((Value.asInt_isSome typed).trans (decide_eq_true mem))
      rw [BuiltinType.conform_integer_view rfl some hw, view, Option.getD_some] at h
      dsimp only at h
      split at h
      · cases h
      · next outside =>
        cases h
        exact .unsigned kind view outside
  | custom name typeName =>
    rw [kind] at type
    cases type
  | bean name =>
    rw [kind] at type
    cases type

/-- A floating-point number is never read into an integer type. -/
theorem ofDatum_integer_of_float (type : t.valueType.scalar? = some target)
    (integer : target.isInteger = true) (typed : v.type? = some source)
    (float : source = .float ∨ source = .double) :
    t.ofDatum (.value v) = .error (v.mismatch target.name) := by
  have some := Value.not_null_of_type typed
  have refused := BuiltinType.conform_integer_of_float integer typed float
  rw [ofDatum_value some]
  rw [scalar?_of_kind] at type
  cases kind : t.kind with
  | scalar s =>
    rw [kind] at type
    cases type
    dsimp only
    rw [toScalar_value some, refused]
    rfl
  | unsigned u =>
    rw [kind] at type
    cases type
    dsimp only [Datum.toUnsigned]
    rw [toScalar_value some, refused]
    rfl
  | custom name typeName =>
    rw [kind] at type
    cases type
  | bean name =>
    rw [kind] at type
    cases type

end HostType

/-! ## Elements -/

theorem ParameterBinding.encodeElement_null {b : ParameterBinding} {source : Bindable}
    (read : b.path.read source = .ok (.value .null)) :
    b.encodeElement source = .ok (List.replicate b.mapping.conversion.width .null) := by
  rw [encodeElement, read]
  rfl

/-- A value at the end of its path is bound as its conversion says. -/
theorem ParameterBinding.encodeElement_value {b : ParameterBinding} {source : Bindable} {v : Value}
    (read : b.path.read source = .ok (.value v)) (some : v.isNull = false) :
    b.encodeElement source = b.mapping.conversion.encode v := by
  unfold encodeElement
  rw [read]
  cases v <;> first | rfl | cases some

end QueryMethods
