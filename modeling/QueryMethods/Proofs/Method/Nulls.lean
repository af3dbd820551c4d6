/-
Nulls through mappings. A built-in type and the adapter that keeps values as JSON bind a null for a
null only, read one from a null only and report one for a null only, whatever the JSON form is. The
adapter that keeps truth values as letters binds nulls so too, but takes every column without a
first character for a null: numbers, truth values, dates and the empty text.
-/
import QueryMethods.Adapter.Json
import QueryMethods.Adapter.Table
import QueryMethods.Adapter.YesNo
import QueryMethods.Proofs.Coercion

namespace QueryMethods

/-! ## Shipped conversions -/

/-- The conversions that no program has to bring: coercion to a built-in type, and the codecs of the
two adapters at hand, one of them for any host type with any JSON form. -/
inductive Conversion.Shipped : Conversion → Prop
  | scalar (type : BuiltinType) : Shipped (.scalar type)
  | json {T : Type} {j : JsonAdapter T} {key : String} {t : ValueType} {codec : Codec}
      (built : AdapterTable.build key j.toAdapter t = .ok codec) : Shipped (.adapter codec)
  | flag {key : String} {t : ValueType} {codec : Codec}
      (built : AdapterTable.build key YesNo.adapter t = .ok codec) : Shipped (.adapter codec)

/-- Whether truth values are kept as letters. -/
def Conversion.IsFlag (c : Conversion) : Prop :=
  ∃ key t codec, AdapterTable.build key YesNo.adapter t = .ok codec ∧ c = .adapter codec

/-- The columns that a conversion takes for a null: nulls, and where letters are expected whatever
has no first character. -/
def Conversion.TakesForNull (c : Conversion) (column : Value) : Prop :=
  column = .null ∨ c.IsFlag ∧ YesNo.flag? [column] = none

theorem JsonAdapter.eq_of_build {T : Type} {j : JsonAdapter T} {key : String} {t : ValueType} {codec : Codec}
    (built : AdapterTable.build key j.toAdapter t = .ok codec) :
    codec = ⟨key, [.varchar], j.encode, j.decode⟩ := by
  unfold AdapterTable.build toAdapter at built
  split at built
  · cases built
    rfl
  · cases built

theorem YesNo.eq_of_build {key : String} {t : ValueType} {codec : Codec}
    (built : AdapterTable.build key adapter t = .ok codec) :
    codec = ⟨key, [.char], encode, decode t.nullable⟩ := by
  unfold AdapterTable.build adapter at built
  split at built
  · cases built
    rfl
  · cases built

/-! ## Nulls that are bound -/

theorem Value.isNull_iff {v : Value} : v.isNull = true ↔ v = .null := by
  cases v <;> simp [isNull]

theorem BuiltinType.conform_eq_null {target : BuiltinType} {v : Value} :
    target.conform v = .ok .null ↔ v = .null := by
  constructor
  · intro h
    cases null : v.isNull with
    | false => cases conform_type null h
    | true => exact Value.isNull_iff.1 null
  · rintro rfl
    exact conform_null rfl

theorem Codec.encode_eq_ok {c : Codec} {v : Value} {values : List Value} :
    c.encode v = .ok values ↔ c.split v = .ok values ∧ values.length = c.width := by
  unfold encode
  rw [bind_eq_ok]
  constructor
  · rintro ⟨split, hs, h⟩
    split at h
    · next length =>
      cases h
      exact ⟨hs, length⟩
    · cases h
  · rintro ⟨hs, length⟩
    exact ⟨values, hs, if_pos length⟩

theorem JsonAdapter.null_mem_encode {T : Type} {j : JsonAdapter T} {v : Value} {values : List Value}
    (h : j.encode v = .ok values) (null : .null ∈ values) : v = .null := by
  cases v with
  | null => rfl
  | custom c =>
    unfold encode at h
    dsimp only at h
    split at h
    · cases h
    · split at h <;> cases h
      simp at null
  | _ => cases h

theorem YesNo.null_mem_encode {v : Value} {values : List Value} (h : encode v = .ok values)
    (null : .null ∈ values) : v = .null := by
  cases v with
  | null => rfl
  | bool b =>
    cases h
    simp at null
  | _ => cases h

/-- Only a null is bound as one. -/
theorem Conversion.Shipped.null_mem_encode {c : Conversion} (shipped : c.Shipped) {v : Value}
    {values : List Value} (h : c.encode v = .ok values) (null : .null ∈ values) : v = .null := by
  cases shipped with
  | scalar type =>
    obtain ⟨w, hw, rfl⟩ := map_eq_ok.1 h
    rw [← List.mem_singleton.1 null] at hw
    exact BuiltinType.conform_eq_null.1 hw
  | json built =>
    cases JsonAdapter.eq_of_build built
    exact JsonAdapter.null_mem_encode (Codec.encode_eq_ok.1 h).1 null
  | flag built =>
    cases YesNo.eq_of_build built
    exact YesNo.null_mem_encode (Codec.encode_eq_ok.1 h).1 null

/-! ## Nulls that are read -/

/-- A null was read, or one was refused. -/
def MeetsNull (read : Except ConversionFailure Value) : Prop :=
  read = .ok .null ∨ ∃ type, read = .error (.unexpectedNull type)

theorem meetsNull_ok {w : Value} : MeetsNull (.ok w) ↔ w = .null := by
  constructor
  · rintro (h | ⟨type, h⟩) <;> cases h
    rfl
  · rintro rfl
    exact .inl rfl

theorem meetsNull_error {e : ConversionFailure} :
    MeetsNull (.error e) ↔ ∃ type, e = .unexpectedNull type := by
  constructor
  · rintro (h | ⟨type, h⟩) <;> cases h
    exact ⟨type, rfl⟩
  · rintro ⟨type, rfl⟩
    exact .inr ⟨type, rfl⟩

theorem not_meetsNull_mismatch (v : Value) (expected : String) :
    ¬ MeetsNull (.error (v.mismatch expected)) := by
  rw [meetsNull_error]
  rintro ⟨type, h⟩
  cases h

/-- Coercion fails for a value that has no view of the target, or one out of range. -/
theorem BuiltinType.conform_eq_error {target : BuiltinType} {v : Value} {e : ConversionFailure}
    (h : target.conform v = .error e) :
    (∃ expected, e = v.mismatch expected) ∨ ∃ n : Int, e = .overflow (toString n) target.name := by
  have some : v.isNull = false := by
    by_contra null
    rw [conform_null (Bool.not_eq_false _ ▸ null)] at h
    cases h
  by_cases integer : target.isInteger = true
  · obtain ⟨⟨low, high⟩, range⟩ := Option.isSome_iff_exists.1 integer
    have failed := (conform_integer_eq_error range some).1 h
    unfold Value.integerWithin at failed
    split at failed
    · cases failed
      exact .inl ⟨_, rfl⟩
    · next n _ =>
      split at failed <;> cases failed
      exact .inr ⟨n, rfl⟩
  · refine .inl ?_
    unfold conform at h
    rw [if_neg (by rw [some]; exact Bool.false_ne_true)] at h
    cases target <;> first
      | exact absurd rfl integer
      | (dsimp only at h; repeat' split at h) <;> cases h <;> exact ⟨_, rfl⟩

theorem BuiltinType.conform_meetsNull {target : BuiltinType} {v : Value} :
    MeetsNull (target.conform v) ↔ v = .null := by
  refine ⟨fun h => ?_, fun h => .inl (conform_eq_null.2 h)⟩
  rcases h with h | ⟨type, h⟩
  · exact conform_eq_null.1 h
  · rcases conform_eq_error h with ⟨expected, h⟩ | ⟨n, h⟩ <;> cases h

theorem JsonAdapter.decode_meetsNull {T : Type} {j : JsonAdapter T} {column : Value} :
    MeetsNull (j.decode [column]) ↔ column = .null := by
  cases column with
  | null => exact meetsNull_ok
  | string s =>
    unfold decode
    dsimp only
    split
    · simp [meetsNull_ok]
    · simp [meetsNull_error]
  | _ => exact iff_of_false (not_meetsNull_mismatch _ _) nofun

/-- Where letters are kept, a column without a first character meets a null. -/
theorem YesNo.decode_meetsNull {nullable : Bool} {columns : List Value} :
    MeetsNull (decode nullable columns) ↔ flag? columns = none := by
  unfold decode
  cases flag? columns with
  | none =>
    cases nullable with
    | true => exact iff_of_true (meetsNull_ok.2 rfl) rfl
    | false => exact iff_of_true (meetsNull_error.2 ⟨_, rfl⟩) rfl
  | some c =>
    refine iff_of_false ?_ (Option.some_ne_none c)
    dsimp only
    split
    · simp [meetsNull_ok]
    · split
      · simp [meetsNull_ok]
      · simp [meetsNull_error]

/-- A conversion meets a null where it takes the column for one. -/
theorem Conversion.Shipped.decode_meetsNull {c : Conversion} (shipped : c.Shipped) {column : Value} :
    MeetsNull (c.decode [column]) ↔ c.TakesForNull column := by
  -- the type codes of the slots tell the codecs of the two adapters apart
  have flagged {codec : Codec} (h : Conversion.IsFlag (.adapter codec)) :
      codec.slotTypes = [.char] := by
    obtain ⟨key, t, codec', built, same⟩ := h
    cases same
    rw [YesNo.eq_of_build built]
  unfold TakesForNull
  cases shipped with
  | scalar type =>
    have unflagged : ¬ Conversion.IsFlag (.scalar type) := nofun
    simp only [unflagged, false_and, or_false]
    exact BuiltinType.conform_meetsNull
  | @json _ _ _ _ codec built =>
    have unflagged : ¬ Conversion.IsFlag (.adapter codec) := fun h => by
      have types := flagged h
      rw [JsonAdapter.eq_of_build built] at types
      cases types
    simp only [unflagged, false_and, or_false]
    rw [JsonAdapter.eq_of_build built]
    exact JsonAdapter.decode_meetsNull
  | @flag key t codec built =>
    have flag : Conversion.IsFlag (.adapter codec) := ⟨key, t, codec, built, rfl⟩
    have blank : column = .null → YesNo.flag? [column] = none := by
      rintro rfl
      rfl
    simp only [flag, true_and, or_iff_right_of_imp blank]
    rw [YesNo.eq_of_build built]
    exact YesNo.decode_meetsNull

/-- The check of the nullability changes a null that is read to one that is refused. -/
theorem SlotMapping.decode_meetsNull {m : SlotMapping} {columns : List Value} :
    MeetsNull (m.decode columns) ↔ MeetsNull (m.conversion.decode columns) := by
  unfold decode
  cases m.conversion.decode columns with
  | error e => rfl
  | ok w =>
    show MeetsNull (if w.isNull && !m.nullable then _ else _) ↔ _
    split
    · next refused =>
      have null := Value.isNull_iff.1 (Bool.and_eq_true_iff.1 refused).1
      exact iff_of_true (meetsNull_error.2 ⟨_, rfl⟩) (meetsNull_ok.2 null)
    · rfl

/-! ## Nulls that are handed back -/

/-- A value that is no null is not read into a host type as one, nor reported as one. -/
theorem HostType.ofDatum_of_value {t : HostType} {v : Value} (some : v.isNull = false) :
    t.ofDatum (.value v) ≠ .ok .absent ∧
      ∀ type, t.ofDatum (.value v) ≠ .error (.unexpectedNull type) := by
  have conformed (target : BuiltinType) (type : String) :
      target.conform v ≠ .error (.unexpectedNull type) := by
    intro h
    rw [BuiltinType.conform_meetsNull.1 (.inr ⟨type, h⟩)] at some
    cases some
  rw [ofDatum_value some]
  cases t.kind with
  | scalar s =>
    dsimp only
    rw [toScalar_value some]
    refine ⟨fun h => ?_, fun type h => conformed s type (map_eq_error.1 h)⟩
    obtain ⟨w, -, h⟩ := map_eq_ok.1 h
    cases h
  | unsigned u =>
    dsimp only [Datum.toUnsigned]
    rw [toScalar_value some]
    refine ⟨fun h => ?_, fun type h => ?_⟩
    · obtain ⟨n, -, h⟩ := map_eq_ok.1 h
      cases h
    · rcases bind_eq_error.1 (map_eq_error.1 h) with h | ⟨w, -, h⟩
      · exact conformed .long type h
      · change (if _ then _ else _) = _ at h
        split at h <;> cases h
  | custom name typeName =>
    dsimp only [Datum.toCustom]
    refine ⟨fun h => ?_, fun type h => ?_⟩
    · obtain ⟨w, -, h⟩ := map_eq_ok.1 h
      cases h
    · have h := map_eq_error.1 h
      cases v with
      | null => cases some
      | custom c =>
        change (if c.typeName = typeName then _ else _) = _ at h
        split at h <;> cases h
      | _ => cases h
  | bean name => exact ⟨nofun, fun type h => by cases h⟩

/-- Read a column and convert what it holds to a host type. -/
def SlotMapping.handed (m : SlotMapping) (t : HostType) (column : Value) :
    Except ConversionFailure Content := do
  t.ofDatum (.value (← m.decode [column]))

/-- How a mapping keeps nulls apart from values. -/
structure SlotMapping.KeepsNulls (m : SlotMapping) : Prop where
  /-- Only a null is bound as one. -/
  bound : ∀ {v values}, m.conversion.encode v = .ok values → .null ∈ values → v = .null
  /-- A null is read, or refused where none is allowed, exactly of the columns that are taken for
  one. -/
  read : ∀ {column}, (m.decode [column] = .ok .null ∨
    ∃ type, m.decode [column] = .error (.unexpectedNull type)) ↔ m.conversion.TakesForNull column
  /-- No other column gives an absent value of a host type, or a failure that reports a null. -/
  handed : ∀ {t : HostType} {column}, (m.handed t column = .ok .absent ∨
    ∃ type, m.handed t column = .error (.unexpectedNull type)) → m.conversion.TakesForNull column

/-- Nulls are bound for nulls, and read from the columns that the conversion takes for nulls. Unless
letters are expected these are the nulls. -/
theorem SlotMapping.keepsNulls {m : SlotMapping} (shipped : m.conversion.Shipped) : m.KeepsNulls := by
  have read {column : Value} : MeetsNull (m.decode [column]) ↔ m.conversion.TakesForNull column :=
    decode_meetsNull.trans shipped.decode_meetsNull
  refine ⟨shipped.null_mem_encode, read, fun {t column} handed => ?_⟩
  refine read.1 ?_
  unfold SlotMapping.handed at handed
  cases decoded : m.decode [column] with
  | error e =>
    rw [decoded] at handed
    rcases handed with h | ⟨type, h⟩
    · cases h
    · exact meetsNull_error.2 ⟨type, Except.error.inj h⟩
  | ok w =>
    rw [decoded] at handed
    rw [meetsNull_ok]
    -- any other value would have been handed over as a content, or refused for what it is
    by_contra present
    have some : w.isNull = false := Bool.eq_false_iff.2 (mt Value.isNull_iff.1 present)
    obtain ⟨unabsent, unreported⟩ := HostType.ofDatum_of_value (t := t) some
    rcases handed with h | ⟨type, h⟩
    · exact unabsent h
    · exact unreported type h

/-- Switches, kept as JSON truth values. -/
def Sample.switches : JsonAdapter Bool where
  handledName := "switch"
  carrier :=
    { carry := fun on => ⟨"bool", [("value", .integer (if on then 1 else 0))]⟩
      held? := fun c => if c.typeName = "bool" then some (c.fields = [("value", .integer 1)]) else none
      held_carry := by decide }
  form :=
    { print := fun on => .ok (if on then "true" else "false")
      read := fun text =>
        if text = "true" then .ok true
        else if text = "false" then .ok false
        else .error ("invalid type: " ++ text ++ ", expected a boolean") }

/-- A switch that may be missing. -/
def Sample.keptSwitch : SlotMapping :=
  { conversion := .adapter ⟨"switch", [.varchar], switches.encode, switches.decode⟩
    valueType := ⟨.custom "switch", true⟩
    nullable := true
    slots := [1]
    iteration := .single }

/-- The JSON text of a null is no null. -/
theorem Sample.keptSwitch_null_text :
    keptSwitch.decode [.string "null"] ≠ .ok .null ∧ keptSwitch.decode [.null] = .ok .null := by
  have built : AdapterTable.build "switch" switches.toAdapter ⟨.custom "switch", true⟩ =
      .ok ⟨"switch", [.varchar], switches.encode, switches.decode⟩ := rfl
  refine ⟨fun h => ?_, rfl⟩
  rcases (SlotMapping.keepsNulls (m := keptSwitch) (.json built)).read.1 (.inl h) with
    null | ⟨-, blank⟩
  · cases null
  · revert blank
    decide

/-- A truth value, kept as a letter. -/
def Sample.keptFlag (optional : Bool) : SlotMapping :=
  { conversion := .adapter ⟨"yesno", [.char], YesNo.encode, YesNo.decode optional⟩
    valueType := ⟨.scalar .bool, optional⟩
    nullable := optional
    slots := [1]
    iteration := .single }

/-- Where the truth value may be missing, a number and the empty text are read as a null. Where it
may not, a null is reported for a truth value in the column. -/
theorem Sample.keptFlag_reads_values_as_null :
    (∀ optional, (keptFlag optional).conversion.Shipped) ∧
      (keptFlag true).decode [.long 1] = .ok .null ∧
      (keptFlag true).decode [.string ""] = .ok .null ∧
      (keptFlag false).decode [.bool true] = .error (.unexpectedNull "bool") := by
  refine ⟨fun optional => ?_, rfl, rfl, rfl⟩
  have built : AdapterTable.build "yesno" YesNo.adapter ⟨.scalar .bool, optional⟩ =
      .ok ⟨"yesno", [.char], YesNo.encode, YesNo.decode optional⟩ := rfl
  exact .flag built

end QueryMethods
