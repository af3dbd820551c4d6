/-
What a field holds and the values that it is bound as. Decoded and converted again, the values of a
field give what it held; so the fields of a bean, written to another instance of its class, hold
there what they held, and nothing else is changed.
-/
import QueryMethods.Execution.Assemble
import QueryMethods.Execution.Filling
import QueryMethods.Proofs.Bean.Fields
import QueryMethods.Proofs.Method.Mirrored

namespace QueryMethods

/-! ## Values -/

/-- A codec that gives back the values it is given, and a null where its columns hold nothing. -/
structure Codec.Restores (codec : Codec) (given : Value → Prop) : Prop where
  value : ∀ {v : Value} {values : List Value}, given v → v.isNull = false →
    codec.encode v = .ok values → codec.decode values = .ok v
  null : codec.decode (List.replicate codec.width .null) = .ok .null

/-- An untagged value of a built-in type is converted to that type, any other by a codec. -/
theorem MethodScope.conversionFor_none {s : MethodScope} {type : ValueType} {conversion : Conversion}
    (h : s.conversionFor none type = .ok conversion) : match type.scalar? with
      | some scalar => conversion = .scalar scalar
      | none => ∃ codec, conversion = .adapter codec := by
  unfold conversionFor at h
  cases scalar : type.scalar? with
  | some scalar' =>
    rw [scalar] at h
    exact (Except.ok.inj h).symm
  | none =>
    rw [scalar] at h
    dsimp only at h ⊢
    split at h
    · next codec _ => exact ⟨codec, (Except.ok.inj h).symm⟩
    · split at h <;> cases h
    · cases h

/-- Unsigned integers that are bound at all are read back as they were. -/
theorem Datum.toUnsigned_long {u : UnsignedType} {n : UInt64} (below : n.toNat < u.bound)
    (bound : n.toNat ≤ Int64.maxValue.toInt) :
    (Datum.value (.long (Int64.ofInt n.toNat))).toUnsigned u = .ok n := by
  have top : Int64.maxValue.toInt = 2 ^ 63 - 1 := rfl
  rw [top] at bound
  have view : (Int64.ofInt n.toNat).toInt = n.toNat := Int64.toInt_ofInt_of_le (by omega) (by omega)
  have back : UInt64.ofInt n.toNat = n := by
    apply UInt64.toNat_inj.1
    rw [UInt64.ofInt]
    have word := n.toNat_lt
    simp
    omega
  have own : BuiltinType.long.conform (.long (Int64.ofInt n.toNat)) = .ok (.long (Int64.ofInt n.toNat)) :=
    BuiltinType.conform_own rfl
  unfold toUnsigned
  rw [HostType.toScalar_value rfl, own]
  show (if 0 ≤ (Int64.ofInt n.toNat).toInt ∧ (Int64.ofInt n.toNat).toInt < u.bound then
    Except.ok (UInt64.ofInt (Int64.ofInt n.toNat).toInt) else _) = _
  rw [view, if_pos (by omega), back]

theorem Datum.toCustom_carried {name typeName : String} {f : ForeignValue}
    (carries : f.typeName = typeName) :
    (Datum.value (.custom f)).toCustom name typeName = .ok (.custom f) := by
  show (if f.typeName = typeName then Except.ok (Value.custom f) else _) = _
  rw [if_pos carries]

/-- A value of a built-in type is bound and read back as it is. -/
theorem Conversion.scalar_own {type : BuiltinType} {v : Value} {values : List Value}
    (same : v.type? = some type) (encoded : (scalar type).encode v = .ok values) :
    (scalar type).decode values = .ok v := by
  have own := BuiltinType.conform_own same
  obtain ⟨w, hw, rfl⟩ := map_eq_ok.1 encoded
  cases own.symm.trans hw
  exact own

namespace Content

/-- What a field held is what its values are decoded and converted to. It is no bean. -/
structure Restored (x : Content) (t : HostType) (conversion : Conversion) (values : List Value) :
    Prop where
  leaf : ∀ name, x.field? name = none
  decoded : ∃ v, conversion.decode values = .ok v ∧ (v.isNull = true → t.optional = true) ∧
    t.ofDatum (.value v) = .ok x

variable {catalog : Catalog} {s : MethodScope} {t : HostType} {x : Content} {p : ParameterBinding}
  {source : Bindable} {values : List Value} {o : Bool}

theorem restored_absent {conversion : Conversion} (optional : t.optional = true)
    (codecs : ∀ codec, conversion = .adapter codec →
      codec.decode (List.replicate codec.width .null) = .ok .null) :
    absent.Restored t conversion (List.replicate conversion.width .null) := by
  refine ⟨fun _ => rfl, .null, ?_, fun _ => optional, ?_⟩
  · cases conversion with
    | scalar type => exact BuiltinType.conform_null rfl
    | adapter codec => exact codecs codec rfl
  · unfold HostType.ofDatum
    rw [if_pos (by rw [optional]; rfl)]

theorem restored_scalar {type : BuiltinType} {v : Value} (same : v.type? = some type)
    (encoded : (Conversion.scalar type).encode v = .ok values) :
    (value v).Restored ⟨.scalar type, o⟩ (.scalar type) values := by
  have some := Value.not_null_of_type same
  refine ⟨fun _ => rfl, v, Conversion.scalar_own same encoded, ?_, ?_⟩
  · rw [some]
    exact nofun
  · rw [HostType.ofDatum_value some]
    dsimp only
    rw [HostType.toScalar_value some, BuiltinType.conform_own same]
    rfl

theorem restored_unsigned {u : UnsignedType} {n : UInt64} (below : n.toNat < u.bound)
    (bound : n.toNat ≤ Int64.maxValue.toInt)
    (encoded : (Conversion.scalar .long).encode (.long (Int64.ofInt n.toNat)) = .ok values) :
    (unsigned n).Restored ⟨.unsigned u, o⟩ (.scalar .long) values := by
  refine ⟨fun _ => rfl, _, Conversion.scalar_own rfl encoded, nofun, ?_⟩
  rw [HostType.ofDatum_value rfl]
  dsimp only
  rw [Datum.toUnsigned_long below bound]
  rfl

theorem restored_custom {name typeName : String} {f : ForeignValue} {codec : Codec}
    (carries : f.typeName = typeName) (back : codec.decode values = .ok (.custom f)) :
    (value (.custom f)).Restored ⟨.custom name typeName, o⟩ (.adapter codec) values := by
  refine ⟨fun _ => rfl, .custom f, back, nofun, ?_⟩
  rw [HostType.ofDatum_value rfl]
  dsimp only
  rw [Datum.toCustom_carried carries]
  rfl

/-- What a field holds is restored from the values that it was bound as. Beans are not bound. -/
theorem HasType.restored (typed : x.HasType catalog t)
    (converts : s.conversionFor none t.valueType = .ok p.mapping.conversion)
    (restores : ∀ codec, p.mapping.conversion = .adapter codec →
      codec.Restores fun v => p.path.read source = .ok (.value v))
    (read : p.path.read source = .ok x.toBindable)
    (encoded : p.encodeElement source = .ok values) :
    x.Restored t p.mapping.conversion values := by
  have conversion := MethodScope.conversionFor_none converts
  rw [HostType.scalar?_of_kind] at conversion
  cases typed with
  | absent optional =>
    -- a null takes the slots without being encoded
    unfold ParameterBinding.encodeElement at encoded
    rw [read] at encoded
    cases encoded
    exact restored_absent optional fun codec same => (restores codec same).null
  | scalar same =>
    dsimp only at conversion
    rw [ParameterBinding.encodeElement_value read (Value.not_null_of_type same)] at encoded
    rw [conversion] at encoded ⊢
    exact restored_scalar same encoded
  | @unsigned u n o below =>
    dsimp only at conversion
    by_cases bound : n.toNat ≤ Int64.maxValue.toInt
    · have bindable : (Content.unsigned n).toBindable = .value (.long (Int64.ofInt n.toNat)) :=
        if_pos bound
      rw [bindable] at read
      rw [ParameterBinding.encodeElement_value read rfl] at encoded
      rw [conversion] at encoded ⊢
      exact restored_unsigned below bound encoded
    · -- beyond the range of the signed type nothing is bound
      have refused : (Content.unsigned n).toBindable = .invalid (.overflow (toString n.toNat) "i64") :=
        if_neg bound
      unfold ParameterBinding.encodeElement at encoded
      rw [read, refused] at encoded
      cases encoded
  | custom carries =>
    obtain ⟨codec, conversion⟩ := conversion
    rw [ParameterBinding.encodeElement_value read rfl] at encoded
    rw [conversion] at encoded ⊢
    exact restored_custom carries ((restores codec conversion).value read rfl encoded)
  | bean found members =>
    unfold ParameterBinding.encodeElement at encoded
    rw [read] at encoded
    cases encoded

end Content

/-! ## Fields -/

/-- Paths to fields of which none is a bean do not lead through one another. -/
theorem Bean.pairwise_apart {b : Bean} {paths : List (List String)} (distinct : paths.Nodup)
    (leaves : ∀ names ∈ paths, ∃ x, b.at? names = some x ∧ ∀ name, x.field? name = none) :
    paths.Pairwise Apart := by
  -- a path that went on behind a field would have to find a field in what that one holds
  have ends {p q : List String} (hp : p ∈ paths) (hq : q ∈ paths) (ne : p ≠ q) : ¬ p <+: q := by
    rintro ⟨rest, rfl⟩
    obtain ⟨x, held, leaf⟩ := leaves p hp
    obtain ⟨y, found, -⟩ := leaves _ hq
    cases rest with
    | nil => exact ne (List.append_nil p).symm
    | cons name rest =>
      rw [Bean.at?, Content.at?_append, show (Content.bean b.shape b.contents).at? p = some x from held,
        Option.bind_some, Content.at?, leaf] at found
      cases found
  refine List.Pairwise.imp_of_mem ?_ distinct
  intro p q hp hq ne
  exact ⟨ends hp hq ne, ends hq hp ne.symm⟩

/-- A value that was read for a field converts to what a bean holds there, which is no bean. -/
structure Bean.Refills (catalog : Catalog) (c : BeanClass) (b : Bean) (names : List String)
    (part : Destination × Value) : Prop where
  field : ∃ path t x, part.1 = .field path ∧ catalog.Leads c names path t ∧ b.at? names = some x ∧
    x.HasType catalog t ∧ (∀ name, x.field? name = none) ∧ t.ofDatum (.value part.2) = .ok x

/-- Once all fields are written an instance holds in them what the bean holds, and elsewhere what it
held before. -/
theorem Bean.writeFields_apart {catalog : Catalog} {c : BeanClass} {b : Bean}
    {paths : List (List String)} {parts : List (Destination × Value)}
    (each : List.Forall₂ (b.Refills catalog c) paths parts) (apart : paths.Pairwise Apart) :
    ∀ {start : Bean}, start.IsOf catalog c → ∃ b', Destination.writeFields start parts = .ok b' ∧
      b'.IsOf catalog c ∧ (∀ names ∈ paths, b'.at? names = b.at? names) ∧
      ∀ other, (∀ names ∈ paths, Apart names other) → b'.at? other = start.at? other := by
  induction each with
  | nil => exact fun typed => ⟨_, rfl, typed, nofun, fun _ _ => rfl⟩
  | @cons names part paths parts first _ ih =>
    intro start typed
    obtain ⟨beside, apart⟩ := List.pairwise_cons.1 apart
    obtain ⟨path, t, x, target, leads, held, fits, -, converted⟩ := first.field
    obtain ⟨next, written, typed', here, elsewhere⟩ := leads.write converted fits typed
    obtain ⟨b', rest, typed'', filled, unchanged⟩ := ih apart typed'
    refine ⟨b', ?_, typed'', List.forall_mem_cons.2 ⟨?_, filled⟩, fun other away => ?_⟩
    · obtain ⟨destination, v⟩ := part
      cases target
      show (start.writePath (.value v) path >>= fun b => Destination.writeFields b parts) = _
      rw [written]
      exact rest
    · rw [unchanged names fun other mem => (beside other mem).symm, here, held]
    · obtain ⟨first, others⟩ := List.forall_mem_cons.1 away
      rw [unchanged other others, elsewhere other first]

theorem Bean.writeFields_refills {catalog : Catalog} {c : BeanClass} {b start : Bean}
    {paths : List (List String)} {parts : List (Destination × Value)} (distinct : paths.Nodup)
    (each : List.Forall₂ (b.Refills catalog c) paths parts) (typed : start.IsOf catalog c) :
    ∃ b', Destination.writeFields start parts = .ok b' ∧ b'.IsOf catalog c ∧
      (∀ names ∈ paths, b'.at? names = b.at? names) ∧
      ∀ other, (∀ names ∈ paths, Apart names other) → b'.at? other = start.at? other := by
  have leaves : ∀ names ∈ paths, ∃ x, b.at? names = some x ∧ ∀ name, x.field? name = none := by
    intro names mem
    obtain ⟨part, -, refills⟩ := exists_of_forall₂_left each mem
    obtain ⟨path, t, x, -, -, held, -, leaf, -⟩ := refills.field
    exact ⟨x, held, leaf⟩
  exact Bean.writeFields_apart each (Bean.pairwise_apart distinct leaves) typed

end QueryMethods
