/-
Parameters of a bean type. One is accepted only with a codec that some adapter offers for the type,
and a value handed over for it is encoded by that codec. A bean is not: it is refused before the
codec is asked, so of the arguments that are declared only missing ones are bound.
-/
import QueryMethods.Proofs.Bean.Reading
import QueryMethods.Proofs.Method.Resolved
import QueryMethods.Proofs.Method.Unrolling
import QueryMethods.Sample.Adapters

namespace QueryMethods

/-! ## Codecs of adapters -/

namespace AdapterTable

/-- A codec that a registered adapter has for a type that it handles. -/
def Offers (r : AdapterTable) (type : ValueType) (codec : Codec) : Prop :=
  ∃ key a, (key, a) ∈ r.entries ∧ a.handles type = true ∧ build key a type = .ok codec

variable {r : AdapterTable} {type : ValueType} {codec : Codec}

theorem mem_of_get? {key : String} {a : Adapter} (h : r.get? key = some a) :
    (key, a) ∈ r.entries := by
  obtain ⟨⟨k, b⟩, found, rfl⟩ := Option.map_eq_some_iff.1 h
  have same : k = key := by simpa using List.find?_some found
  exact same ▸ List.mem_of_find?_eq_some found

theorem handles_of_build {key : String} {a : Adapter} (h : build key a type = .ok codec) :
    a.handles type = true := by
  unfold build at h
  split at h
  · assumption
  · cases h

theorem forTag_offers {key : String} (h : r.forTag key type = .ok (some codec)) :
    r.Offers type codec := by
  unfold forTag at h
  split at h
  · next a found =>
    obtain ⟨codec', built, same⟩ := map_eq_ok.1 h
    cases same
    exact ⟨key, a, mem_of_get? found, handles_of_build built, built⟩
  · cases h

theorem forType_offers (h : r.forType type = .ok (some codec)) : r.Offers type codec := by
  unfold forType at h
  split at h
  · next a found =>
    obtain ⟨codec', built, same⟩ := map_eq_ok.1 h
    cases same
    exact ⟨type.name, a, mem_of_get? found, handles_of_build built, built⟩
  · split at h
    · next key a found =>
      obtain ⟨codec', built, same⟩ := map_eq_ok.1 h
      cases same
      exact ⟨key, a, List.mem_of_find?_eq_some found, handles_of_build built, built⟩
    · cases h

end AdapterTable

/-- A value of a bean type is converted by the codec of an adapter: no built-in type takes it. -/
theorem MethodScope.conversionFor_bean {s : MethodScope} {tag : Option Tag} {type : ValueType}
    {name : String} {conversion : Conversion} (bean : type.kind = .bean name)
    (h : s.conversionFor tag type = .ok conversion) :
    ∃ codec, conversion = .adapter codec ∧ s.adapters.Offers type codec := by
  have plain : type.scalar? = none := by simp [ValueType.scalar?, bean]
  unfold conversionFor at h
  cases tag with
  | some tag =>
    dsimp only at h
    split at h
    · rw [plain] at h
      cases h
    · split at h
      · next codec found =>
        cases h
        exact ⟨codec, rfl, AdapterTable.forTag_offers found⟩
      · cases h
      · cases h
  | none =>
    rw [plain] at h
    dsimp only at h
    split at h
    · next codec found =>
      cases h
      exact ⟨codec, rfl, AdapterTable.forType_offers found⟩
    · split at h <;> cases h
    · cases h

/-! ## Elements -/

namespace ParameterBinding

variable {p : ParameterBinding} {source : Bindable}

/-- A bean is refused, whatever the conversion. -/
theorem encodeElement_bean {b : Bean} (read : p.path.read source = .ok (.bean b)) :
    p.encodeElement source = .error (.typeMismatch p.mapping.valueType.text b.shape.name) := by
  rw [encodeElement, read]
  rfl

end ParameterBinding

/-- A parameter of an accepted method starts at its argument and leads to its type. -/
theorem CompiledMethod.ResolvedFrom.parameter_walk {m : CompiledMethod} {s : MethodScope}
    {t : Template} {resolved : MethodScope.ResolvedResults} (h : m.ResolvedFrom s t resolved)
    {p : ParameterBinding} (hp : p ∈ m.parameters) :
    ∃ tag a names w, s.signature.arguments[p.argument]? = some a ∧
      s.follow a.element names = .ok w ∧ w.path = p.path ∧ w.type = p.mapping.valueType ∧
      s.conversionFor tag w.type = .ok p.mapping.conversion := by
  obtain ⟨d, -, resolves⟩ := exists_of_forall₂ h.parameters hp
  obtain ⟨position, a, w, conversion, ha, hw, hc, eq⟩ := MethodScope.parameter_eq_ok.1 resolves
  obtain ⟨-, argument⟩ := MethodScope.argument_eq_ok.1 ha
  have position' : p.argument = position := congrArg (·.argument) eq
  have path : p.path = w.path := congrArg (·.path) eq
  have type : p.mapping.valueType = w.type := congrArg (·.mapping.valueType) eq
  have own : p.mapping.conversion = conversion := congrArg (·.mapping.conversion) eq
  refine ⟨d.unplaced.tag, a, d.unplaced.path, w, ?_, hw, path.symm, type.symm, ?_⟩
  · rw [position']
    exact argument
  · rw [own]
    exact hc

/-! ## Accepted methods -/

/-- A parameter of a bean type has the codec of an adapter that handles the type. A value that is
handed over for it is encoded by that codec and fails only where the codec does. A bean that is
handed over is refused. So each element of the type that is declared, be it an argument, an element
of a list or an entry of a batch, is bound as nulls if nothing is there, and refused otherwise. -/
theorem MethodDeclaration.bean_parameters {d : MethodDeclaration} {catalog : Catalog}
    {adapters : AdapterTable} {interface : String} {m : CompiledMethod}
    (h : d.compile catalog adapters interface = .ok m) {p : ParameterBinding}
    (hp : p ∈ m.parameters) {name : String} (bean : p.mapping.valueType.kind = .bean name) :
    ∃ codec, p.mapping.conversion = .adapter codec ∧
      adapters.Offers p.mapping.valueType codec ∧
      (∀ source v, p.path.read source = .ok (.value v) → v.isNull = false →
        p.encodeElement source = codec.encode v) ∧
      (∀ source b, p.path.read source = .ok (.bean b) → p.encodeElement source =
        .error (.typeMismatch p.mapping.valueType.text b.shape.name)) ∧
      ∃ a, d.signature.arguments[p.argument]? = some a ∧
        ∀ (t : HostType) (x : Content), t.valueType = a.element → x.HasType catalog t →
          (p.path.read x.toBindable = .ok (.value .null) ∧
            p.encodeElement x.toBindable = .ok (List.replicate codec.width .null)) ∨
          ∃ b, p.path.read x.toBindable = .ok (.bean b) ∧ b.shape.name = name ∧
            p.encodeElement x.toBindable =
              .error (.typeMismatch p.mapping.valueType.text name) := by
  obtain ⟨t, resolved, -, source⟩ := MethodScope.compile_resolvedFrom (mapError_eq_ok.1 h)
  obtain ⟨tag, a, names, w, argument, walk, path, type, conversion⟩ := source.parameter_walk hp
  rw [type] at conversion
  obtain ⟨codec, adapts, offers⟩ := MethodScope.conversionFor_bean bean conversion
  refine ⟨codec, adapts, offers, fun source v read some => ?_,
    fun source b read => ParameterBinding.encodeElement_bean read, a, argument,
    fun t x declared fits => ?_⟩
  · rw [ParameterBinding.encodeElement_value read some, adapts]
    rfl
  · -- what the path reads has the bean type of the parameter: it is missing, or a bean
    obtain ⟨y, u, read, reached, fits'⟩ := MethodScope.follow_read walk declared fits
    rw [path] at read
    rw [← type, ← reached] at bean
    rcases fits'.bean_cases (HostType.kind_of_bean bean) with missing | ⟨b, -, found, -, -, named⟩
    · rw [missing] at read
      refine .inl ⟨read, ?_⟩
      rw [ParameterBinding.encodeElement_null read, adapts]
      rfl
    · rw [found] at read
      refine .inr ⟨b, read, named, ?_⟩
      rw [ParameterBinding.encodeElement_bean read, named]

namespace Sample

/-- Stores an account by the adapter that takes every type. -/
def storeAccount : MethodDeclaration :=
  { name := "store"
    kind := .insert
    template := "INSERT INTO t VALUES (\x7bany %1\x7d)"
    signature := { arguments := [⟨none, .single, ⟨.bean "Account", false⟩⟩], returns := .unit } }

/-- One adapter, which takes every type. -/
def anyTable : AdapterTable := ⟨[("any", anyAdapter)]⟩

/-- The codec of that adapter takes every value. -/
theorem anyTable_encodes {type : ValueType} {codec : Codec} (offers : anyTable.Offers type codec)
    (v : Value) : codec.encode v = .ok [.string ("<" ++ v.text ++ ">")] := by
  obtain ⟨key, a, mem, -, built⟩ := offers
  cases List.mem_singleton.1 mem
  cases built
  rfl

theorem storeAccount_compiles : ∃ m p, storeAccount.compile catalog anyTable "Shop" = .ok m ∧
    m.parameters = [p] ∧ p.path = [] ∧ p.mapping.iteration = .single ∧ p.argument = 0 ∧
    p.mapping.valueType = ⟨.bean "Account", false⟩ := by
  have checked : (storeAccount.compile catalog anyTable "Shop").toOption.any (fun m =>
      decide (m.parameters.map (fun p => (p.path, p.mapping.iteration, p.argument,
        p.mapping.valueType)) = [([], .single, 0, ⟨.bean "Account", false⟩)])) = true := by
    decide +kernel
  obtain ⟨m, h, checked⟩ := exists_of_any checked
  obtain ⟨p, only, same⟩ := List.map_eq_singleton_iff.1 (of_decide_eq_true checked)
  simp only [Prod.mk.injEq] at same
  exact ⟨m, p, h, only, same⟩

/-- An account that is handed over as a value is stored as its text. -/
theorem storeAccount_value_encoded :
    ∃ m p, storeAccount.compile catalog anyTable "Shop" = .ok m ∧ m.parameters = [p] ∧
      p.mapping.valueType.kind = .bean "Account" ∧
      p.encodeElement (.value (.custom ⟨"driver::catalog::Account", [("id", .integer 7)]⟩)) =
        .ok [.string "<<driver::catalog::Account>>"] := by
  obtain ⟨m, p, h, only, path, -, -, type⟩ := storeAccount_compiles
  have bean : p.mapping.valueType.kind = .bean "Account" := by rw [type]
  obtain ⟨codec, -, offers, served, -⟩ := MethodDeclaration.bean_parameters h
    (by rw [only]; exact List.mem_singleton_self p) bean
  refine ⟨m, p, h, only, bean, ?_⟩
  rw [served _ _ (by rw [path]; rfl) rfl, anyTable_encodes offers]
  decide +kernel

/-- An account that is handed over as one is refused, though the codec takes every value. -/
theorem storeAccount_bean_refused :
    ∃ m p codec, storeAccount.compile catalog anyTable "Shop" = .ok m ∧ m.parameters = [p] ∧
      p.mapping.conversion = .adapter codec ∧ (∀ v, ∃ values, codec.encode v = .ok values) ∧
      m.encode [.bean ⟨account.shape, account.blank⟩] none =
        .error (.conversion (.typeMismatch "Account" "Account")) := by
  obtain ⟨m, p, h, only, path, single, first, type⟩ := storeAccount_compiles
  obtain ⟨t, resolved, -, source⟩ := MethodScope.compile_resolvedFrom (mapError_eq_ok.1 h)
  obtain ⟨tag, a, names, w, -, -, -, same, conversion⟩ :=
    source.parameter_walk (by rw [only]; exact List.mem_singleton_self p)
  rw [same] at conversion
  have bean : p.mapping.valueType.kind = .bean "Account" := by rw [type]
  obtain ⟨codec, adapts, offers⟩ := MethodScope.conversionFor_bean bean conversion
  refine ⟨m, p, codec, h, only, adapts, fun v => ⟨_, anyTable_encodes offers v⟩, ?_⟩
  have refused : p.encodeElement (.bean ⟨account.shape, account.blank⟩) =
      .error (.typeMismatch p.mapping.valueType.text "Account") :=
    ParameterBinding.encodeElement_bean (by rw [path]; rfl)
  rw [type] at refused
  have encoded : m.encodeParameter [.bean ⟨account.shape, account.blank⟩] none p =
      .error (.conversion (.typeMismatch "Account" "Account")) := by
    simp only [CompiledMethod.encodeParameter, first, List.getElem?_cons_zero,
      ParameterBinding.encode, single, if_true, refused]
    rfl
  rw [CompiledMethod.encode, only, List.mapM_cons, encoded]
  rfl

end Sample

end QueryMethods
