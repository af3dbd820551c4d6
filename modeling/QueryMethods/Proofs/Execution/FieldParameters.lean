/-
Parameters and the fields that they name. A placeholder without a tag whose value is no bean binds,
for anything of the declared type, the field that its path of names selects: as nulls where
something on the way is missing, else as the value that the field holds. The path is never the
reason of a failure.
-/
import QueryMethods.Proofs.Bean.Reading
import QueryMethods.Proofs.Execution.Bindings
import QueryMethods.Proofs.Execution.Restoring

namespace QueryMethods

/-! ## Elements -/

/-- What the field that names select is encoded as. -/
inductive ParameterBinding.FieldEncoding (p : ParameterBinding) (names : List String) (x : Content) :
    Except ConversionFailure (List Value) → Prop
  /-- Something on the way is missing: one null per slot. -/
  | missing (misses : x.Misses names) :
      FieldEncoding p names x (.ok (List.replicate p.mapping.conversion.width .null))
  /-- A value of a built-in type is bound as it is. -/
  | scalar {s : BuiltinType} {v : Value} (selected : x.at? names = some (.value v))
      (type : v.type? = some s) (conversion : p.mapping.conversion = .scalar s) :
      FieldEncoding p names x (.ok [v])
  | unsigned {n : UInt64} (selected : x.at? names = some (.unsigned n))
      (conversion : p.mapping.conversion = .scalar .long)
      (fits : n.toNat ≤ Int64.maxValue.toInt) :
      FieldEncoding p names x (.ok [.long (Int64.ofInt n.toNat)])
  /-- There is no signed integer of 64 bits for the unsigned one. -/
  | overflow {n : UInt64} (selected : x.at? names = some (.unsigned n))
      (exceeds : ¬ n.toNat ≤ Int64.maxValue.toInt) :
      FieldEncoding p names x (.error (.overflow (toString n.toNat) "i64"))
  /-- A custom value is bound as its codec encodes it. -/
  | custom {codec : Codec} {f : ForeignValue} (selected : x.at? names = some (.value (.custom f)))
      (conversion : p.mapping.conversion = .adapter codec) :
      FieldEncoding p names x (codec.encode (.custom f))

/-- What fails is an unsigned integer that is too large, or the codec. -/
theorem ParameterBinding.FieldEncoding.failure {p : ParameterBinding} {names : List String}
    {x : Content} {e : ConversionFailure} (h : p.FieldEncoding names x (.error e)) :
    (∃ n, e = .overflow n "i64") ∨
      ∃ codec v, p.mapping.conversion = .adapter codec ∧ codec.encode v = .error e := by
  obtain ⟨r, outcome⟩ : ∃ r : Except ConversionFailure (List Value), r = .error e := ⟨_, rfl⟩
  rw [← outcome] at h
  cases h with
  | missing _ | scalar _ _ _ | unsigned _ _ _ => cases outcome
  | overflow _ _ =>
    cases outcome
    exact .inl ⟨_, rfl⟩
  | @custom codec f _ conversion => exact .inr ⟨codec, .custom f, conversion, outcome⟩

/-- Where something on the way is missing there is no other way. -/
theorem ParameterBinding.FieldEncoding.of_misses {p : ParameterBinding} {names : List String}
    {x : Content} {r : Except ConversionFailure (List Value)} (h : p.FieldEncoding names x r)
    (misses : x.Misses names) : r = .ok (List.replicate p.mapping.conversion.width .null) := by
  cases h with
  | missing _ => rfl
  | scalar selected _ _ | unsigned selected _ _ | overflow selected _ | custom selected _ =>
    cases misses.absent_of_at? selected

/-- A path that resolves to something else than a bean has the field that it selects encoded. -/
theorem MethodScope.encodeElement_field {s : MethodScope} {p : ParameterBinding} {start : ValueType}
    {names : List String} {w : FieldWalk} (walk : s.follow start names = .ok w)
    (path : p.path = w.path) (conversion : s.conversionFor none w.type = .ok p.mapping.conversion)
    (plain : ∀ name, w.type.kind ≠ .bean name) {t : HostType} (type : t.valueType = start)
    {x : Content} (fits : x.HasType s.catalog t) :
    p.FieldEncoding names x (p.encodeElement x.toBindable) := by
  have converted := conversionFor_none conversion
  rcases follow_reads walk type fits with ⟨misses, read⟩ | ⟨y, u, selected, fits', reached, read⟩
  all_goals rw [← path] at read
  · rw [ParameterBinding.encodeElement_null read]
    exact .missing misses
  rw [← reached] at converted plain
  cases fits' with
  | absent _ =>
    rw [ParameterBinding.encodeElement_null read]
    exact .missing ⟨names, List.prefix_refl names, selected⟩
  | scalar typed =>
    have same : p.mapping.conversion = .scalar _ := converted
    rw [ParameterBinding.encodeElement_value read (Value.not_null_of_type typed), same]
    have own := BuiltinType.conform_own typed
    show p.FieldEncoding names x ((BuiltinType.conform _ _).map _)
    rw [own]
    exact .scalar selected typed same
  | @unsigned _ n _ below =>
    have same : p.mapping.conversion = .scalar .long := converted
    by_cases bound : n.toNat ≤ Int64.maxValue.toInt
    · have bindable : (Content.unsigned n).toBindable = .value (.long (Int64.ofInt n.toNat)) :=
        if_pos bound
      rw [bindable] at read
      have typed : (Value.long (Int64.ofInt n.toNat)).type? = some .long := rfl
      rw [ParameterBinding.encodeElement_value read (Value.not_null_of_type typed), same]
      show p.FieldEncoding names x ((BuiltinType.conform _ _).map _)
      rw [BuiltinType.conform_own typed]
      exact .unsigned selected same bound
    · have refused : (Content.unsigned n).toBindable =
          .invalid (.overflow (toString n.toNat) "i64") := if_neg bound
      rw [refused] at read
      rw [ParameterBinding.encodeElement, read]
      exact .overflow selected bound
  | @custom _ _ f _ carries =>
    obtain ⟨codec, same⟩ : ∃ codec, p.mapping.conversion = .adapter codec := converted
    rw [ParameterBinding.encodeElement_value read rfl, same]
    exact .custom selected same
  | bean _ _ => exact absurd rfl (plain _)

/-! ## Arguments -/

/-- The contents that an argument is made of, or the entry of a batch in its place: the elements of
the list that a select binds, else the only one. -/
def Argument.Holds (a : Argument) (kind : StatementKind) (source : Bindable) (xs : List Content) :
    Prop :=
  if kind = .select ∧ a.hasElements then source = .list (xs.map Content.toBindable)
  else ∃ x, xs = [x] ∧ source = x.toBindable

theorem ParameterBinding.encodeElements_eq (p : ParameterBinding) : ∀ items : List Bindable,
    p.encodeElements items = (items.mapM p.encodeElement).map List.flatten
  | [] => rfl
  | item :: rest => by
    rw [encodeElements, List.mapM_cons, encodeElements_eq p rest]
    cases p.encodeElement item with
    | error e => rfl
    | ok values => cases rest.mapM p.encodeElement <;> rfl

/-- What an argument is made of is encoded element by element. -/
theorem ParameterBinding.encode_holds {p : ParameterBinding} {kind : StatementKind} {a : Argument}
    (iteration : p.mapping.iteration = if kind = .select then a.shape else .single)
    {source : Bindable} {xs : List Content} (holds : a.Holds kind source xs) :
    p.encode source = (xs.mapM fun x => p.encodeElement x.toBindable).map List.flatten := by
  unfold Argument.Holds at holds
  have iterated : p.mapping.iteration = .single ↔ ¬ (kind = .select ∧ a.hasElements = true) := by
    rw [iteration]
    unfold Argument.hasElements
    split <;> simp [*]
  unfold encode
  split at holds
  · next list =>
    subst holds
    rw [if_neg fun single => iterated.1 single list]
    dsimp only
    rw [encodeElements_eq, List.mapM_map]
    rfl
  · next one =>
    obtain ⟨x, rfl, rfl⟩ := holds
    rw [if_pos (iterated.2 one), List.mapM_cons, mapM_nil_except]
    cases p.encodeElement x.toBindable with
    | error e => rfl
    | ok values =>
      show Except.ok values = .ok [values].flatten
      rw [List.flatten_singleton]

/-- A placeholder without a tag whose value is no bean reads the field that it names. Whatever the
argument that it selects is made of, the elements of a list or an entry of a batch included, each
element of the declared type has the field at the path encoded: as nulls where the element, a bean
on the way or the field is missing, else as what the field holds. The first element that fails, by
an unsigned integer that is too large or by the codec, fails the parameter. -/
theorem MethodDeclaration.parameters_read_fields {d : MethodDeclaration} {catalog : Catalog}
    {adapters : AdapterTable} {interface : String} {m : CompiledMethod}
    (h : d.compile catalog adapters interface = .ok m) :
    ∃ t, Template.read (MethodScope.form d.kind) d.template = .ok t ∧
      List.Forall₂ (fun (placeholder : Template.Parameter) p => ∃ a,
        MethodScope.argument ⟨catalog, adapters, d.kind, d.signature⟩ placeholder.argument =
          .ok (p.argument, a) ∧
        (placeholder.tag = none → (∀ name, p.mapping.valueType.kind ≠ .bean name) →
          ∀ {t : HostType} {args : List Bindable} {element : Option Bindable} {source : Bindable}
            {xs : List Content}, t.valueType = a.element →
            m.source? args element p.argument = some source → a.Holds d.kind source xs →
            (∀ x ∈ xs, x.HasType catalog t) →
              (∀ x ∈ xs, (x.Misses placeholder.path → p.encodeElement x.toBindable =
                  .ok (List.replicate p.mapping.conversion.width .null)) ∧
                p.FieldEncoding placeholder.path x (p.encodeElement x.toBindable)) ∧
              m.encodeParameter args element p =
                (((xs.mapM fun x => p.encodeElement x.toBindable).map List.flatten).mapError
                  .conversion).map fun values => ⟨p, values⟩))
        t.parameters m.parameters := by
  obtain ⟨t, resolved, read, source⟩ := MethodScope.compile_resolvedFrom (mapError_eq_ok.1 h)
  refine ⟨t, read, source.parameters.imp fun placeholder p resolves => ?_⟩
  obtain ⟨position, a, w, conversion, ha, hw, hc, eq⟩ := MethodScope.parameter_eq_ok.1 resolves
  have same : p.argument = position := congrArg (·.argument) eq
  have path : p.path = w.path := congrArg (·.path) eq
  have type : p.mapping.valueType = w.type := congrArg (·.mapping.valueType) eq
  have own : p.mapping.conversion = conversion := congrArg (·.mapping.conversion) eq
  have iteration : p.mapping.iteration = if d.kind = .select then a.shape else .single :=
    congrArg (·.mapping.iteration) eq
  refine ⟨a, by rw [same]; exact ha, fun untagged plain t args element source xs declared stands
    holds fits => ⟨fun x hx => ?_, ?_⟩⟩
  · have untagged' : placeholder.unplaced.tag = none := untagged
    rw [untagged', ← own] at hc
    have encoded := MethodScope.encodeElement_field hw path hc
      (fun name => by rw [← type]; exact plain name) declared (fits x hx)
    exact ⟨encoded.of_misses, encoded⟩
  · rw [CompiledMethod.encodeParameter_eq stands, ParameterBinding.encode_holds iteration holds]

namespace Sample

/-- Finds who moved from where customers lived before. -/
def findMoves : MethodDeclaration :=
  { name := "find_moves"
    kind := .select
    template := "SELECT \x7b%%\x7d FROM moves WHERE zip IN (\x7b%1.prior.zip\x7d)"
    signature :=
      { arguments := [⟨none, .collection, ⟨.bean "Customer", false⟩⟩]
        returns := .many ⟨.scalar .long, false⟩ } }

/-- A customer who lived somewhere else before, or did not. -/
def customerBefore (prior : Content) : Content :=
  .bean customer.shape [.value (.string "Ada"), freshContent address, freshContent address, prior]

theorem customerBefore_hasType {prior : Content} (fits : prior.HasType catalog (option addressType)) :
    (customerBefore prior).HasType catalog ⟨.bean "Customer", false⟩ := by
  have home : (freshContent address).HasType catalog addressType :=
    .bean rfl (.cons (.scalar rfl) (.cons (.absent rfl) .nil))
  exact .bean rfl (.cons (.scalar rfl) (.cons home (.cons home (.cons fits .nil))))

/-- Of two customers the one who never moved is bound as a null, the other as the zip code. -/
theorem findMoves_fields_bound :
    let moved : Content := .bean address.shape [.value (.string "Bern"), .value (.int 3011)]
    let customers := [customerBefore .absent, customerBefore moved]
    ∃ m p, findMoves.compile catalog ⟨[]⟩ "Shop" = .ok m ∧ m.parameters = [p] ∧
      m.encodeParameter [.list (customers.map Content.toBindable)] none p =
        .ok ⟨p, [.null, .int 3011]⟩ := by
  intro moved customers
  have checked : (findMoves.compile catalog ⟨[]⟩ "Shop").toOption.any (fun m =>
      decide (m.parameters.map (fun p => (p.argument, p.mapping.valueType,
        p.mapping.conversion.width, m.batchPosition)) =
          [(0, ⟨.scalar .int, true⟩, 1, none)])) = true := by decide +kernel
  have template : (Template.read .plain findMoves.template).toOption.any (fun t =>
      decide (t.BindsFields (.position 0) [["prior", "zip"]])) = true := by decide +kernel
  obtain ⟨m, h, checked⟩ := exists_of_any checked
  obtain ⟨p, only, same⟩ := List.map_eq_singleton_iff.1 (of_decide_eq_true checked)
  simp only [Prod.mk.injEq] at same
  obtain ⟨first, type, width, single⟩ := same
  obtain ⟨t, read, fields⟩ := MethodDeclaration.parameters_read_fields h
  obtain ⟨t', read', binds⟩ := exists_of_any template
  cases Except.ok.inj (read.symm.trans read')
  rw [only] at fields
  obtain ⟨placeholder, rest, ⟨a, selected, reads⟩, none, only'⟩ :=
    List.forall₂_cons_right_iff.1 fields
  cases none
  have each := (of_decide_eq_true binds).each
  rw [only'] at each
  obtain ⟨⟨selector, path, untagged⟩, -⟩ := List.forall₂_cons.1 each
  rw [selector, first] at selected
  have element : a = ⟨none, .collection, ⟨.bean "Customer", false⟩⟩ :=
    (congrArg Prod.snd (Except.ok.inj selected)).symm
  let args := [Bindable.list (customers.map Content.toBindable)]
  have stands : m.source? args none p.argument = some (.list (customers.map Content.toBindable)) := by
    rw [CompiledMethod.source?, first, ite_eq_right_iff.2 fun _ => Option.none_or]
    rfl
  have holds : a.Holds .select (.list (customers.map Content.toBindable)) customers := by
    rw [element]
    rfl
  have home : moved.HasType catalog (option addressType) :=
    .bean rfl (.cons (.scalar rfl) (.cons (.scalar rfl) .nil))
  have fits : ∀ x ∈ customers, x.HasType catalog ⟨.bean "Customer", false⟩ :=
    List.forall_mem_cons.2 ⟨customerBefore_hasType (.absent rfl),
      List.forall_mem_cons.2 ⟨customerBefore_hasType home, nofun⟩⟩
  obtain ⟨encoded, parameter⟩ := reads untagged (fun name => by rw [type]; simp)
    (by rw [element]; rfl) stands holds fits
  rw [path] at encoded
  obtain ⟨stayed, others⟩ := List.forall_mem_cons.1 encoded
  have null := stayed.1 ⟨["prior"], by decide, rfl⟩
  have zip : p.encodeElement (customerBefore moved).toBindable = .ok [.int 3011] := by
    obtain ⟨-, found⟩ := List.forall_mem_singleton.1 others
    have selected : (customerBefore moved).at? ["prior", "zip"] = some (.value (.int 3011)) := rfl
    generalize p.encodeElement (customerBefore moved).toBindable = r at found
    cases found with
    | missing misses => cases misses.absent_of_at? selected
    | scalar selected' _ _ =>
      cases selected.symm.trans selected'
      rfl
    | unsigned selected' _ _ | overflow selected' _ | custom selected' _ =>
      cases selected.symm.trans selected'
  refine ⟨m, p, h, only, ?_⟩
  rw [parameter, List.mapM_cons, null, List.mapM_cons, zip, width]
  rfl

end Sample

end QueryMethods
