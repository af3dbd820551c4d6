/-
Writing what was read. A value that converts to the type of a field is a content of that type, so
writing keeps instances instances. A path that leads through a field that cannot be descended into
is never written, whatever the value.
-/
import QueryMethods.Proofs.Bean.Fields

namespace QueryMethods

/-! ## Converted values -/

theorem Datum.toScalar_eq_ok {v w : Value} {s : BuiltinType}
    (h : (Datum.value v).toScalar s = .ok w) : s.conform v = .ok w ∧ w.isNull = false := by
  obtain ⟨u, hu, h⟩ := bind_eq_ok.1 h
  cases hu
  obtain ⟨w', conforms, h⟩ := bind_eq_ok.1 h
  split at h
  · cases h
  · next some =>
    cases h
    exact ⟨conforms, Bool.eq_false_iff.2 some⟩

theorem Datum.toUnsigned_below {v : Value} {u : UnsignedType} {n : UInt64}
    (h : (Datum.value v).toUnsigned u = .ok n) : n.toNat < u.bound := by
  obtain ⟨w, -, h⟩ := bind_eq_ok.1 h
  dsimp only at h
  split at h
  · next inside =>
    cases h
    have word : u.bound ≤ 2 ^ 64 := by cases u <;> decide
    simp only [UInt64.ofInt, UInt64.toNat_ofNat']
    omega
  · cases h

/-- Only custom values of the right type are custom values of a type. -/
theorem Datum.toCustom_eq_ok {v w : Value} {name typeName : String}
    (h : (Datum.value v).toCustom name typeName = .ok w) :
    ∃ f : ForeignValue, w = .custom f ∧ f.typeName = typeName := by
  obtain ⟨u, hu, h⟩ := bind_eq_ok.1 h
  cases u with
  | custom f =>
    dsimp only at h
    split at h
    · next carries =>
      cases h
      exact ⟨f, rfl, carries⟩
    · cases h
  | _ => cases h

/-- A value that converts to a type becomes a content of the type. -/
theorem HostType.hasType_of_value {t : HostType} {v : Value} {x : Content} (catalog : Catalog)
    (h : t.ofDatum (.value v) = .ok x) : x.HasType catalog t := by
  obtain ⟨kind, optional⟩ := t
  unfold ofDatum at h
  split at h
  · next absent =>
    cases h
    exact .absent (Bool.and_eq_true_iff.1 absent).1
  · cases kind with
    | scalar s =>
      obtain ⟨w, hw, rfl⟩ := map_eq_ok.1 h
      obtain ⟨conforms, some⟩ := Datum.toScalar_eq_ok hw
      exact .scalar (BuiltinType.type_of_conform conforms some).2
    | unsigned u =>
      obtain ⟨n, hn, rfl⟩ := map_eq_ok.1 h
      exact .unsigned (Datum.toUnsigned_below hn)
    | custom name typeName =>
      obtain ⟨w, hw, rfl⟩ := map_eq_ok.1 h
      obtain ⟨f, rfl, carries⟩ := Datum.toCustom_eq_ok hw
      exact .custom carries
    | bean name =>
      -- a value is no bean
      obtain ⟨b, hb, -⟩ := map_eq_ok.1 h
      cases hb

/-! ## Instances that a class makes -/

/-- Fresh instances of a class, and those that its constructors make of values, are instances of
it. -/
structure BeanClass.Sound (catalog : Catalog) (c : BeanClass) : Prop where
  fresh : c.hasDefault = true → Bean.IsOf catalog c ⟨c.shape, c.blank⟩
  built : ∀ constructor ∈ c.constructors, ∀ (values : List Value) (b : Bean),
    constructor.build (values.map .value) = .ok b → b.IsOf catalog c

theorem BeanShape.fill_typed {catalog : Catalog} {s : BeanShape} {name : String} :
    ∀ {fields : List (Nat × Member)} {values : List Value} {contents filled : List Content},
      (∀ f ∈ fields, s.members[f.1]? = some f.2) →
      List.Forall₂ (fun (m : Member) x => x.HasType catalog m.type) s.members contents →
      fill name fields (values.map .value) contents = .ok filled →
        List.Forall₂ (fun (m : Member) x => x.HasType catalog m.type) s.members filled
  | [], _, _, _, _, typed, h => by
    cases h
    exact typed
  | _ :: _, [], _, _, _, _, h => nomatch h
  | (position, m) :: fields, v :: values, contents, filled, places, typed, h => by
    obtain ⟨place, others⟩ := List.forall_mem_cons.1 places
    obtain ⟨x, hx, h⟩ := bind_eq_ok.1 h
    have typed' := forall₂_set typed place (HostType.hasType_of_value catalog hx)
    exact fill_typed others typed' h

/-- The class of a shape makes instances of it, if what its fresh members hold has their types. -/
theorem BeanClass.ofShape_sound {catalog : Catalog} {s : BeanShape} {blank : List Content}
    (hasDefault : Bool)
    (typed : List.Forall₂ (fun (m : Member) x => x.HasType catalog m.type) s.members blank) :
    (BeanClass.ofShape s blank hasDefault).Sound catalog := by
  constructor
  · exact fun _ => ⟨rfl, typed⟩
  · intro constructor mem values b built
    cases List.mem_singleton.1 mem
    obtain ⟨filled, hf, h⟩ := bind_eq_ok.1 built
    cases h
    have places : ∀ f ∈ s.fields, s.members[f.1]? = some f.2 :=
      fun f hf => ((BeanShape.fieldPositions_spec 0 s.members).1 f hf).2
    exact ⟨rfl, BeanShape.fill_typed places typed hf⟩

/-! ## Paths that are written -/

namespace Catalog.Leads

variable {catalog : Catalog} {c : BeanClass} {names : List String} {path : FieldPath} {t : HostType}

theorem step_names (h : catalog.Leads c names path t) : path.map (·.name) = names := by
  induction h with
  | last field => rw [List.map_singleton, field.name_eq]
  | step field _ _ _ _ ih => rw [List.map_cons, ih, field.name_eq]

/-- A value that does not convert to the type of the field is all that keeps it from being
written. -/
theorem write_error (h : catalog.Leads c names path t) {d : Datum} {e : ConversionFailure}
    (refused : t.ofDatum d = .error e) : ∀ {b : Bean}, b.IsOf catalog c →
      b.writePath d path = .error e := by
  induction h with
  | last field =>
    intro b typed
    rw [← typed.shape] at field
    unfold Bean.writePath Bean.set
    rw [field.found]
    dsimp only
    rw [refused]
    rfl
  | @step c inner name index position m names path t field nested type found behind ih =>
    intro b typed
    rw [← typed.shape] at field
    obtain ⟨b', held, -, typed'⟩ := Leads.inner typed field type found
    obtain ⟨next, rest, rfl⟩ := behind.path_cons
    unfold Bean.writePath
    rw [Bean.nested?_of_nested field nested held]
    dsimp only
    rw [ih refused typed']
    rfl

end Catalog.Leads

theorem Catalog.Leads.descends {catalog : Catalog} {c : BeanClass} {names : List String}
    {path : FieldPath} {t : HostType} (h : catalog.Leads c names path t) :
    catalog.descends c names = true := by
  induction h with
  | last _ => rfl
  | @step c inner name index position m names path t field nested type found behind ih =>
    obtain ⟨next, rest, rfl⟩ : ∃ next rest, names = next :: rest := by
      cases behind <;> exact ⟨_, _, rfl⟩
    have known : catalog.classOf? m.type.valueType = some inner := by
      rw [type]
      exact found
    rw [Catalog.descends_cons field known, nested, ih]
    rfl

/-! ## Several paths -/

theorem BeanShape.Field.unique {s : BeanShape} {name : String} {index index' position position' : Nat}
    {m m' : Member} (h : s.Field name index position m) (h' : s.Field name index' position' m') :
    m = m' := by
  cases h.selected.symm.trans h'.selected
  cases h.found.symm.trans h'.found
  rfl

namespace Catalog

variable {catalog : Catalog} {c : BeanClass}

/-- A field through which another path leads is a bean that is always there. -/
theorem Leads.through {names rest : List String} {name : String} {path path' : FieldPath}
    {t t' : HostType} (h : catalog.Leads c names path t)
    (beyond : catalog.Leads c (names ++ name :: rest) path' t') :
    ∃ inner, t = ⟨.bean inner, false⟩ := by
  induction h generalizing path' t' with
  | last field =>
    cases beyond with
    | step field' _ type _ _ => exact ⟨_, (field.unique field') ▸ type⟩
  | @step c inner first index position m names path t field nested type found behind ih =>
    rw [List.cons_append] at beyond
    generalize names' : names ++ name :: rest = further at beyond ih
    cases beyond with
    | last field' => cases names <;> cases names'
    | step field' _ type' found' behind' =>
      cases field.unique field'
      obtain ⟨k, -⟩ := HostType.mk.inj (type.symm.trans type')
      rw [HostKind.bean.inj k, found'] at found
      cases found
      exact ih behind'

/-- A value becomes a content of the field at the end of a path. -/
structure Fills (catalog : Catalog) (c : BeanClass) (path : FieldPath) (v : Value) (x : Content) :
    Prop where
  field : ∃ t, catalog.Leads c (path.map (·.name)) path t ∧ t.ofDatum (.value v) = .ok x

/-- Fields that are filled with values are beside one another. -/
theorem Fills.apart {path path' : FieldPath} {v v' : Value} {x x' : Content}
    (h : catalog.Fills c path v x) (h' : catalog.Fills c path' v' x')
    (ne : path.map (·.name) ≠ path'.map (·.name)) :
    Apart (path.map (·.name)) (path'.map (·.name)) := by
  -- a value is no bean, so there is nothing behind it to fill
  have ends {p q : FieldPath} {w y : Value} {z a : Content} (hp : catalog.Fills c p w z)
      (hq : catalog.Fills c q y a) (ne : p.map (·.name) ≠ q.map (·.name)) :
      ¬ p.map (·.name) <+: q.map (·.name) := by
    rintro ⟨rest, same⟩
    obtain ⟨t, leads, converted⟩ := hp.field
    obtain ⟨t', beyond, -⟩ := hq.field
    cases rest with
    | nil => exact ne ((List.append_nil _).symm.trans same)
    | cons name rest =>
      rw [← same] at beyond
      obtain ⟨inner, rfl⟩ := leads.through beyond
      cases converted
  exact ⟨ends h h' ne, ends h' h ne.symm⟩

end Catalog

end QueryMethods
