/-
Fields by their names. A path of names leads from a class to a field, through beans that are always
there and can be descended into. On instances whose members hold what their types say, the field is
read and written by the indices that the names resolve to, and nothing beside it is changed.
-/
import QueryMethods.Bean.Class
import QueryMethods.Proofs.Coercion

namespace QueryMethods

/-! ## Names, indices and places -/

namespace BeanShape

/-- The fields come in the order of the members, each at its own place. -/
theorem fieldPositions_spec : ∀ (start : Nat) (ms : List Member),
    (∀ f ∈ fieldPositions start ms, start ≤ f.1 ∧ ms[f.1 - start]? = some f.2) ∧
      (fieldPositions start ms).Pairwise fun f g => f.1 < g.1
  | _, [] => ⟨nofun, .nil⟩
  | start, m :: rest => by
    obtain ⟨places, ordered⟩ := fieldPositions_spec (start + 1) rest
    have behind : ∀ f ∈ fieldPositions (start + 1) rest,
        start ≤ f.1 ∧ (m :: rest)[f.1 - start]? = some f.2 := by
      intro f hf
      obtain ⟨low, at'⟩ := places f hf
      refine ⟨by omega, ?_⟩
      rw [show f.1 - start = f.1 - (start + 1) + 1 by omega]
      exact at'
    unfold fieldPositions
    split
    · exact ⟨behind, ordered⟩
    · constructor
      · refine List.forall_mem_cons.2 ⟨⟨Nat.le_refl _, ?_⟩, behind⟩
        rw [Nat.sub_self]
        rfl
      · exact List.pairwise_cons.2 ⟨fun f hf => (places f hf).1, ordered⟩

/-- The field that a name selects: its index, its place among the members, and the member. -/
structure Field (s : BeanShape) (name : String) (index position : Nat) (m : Member) : Prop where
  selected : s.indexOf? name = some index
  found : s.fields[index]? = some (position, m)

variable {s : BeanShape} {name : String} {index position : Nat} {m : Member}

theorem Field.name_eq (h : s.Field name index position m) : m.name = name := by
  obtain ⟨inside, named, -⟩ := List.findIdx?_eq_some_iff_getElem.1 h.selected
  have found : s.fields[index] = (position, m) := (List.getElem?_eq_some_iff.1 h.found).2
  rw [found] at named
  exact of_decide_eq_true named

theorem Field.member (h : s.Field name index position m) : s.members[position]? = some m :=
  ((fieldPositions_spec 0 s.members).1 _ (List.mem_of_getElem? h.found)).2

/-- Fields of other indices have other places. -/
theorem place_ne {other place : Nat} {n : Member} (here : s.fields[index]? = some (position, m))
    (there : s.fields[other]? = some (place, n)) (ne : other ≠ index) : place ≠ position := by
  have ordered : s.fields.Pairwise fun f g => f.1 < g.1 := (fieldPositions_spec 0 s.members).2
  have places := List.pairwise_iff_getElem.1 ordered
  obtain ⟨inside, here⟩ := List.getElem?_eq_some_iff.1 here
  obtain ⟨inside', there⟩ := List.getElem?_eq_some_iff.1 there
  rcases Nat.lt_or_gt_of_ne ne with less | more
  · have lt := places other index inside' inside less
    rw [there, here] at lt
    exact Nat.ne_of_lt lt
  · have lt := places index other inside inside' more
    rw [there, here] at lt
    exact Nat.ne_of_gt lt

end BeanShape

theorem BeanClass.field_of {c : BeanClass} {index : Nat} {name : String} {type : ValueType}
    (h : c.fields[index]? = some (name, type)) : ∃ position m,
      c.shape.fields[index]? = some (position, m) ∧ m.name = name ∧ m.type.valueType = type := by
  unfold fields at h
  rw [List.getElem?_map] at h
  obtain ⟨⟨position, m⟩, found, eq⟩ := Option.map_eq_some_iff.1 h
  cases eq
  exact ⟨position, m, found, rfl, rfl⟩

/-- Only bean types name classes, and each its own. -/
theorem Catalog.bean_of_classOf {catalog : Catalog} {t : ValueType} {c : BeanClass}
    (h : catalog.classOf? t = some c) : t.kind = .bean c.name ∧ catalog.find? c.name = some c := by
  unfold classOf? at h
  split at h
  · next name kind =>
    have named : c.name = name := by
      unfold find? at h
      have named := List.find?_some h
      exact of_decide_eq_true named
    rw [named]
    exact ⟨kind, h⟩
  · cases h

theorem HostType.eq_bean {t : HostType} {name : String} (kind : t.valueType.kind = .bean name)
    (direct : t.valueType.nullable = false) : t = ⟨.bean name, false⟩ := by
  obtain ⟨k, optional⟩ := t
  cases direct
  cases k <;> cases kind
  rfl

/-! ## What fields hold -/

/-- What the field of that name holds. Only beans have fields. -/
def Content.field? : Content → String → Option Content
  | .bean shape contents, name =>
    (shape.indexOf? name).bind (Bean.content? ⟨shape, contents⟩)
  | _, _ => none

/-- What the field at the end of a path of names holds. -/
def Content.at? : Content → List String → Option Content
  | x, [] => some x
  | x, name :: rest => (x.field? name).bind fun y => y.at? rest

/-- What the field at the end of a path of names holds. -/
abbrev Bean.at? (b : Bean) (path : List String) : Option Content :=
  (Content.bean b.shape b.contents).at? path

theorem Bean.at?_cons {b : Bean} {name : String} {index position : Nat} {m : Member}
    (field : b.shape.Field name index position m) (rest : List String) :
    b.at? (name :: rest) = (b.content? index).bind fun x => x.at? rest := by
  show ((b.shape.indexOf? name).bind b.content?).bind _ = _
  rw [field.selected, Option.bind_some]

theorem Content.at?_append (path rest : List String) : ∀ x : Content,
    x.at? (path ++ rest) = (x.at? path).bind fun y => y.at? rest := by
  induction path with
  | nil => exact fun _ => rfl
  | cons name path ih =>
    intro x
    show (x.field? name).bind _ = ((x.field? name).bind _).bind _
    rw [Option.bind_assoc]
    exact congrArg _ (funext fun y => ih y)

/-- Neither path leads through the end of the other. -/
def Apart (p q : List String) : Prop := ¬ p <+: q ∧ ¬ q <+: p

theorem Apart.symm {p q : List String} (h : Apart p q) : Apart q p := ⟨h.2, h.1⟩

theorem Apart.of_cons {name : String} {p q : List String} (h : Apart (name :: p) (name :: q)) :
    Apart p q :=
  ⟨fun h' => h.1 (List.cons_prefix_cons.2 ⟨rfl, h'⟩), fun h' => h.2 (List.cons_prefix_cons.2 ⟨rfl, h'⟩)⟩

/-- A path that is apart begins with another field, or leads on beside the rest. -/
theorem Apart.cases_cons {name : String} {p q : List String} (h : Apart (name :: p) q) :
    ∃ other rest, q = other :: rest ∧ (other = name → Apart p rest) := by
  cases q with
  | nil => exact absurd List.nil_prefix h.2
  | cons other rest =>
    refine ⟨other, rest, rfl, ?_⟩
    rintro rfl
    exact h.of_cons

/-! ## Types of what is held -/

/-- The contents that a type has. The values of a built-in type are of that type, unsigned integers
are within its range, and a bean has the members of its class. -/
inductive Content.HasType (catalog : Catalog) : HostType → Content → Prop
  | absent {t : HostType} (optional : t.optional = true) : HasType catalog t .absent
  | scalar {s : BuiltinType} {v : Value} {o : Bool} (type : v.type? = some s) :
      HasType catalog ⟨.scalar s, o⟩ (.value v)
  | unsigned {u : UnsignedType} {n : UInt64} {o : Bool} (below : n.toNat < u.bound) :
      HasType catalog ⟨.unsigned u, o⟩ (.unsigned n)
  | custom {name typeName : String} {f : ForeignValue} {o : Bool} (carries : f.typeName = typeName) :
      HasType catalog ⟨.custom name typeName, o⟩ (.value (.custom f))
  | bean {name : String} {c : BeanClass} {contents : List Content} {o : Bool}
      (found : catalog.find? name = some c)
      (members : List.Forall₂ (fun (m : Member) x => HasType catalog m.type x) c.shape.members contents) :
      HasType catalog ⟨.bean name, o⟩ (.bean c.shape contents)

/-- An instance of a class. -/
structure Bean.IsOf (catalog : Catalog) (c : BeanClass) (b : Bean) : Prop where
  shape : b.shape = c.shape
  members : List.Forall₂ (fun (m : Member) x => x.HasType catalog m.type) c.shape.members b.contents

/-! ## Exchanging contents -/

namespace Bean

/-- The instance with other contents for the member at a place. -/
def put (b : Bean) (position : Nat) (x : Content) : Bean :=
  { b with contents := b.contents.set position x }

variable {catalog : Catalog} {c : BeanClass} {b : Bean} {name : String} {index position : Nat}
  {m : Member}

/-- A field holds something of its type. -/
theorem IsOf.content (typed : b.IsOf catalog c) (field : b.shape.Field name index position m) :
    ∃ x, b.contents[position]? = some x ∧ b.content? index = some x ∧ x.HasType catalog m.type := by
  have member := field.member
  rw [typed.shape] at member
  obtain ⟨x, held, type⟩ := getElem?_of_forall₂ typed.members member
  refine ⟨x, held, ?_, type⟩
  unfold content?
  rw [field.found]
  exact held

theorem IsOf.put (typed : b.IsOf catalog c) (field : b.shape.Field name index position m) {x : Content}
    (fits : x.HasType catalog m.type) : (b.put position x).IsOf catalog c := by
  have member := field.member
  rw [typed.shape] at member
  exact ⟨typed.shape, forall₂_set typed.members member fits⟩

theorem IsOf.content_put (typed : b.IsOf catalog c) (field : b.shape.Field name index position m)
    (x : Content) : (b.put position x).content? index = some x := by
  obtain ⟨y, held, -, -⟩ := typed.content field
  obtain ⟨inside, -⟩ := List.getElem?_eq_some_iff.1 held
  unfold content?
  show (b.shape.fields[index]?).bind _ = _
  rw [field.found]
  exact List.getElem?_set_self inside

/-- Fields of other names hold what they held. -/
theorem at?_put_ne (field : b.shape.Field name index position m) (x : Content) {other : String}
    (ne : other ≠ name) (rest : List String) :
    (b.put position x).at? (other :: rest) = b.at? (other :: rest) := by
  cases selected : b.shape.indexOf? other with
  | none =>
    have none (b' : Bean) (same : b'.shape = b.shape) : b'.at? (other :: rest) = none := by
      show ((b'.shape.indexOf? other).bind _).bind _ = _
      rw [same, selected]
      rfl
    exact (none (b.put position x) rfl).trans (none b rfl).symm
  | some index' =>
    obtain ⟨inside, -, -⟩ := List.findIdx?_eq_some_iff_getElem.1 selected
    obtain ⟨⟨place, n⟩, found⟩ : ∃ f, b.shape.fields[index']? = some f :=
      ⟨_, List.getElem?_eq_getElem inside⟩
    have field' : b.shape.Field other index' place n := ⟨selected, found⟩
    -- fields of different names are at different places
    have apart : place ≠ position := by
      refine BeanShape.place_ne field.found found ?_
      rintro rfl
      cases found.symm.trans field.found
      exact ne (field'.name_eq.symm.trans field.name_eq)
    have same : (b.put position x).content? index' = b.content? index' := by
      unfold content?
      show (b.shape.fields[index']?).bind _ = (b.shape.fields[index']?).bind _
      rw [found]
      exact List.getElem?_set_ne apart.symm
    have field'' : (b.put position x).shape.Field other index' place n := field'
    rw [at?_cons field' rest, at?_cons field'' rest, same]

/-- A field that is exposed has the bean that it holds to descend into. -/
theorem nested?_of_nested {b' : Bean} (field : b.shape.Field name index position m)
    (nested : m.nested = true)
    (held : b.contents[position]? = some (.bean b'.shape b'.contents)) :
    b.nested? index = some b' := by
  simp only [nested?, field.found, Option.bind_eq_bind, Option.bind_some, nested, if_true, held]

/-- One that is not exposed has none. -/
theorem nested?_of_not_nested (field : b.shape.Field name index position m)
    (closed : m.nested = false) : b.nested? index = none := by
  simp [nested?, field.found, closed]

end Bean

/-! ## Paths that can be followed -/

/-- Names lead from a class to a field of a type, through beans that are always there and can be
descended into. The path is the one that the names resolve to. -/
inductive Catalog.Leads (catalog : Catalog) : BeanClass → List String → FieldPath → HostType → Prop
  | last {c : BeanClass} {name : String} {index position : Nat} {m : Member}
      (field : c.shape.Field name index position m) :
      Leads catalog c [name] [⟨index, m.name⟩] m.type
  | step {c inner : BeanClass} {name : String} {index position : Nat} {m : Member}
      {names : List String} {path : FieldPath} {t : HostType}
      (field : c.shape.Field name index position m) (nested : m.nested = true)
      (type : m.type = ⟨.bean inner.name, false⟩) (found : catalog.find? inner.name = some inner)
      (behind : Leads catalog inner names path t) :
      Leads catalog c (name :: names) (⟨index, m.name⟩ :: path) t

/-- Whether a path from a class leads on only through fields that can be descended into. -/
def Catalog.descends (catalog : Catalog) : BeanClass → List String → Bool
  | c, name :: next :: rest =>
    match (c.shape.indexOf? name).bind (c.shape.fields[·]?) with
    | some (_, m) => m.nested && (catalog.classOf? m.type.valueType).any fun inner =>
        catalog.descends inner (next :: rest)
    | none => false
  | _, _ => true

theorem Catalog.descends_cons {catalog : Catalog} {c inner : BeanClass} {name next : String}
    {rest : List String} {index position : Nat} {m : Member}
    (field : c.shape.Field name index position m)
    (type : catalog.classOf? m.type.valueType = some inner) :
    catalog.descends c (name :: next :: rest) =
      (m.nested && catalog.descends inner (next :: rest)) := by
  rw [descends, field.selected, Option.bind_some, field.found]
  simp only [type, Option.any_some]

namespace Catalog.Leads

variable {catalog : Catalog} {c : BeanClass} {names : List String} {path : FieldPath} {t : HostType}
  {b : Bean}

theorem path_cons (h : catalog.Leads c names path t) : ∃ step rest, path = step :: rest := by
  cases h with
  | last _ => exact ⟨_, _, rfl⟩
  | step _ _ _ _ _ => exact ⟨_, _, rfl⟩

/-- The bean in a member that is a bean and always there. -/
theorem inner {name : String} {index position : Nat} {m : Member} {inner : BeanClass}
    (typed : b.IsOf catalog c) (field : b.shape.Field name index position m)
    (type : m.type = ⟨.bean inner.name, false⟩) (found : catalog.find? inner.name = some inner) :
    ∃ b' : Bean, b.contents[position]? = some (.bean b'.shape b'.contents) ∧
      b.content? index = some (.bean b'.shape b'.contents) ∧ b'.IsOf catalog inner := by
  obtain ⟨x, held, content, fits⟩ := typed.content field
  rw [type] at fits
  cases fits with
  | absent optional => cases optional
  | @bean _ c' contents _ found' members =>
    cases found.symm.trans found'
    exact ⟨⟨inner.shape, contents⟩, held, content, rfl, members⟩

/-- The field is read by its path. -/
theorem read (h : catalog.Leads c names path t) : ∀ {b : Bean}, b.IsOf catalog c →
    ∃ x, b.at? names = some x ∧ x.HasType catalog t ∧ b.readPath path = .ok x.toBindable := by
  induction h with
  | last field =>
    intro b typed
    rw [← typed.shape] at field
    obtain ⟨x, -, content, fits⟩ := typed.content field
    refine ⟨x, ?_, fits, ?_⟩
    · rw [Bean.at?_cons field, content]
      rfl
    · unfold Bean.readPath Bean.get
      rw [content]
      rfl
  | step field nested type found behind ih =>
    intro b typed
    rw [← typed.shape] at field
    obtain ⟨b', -, content, typed'⟩ := inner typed field type found
    obtain ⟨x, here, fits, read⟩ := ih typed'
    obtain ⟨next, rest, rfl⟩ := behind.path_cons
    refine ⟨x, ?_, fits, ?_⟩
    · rw [Bean.at?_cons field, content]
      exact here
    · unfold Bean.readPath Bean.get
      rw [content]
      exact read

/-- The field is written by its path, and nothing apart from it is changed. -/
theorem write (h : catalog.Leads c names path t) {d : Datum} {x : Content}
    (converted : t.ofDatum d = .ok x) (fits : x.HasType catalog t) : ∀ {b : Bean}, b.IsOf catalog c →
    ∃ b', b.writePath d path = .ok b' ∧ b'.IsOf catalog c ∧ b'.at? names = some x ∧
      ∀ other, Apart names other → b'.at? other = b.at? other := by
  induction h with
  | @last c name index position m field =>
    intro b typed
    rw [← typed.shape] at field
    refine ⟨b.put position x, ?_, typed.put field fits, ?_, fun other apart => ?_⟩
    · unfold Bean.writePath Bean.set
      rw [field.found]
      dsimp only
      rw [converted]
      rfl
    · have field' : (b.put position x).shape.Field name index position m := field
      rw [Bean.at?_cons field', typed.content_put field]
      rfl
    · obtain ⟨first, rest, rfl, beside⟩ := apart.cases_cons
      refine Bean.at?_put_ne field x ?_ rest
      rintro rfl
      exact (beside rfl).1 List.nil_prefix
  | @step c inner name index position m names path t field nested type found behind ih =>
    intro b typed
    rw [← typed.shape] at field
    obtain ⟨b', held, content, typed'⟩ := Leads.inner typed field type found
    -- the bean inside is taken out, written and put back into its place
    obtain ⟨b'', written, typed'', here, others⟩ := ih converted fits typed'
    obtain ⟨next, rest, rfl⟩ := behind.path_cons
    have fits' : (Content.bean b''.shape b''.contents).HasType catalog m.type := by
      rw [type, typed''.shape]
      exact .bean found typed''.members
    have field' : (b.put position (.bean b''.shape b''.contents)).shape.Field name index position m :=
      field
    have content' := typed.content_put field (.bean b''.shape b''.contents)
    refine ⟨b.put position (.bean b''.shape b''.contents), ?_, typed.put field fits', ?_,
      fun other apart => ?_⟩
    · unfold Bean.writePath
      rw [Bean.nested?_of_nested field nested held]
      dsimp only
      rw [written]
      show Except.ok (b.replaceNested index b'') = _
      unfold Bean.replaceNested
      rw [field.found]
      rfl
    · rw [Bean.at?_cons field', content']
      exact here
    · obtain ⟨first, rest', rfl, beside⟩ := apart.cases_cons
      by_cases same : first = name
      · subst same
        rw [Bean.at?_cons field, Bean.at?_cons field', content, content']
        exact others rest' (beside rfl)
      · exact Bean.at?_put_ne field _ same rest'

end Catalog.Leads

end QueryMethods
