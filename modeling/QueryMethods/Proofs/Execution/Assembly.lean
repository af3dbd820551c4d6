/-
Rows that are put together as beans. Where every field path of an accepted method leads on through
fields that can be descended into, a row becomes an instance of the class unless a column, a
conversion or a constructor fails. Where one path does not, no row ever does.
-/
import QueryMethods.Proofs.Bean.Writing
import QueryMethods.Proofs.Execution.Complete
import QueryMethods.Proofs.Method.Mirrored
import QueryMethods.Sample.Adapters
import QueryMethods.Scripted

namespace QueryMethods

open Dialogue

/-! ## Paths of results -/

namespace Catalog

/-- Whether a path leads on through a field that cannot be descended into. -/
def Blocks (catalog : Catalog) (c : BeanClass) (path : FieldPath) : Prop :=
  catalog.descends c (path.map (·.name)) = false

/-- How a path is written on instances of a class: to the end of the path, or never. -/
inductive Writes (catalog : Catalog) (c : BeanClass) (path : FieldPath) : Prop
  | leads {names : List String} {t : HostType} (leads : catalog.Leads c names path t)
  | never {name : String} (blocks : catalog.Blocks c path) (step : name ∈ path.map (·.name))
      (fails : ∀ (b : Bean) (d : Datum), b.IsOf catalog c →
        b.writePath d path = .error (.beanMismatch name))

end Catalog

namespace MethodScope

variable {s : MethodScope}

/-- A path that resolves has the names that it resolves. -/
theorem follow_names : ∀ {names : List String} {start : ValueType} {w : FieldWalk},
    s.follow start names = .ok w → w.path.map (·.name) = names
  | [], _, _, h => by
    cases h
    rfl
  | name :: rest, _, _, h => by
    obtain ⟨c, index, field, type, v, -, hi, hf, hv, rfl⟩ := follow_cons h
    obtain ⟨position, m, found, rfl, rfl⟩ := BeanClass.field_of hf
    have same : m.name = name := BeanShape.Field.name_eq ⟨hi, found⟩
    simp only [List.map_cons, follow_names hv, same]

/-- A path through a field that cannot be descended into is never written: the first such field
ends it. -/
theorem follow_blocked : ∀ {names : List String} {start : ValueType} {w : FieldWalk}
    {c : BeanClass}, s.follow start names = .ok w → s.catalog.classOf? start = some c →
    w.optional = false → s.catalog.descends c names = false →
      ∃ name ∈ names, ∀ (b : Bean) (d : Datum), b.IsOf s.catalog c →
        b.writePath d w.path = .error (.beanMismatch name)
  | [], _, _, _, _, _, _, closed => nomatch closed
  | [_], _, _, _, _, _, _, closed => nomatch closed
  | name :: next :: rest, _, _, c, h, hc, direct, closed => by
    obtain ⟨c', index, field, type, v, hc', hi, hf, hv, rfl⟩ := follow_cons h
    cases hc.symm.trans hc'
    obtain ⟨position, m, found, rfl, rfl⟩ := BeanClass.field_of hf
    have direct : v.optional = false := (Bool.or_eq_false_iff.1 direct).2
    obtain ⟨inner, _, _, _, behind, hc', -, -, -, last⟩ := follow_cons hv
    have present : m.type.valueType.nullable = false := by
      rw [last] at direct
      exact (Bool.or_eq_false_iff.1 direct).1
    have field : c.shape.Field name index position m := ⟨hi, found⟩
    obtain ⟨step, steps, path⟩ : ∃ step steps, v.path = step :: steps := by
      rw [last]
      exact ⟨_, _, rfl⟩
    cases nested : m.nested with
    | false =>
      -- nothing to descend into here, so the path ends at this step
      refine ⟨name, List.mem_cons_self, fun b d typed => ?_⟩
      rw [← typed.shape] at field
      rw [path, Bean.writePath, Bean.nested?_of_not_nested field nested, field.name_eq]
      simp
    | true =>
      -- the shut field lies further on, in the bean that is there by its type
      rw [Catalog.descends_cons field hc', nested, Bool.true_and] at closed
      obtain ⟨stop, mem, fails⟩ := follow_blocked hv hc' direct closed
      refine ⟨stop, List.mem_cons_of_mem _ mem, fun b d typed => ?_⟩
      rw [← typed.shape] at field
      obtain ⟨kind, known⟩ := Catalog.bean_of_classOf hc'
      obtain ⟨b', held, -, typed'⟩ :=
        Catalog.Leads.inner typed field (HostType.eq_bean kind present) known
      have behind := fails b' d typed'
      rw [path] at behind ⊢
      rw [Bean.writePath, Bean.nested?_of_nested field nested held]
      · simp only [behind]
        rfl
      · simp

theorem follow_writes {names : List String} {start : ValueType} {w : FieldWalk} {c : BeanClass}
    (walk : s.follow start names = .ok w) (steps : names ≠ [])
    (class' : s.catalog.classOf? start = some c) (direct : w.optional = false) :
    s.catalog.Writes c w.path := by
  cases open' : s.catalog.descends c names with
  | true =>
    obtain ⟨t, leads, -⟩ := follow_leads walk steps class' direct open'
    exact .leads leads
  | false =>
    obtain ⟨name, mem, fails⟩ := follow_blocked walk class' direct open'
    rw [← follow_names walk] at mem open'
    exact .never open' mem fails

/-- A plan that makes beans makes them of the class of the row. -/
theorem PlanFrom.class {resolved : ResolvedResults} {c : BeanClass} {origin : InstanceOrigin}
    (h : s.PlanFrom resolved (.bean c origin)) : resolved.row.bind s.catalog.classOf? = some c := by
  cases h with
  | fresh type _ _ => exact type
  | constructor type _ => exact type

end MethodScope

/-- The class of the row is the one of that name. -/
theorem CompiledMethod.ResolvedFrom.found {m : CompiledMethod} {s : MethodScope} {t : Template}
    {resolved : MethodScope.ResolvedResults} (h : m.ResolvedFrom s t resolved) {c : BeanClass}
    {origin : InstanceOrigin} (plan : m.rowPlan = .bean c origin) :
    s.catalog.find? c.name = some c := by
  have from' := (MethodScope.rowPlan_eq_ok.1 h.plan).1
  rw [plan] at from'
  obtain ⟨row, -, class'⟩ := Option.bind_eq_some_iff.1 from'.class
  exact (Catalog.bean_of_classOf class').2

/-- The path of a field is walked from the type of the row, and through no bean that may be null. -/
theorem CompiledMethod.ResolvedFrom.field_walk {m : CompiledMethod} {s : MethodScope} {t : Template}
    {resolved : MethodScope.ResolvedResults} (h : m.ResolvedFrom s t resolved) {r : ResultReading}
    (hr : r ∈ m.results) {path : FieldPath} (target : r.target = .field path) :
    ∃ row w, resolved.row = some row ∧ path.map (·.name) ≠ [] ∧
      s.follow { row with nullable := false } (path.map (·.name)) = .ok w ∧ w.optional = false ∧
      w.path = path := by
  obtain ⟨r', hr', same⟩ := h.result_mem hr
  obtain ⟨types, parameters, d, reading, row⟩ :=
    (MethodScope.results_resolution h.results).reading hr'
  have targets := reading.target
  rw [ResultReading.target_of_unplaced same, target] at targets
  generalize d.place = place, r'.mapping.valueType = type at targets
  cases targets with
  | field steps _ walk direct =>
    rw [← MethodScope.follow_names walk] at steps walk
    exact ⟨types.row, _, row, steps, walk, direct, rfl⟩

/-- The field path of a result is written on instances of the class of the row, or never. -/
theorem CompiledMethod.ResolvedFrom.writes {m : CompiledMethod} {s : MethodScope} {t : Template}
    {resolved : MethodScope.ResolvedResults} (h : m.ResolvedFrom s t resolved) {c : BeanClass}
    {origin : InstanceOrigin} (plan : m.rowPlan = .bean c origin) {r : ResultReading}
    (hr : r ∈ m.results) {path : FieldPath} (target : r.target = .field path) :
    s.catalog.Writes c path := by
  have from' := (MethodScope.rowPlan_eq_ok.1 h.plan).1
  rw [plan] at from'
  have class' := from'.class
  obtain ⟨row, w, typed, steps, walk, direct, rfl⟩ := h.field_walk hr target
  rw [typed, Option.bind_some] at class'
  exact MethodScope.follow_writes walk steps class' direct

/-! ## Writing the parts of a row -/

namespace Destination

variable {catalog : Catalog} {c : BeanClass}

/-- Why the fields of an instance are not written. -/
inductive Refusal (catalog : Catalog) (c : BeanClass) (parts : List (Destination × Value)) :
    ConversionFailure → Prop
  | converting {names : List String} {path : FieldPath} {t : HostType} {v : Value}
      {e : ConversionFailure} (mem : (.field path, v) ∈ parts)
      (leads : catalog.Leads c names path t) (refused : t.ofDatum (.value v) = .error e) :
      Refusal catalog c parts e
  | blocked {path : FieldPath} {v : Value} {name : String} (mem : (.field path, v) ∈ parts)
      (blocks : catalog.Blocks c path) (step : name ∈ path.map (·.name)) :
      Refusal catalog c parts (.beanMismatch name)

theorem Refusal.cons {part : Destination × Value} {parts : List (Destination × Value)}
    {e : ConversionFailure} (h : Refusal catalog c parts e) :
    Refusal catalog c (part :: parts) e := by
  cases h with
  | converting mem leads refused => exact .converting (List.mem_cons_of_mem _ mem) leads refused
  | blocked mem blocks step => exact .blocked (List.mem_cons_of_mem _ mem) blocks step

/-- What writing fields leaves: an instance, all of whose paths can be written, or a refusal. -/
theorem writeFields_cases : ∀ {parts : List (Destination × Value)} {b : Bean},
    b.IsOf catalog c → (∀ path v, (.field path, v) ∈ parts → catalog.Writes c path) →
      (∃ b', writeFields b parts = .ok b' ∧ b'.IsOf catalog c ∧
        ∀ path v, (.field path, v) ∈ parts → ¬ catalog.Blocks c path) ∨
      ∃ e, writeFields b parts = .error e ∧ Refusal catalog c parts e
  | [], b, typed, _ => .inl ⟨b, rfl, typed, nofun⟩
  | (.field path, v) :: rest, b, typed, writes => by
    cases writes path v List.mem_cons_self with
    | never blocks step fails =>
      refine .inr ⟨_, ?_, .blocked List.mem_cons_self blocks step⟩
      rw [writeFields, FieldPath.write, fails b (.value v) typed]
      rfl
    | @leads names t leads =>
      cases converted : t.ofDatum (.value v) with
      | error e =>
        refine .inr ⟨e, ?_, .converting List.mem_cons_self leads converted⟩
        rw [writeFields, FieldPath.write, leads.write_error converted typed]
        rfl
      | ok x =>
        obtain ⟨b', written, typed', -⟩ :=
          leads.write converted (HostType.hasType_of_value catalog converted) typed
        have here : writeFields b ((.field path, v) :: rest) = writeFields b' rest := by
          rw [writeFields, FieldPath.write, written]
          rfl
        rw [here]
        have behind := writeFields_cases typed' fun path v mem =>
          writes path v (List.mem_cons_of_mem _ mem)
        rcases behind with ⟨b'', all, typed'', open'⟩ | ⟨e, failed, refusal⟩
        · refine .inl ⟨b'', all, typed'', fun path' v' mem blocks => ?_⟩
          rcases List.mem_cons.1 mem with same | mem
          · cases same
            rw [Catalog.Blocks, leads.step_names, leads.descends] at blocks
            cases blocks
          · exact open' path' v' mem blocks
        · exact .inr ⟨e, failed, refusal.cons⟩
  | (.whole, v) :: rest, b, typed, writes | (.constructorSlot _, v) :: rest, b, typed, writes
  | (.mapKey, v) :: rest, b, typed, writes => by
    have behind := writeFields_cases typed fun path v mem =>
      writes path v (List.mem_cons_of_mem _ mem)
    rcases behind with ⟨b', all, typed', open'⟩ | ⟨e, failed, refusal⟩
    · refine .inl ⟨b', all, typed', fun path' v' mem => ?_⟩
      rcases List.mem_cons.1 mem with same | mem
      · cases same
      · exact open' path' v' mem
    · exact .inr ⟨e, failed, refusal.cons⟩

end Destination

/-! ## Rows -/

/-- What a class makes before fields are written is an instance of it. -/
theorem BeanClass.Sound.construct {catalog : Catalog} {c : BeanClass} (sound : c.Sound catalog)
    {origin : InstanceOrigin} {parts : List (Destination × Value)} {b : Bean}
    (h : c.construct origin parts = .ok b) : b.IsOf catalog c := by
  unfold BeanClass.construct at h
  cases origin with
  | fresh =>
    dsimp only at h
    unfold BeanClass.fresh? at h
    split at h
    · next found =>
      cases h
      split at found
      · next blank =>
        cases found
        exact sound.fresh blank
      · cases found
    · cases h
  | constructor index arity =>
    dsimp only at h
    split at h
    · next constructor found =>
      refine sound.built constructor (List.mem_of_getElem? found)
        ((List.range arity).map fun i => Destination.slotValue parts (i + 1)) b ?_
      rw [List.map_map]
      exact h
    · cases h

/-- Why what was read makes no instance, though every path can be written: a value does not convert
to the type of its field, or the constructor refuses its values. -/
inductive BeanClass.AssemblyFault (catalog : Catalog) (c : BeanClass)
    (parts : List (Destination × Value)) : InstanceOrigin → ConversionFailure → Prop
  | converting {origin : InstanceOrigin} {names : List String} {path : FieldPath} {t : HostType}
      {v : Value} {e : ConversionFailure} (mem : (.field path, v) ∈ parts)
      (leads : catalog.Leads c names path t) (refused : t.ofDatum (.value v) = .error e) :
      AssemblyFault catalog c parts origin e
  | building {index arity : Nat} {constructor : BeanClass.Constructor} {e : ConversionFailure}
      (found : c.constructors[index]? = some constructor)
      (refused : constructor.build
        ((List.range arity).map fun i => .value (Destination.slotValue parts (i + 1))) = .error e) :
      AssemblyFault catalog c parts (.constructor index arity) e

namespace CompiledMethod

variable {m : CompiledMethod} {catalog : Catalog} {c : BeanClass} {origin : InstanceOrigin}
  {parts : List (Destination × Value)}

/-- A name on the path of a result that cannot be written. -/
def Blocked (m : CompiledMethod) (catalog : Catalog) (c : BeanClass) (name : String) : Prop :=
  ∃ r ∈ m.results, ∃ path, r.target = .field path ∧ catalog.Blocks c path ∧
    name ∈ path.map (·.name)

/-- A failure to decode the columns of a result. -/
def Undecoded (m : CompiledMethod) (e : ConversionFailure) : Prop :=
  ∃ r ∈ m.results, ∃ columns, r.mapping.decode columns = .error e

/-- A class gives an instance of it to start from, or its constructor refuses. -/
theorem construct_cases {g : Signature} (complete : m.Complete g)
    (plan : m.rowPlan = .bean c origin) (sound : c.Sound catalog)
    (parts : List (Destination × Value)) :
    (∃ b, c.construct origin parts = .ok b ∧ b.IsOf catalog c) ∨
      ∃ e, c.construct origin parts = .error e ∧ c.AssemblyFault catalog parts origin e := by
  cases made : c.construct origin parts with
  | ok b => exact .inl ⟨b, rfl, sound.construct made⟩
  | error e =>
    refine .inr ⟨e, rfl, ?_⟩
    unfold BeanClass.construct at made
    cases origin with
    | fresh =>
      obtain ⟨b, fresh⟩ := complete.fresh c plan
      dsimp only at made
      rw [fresh] at made
      cases made
    | constructor index arity =>
      obtain ⟨constructor, found, -⟩ := complete.constructor c index arity plan
      dsimp only at made
      rw [found] at made
      exact .building found made

/-- What was read for a method becomes an instance, all of whose paths can be written, or a failure
that says why not. -/
theorem ResolvedFrom.assemble_cases {s : MethodScope} {t : Template}
    {resolved : MethodScope.ResolvedResults} (source : m.ResolvedFrom s t resolved)
    (plan : m.rowPlan = .bean c origin) (sound : c.Sound s.catalog) (read : m.ReadFor parts) :
    (∃ b, c.assemble origin parts = .ok b ∧ b.IsOf s.catalog c ∧
      ∀ name, ¬ m.Blocked s.catalog c name) ∨
    (∃ e, c.assemble origin parts = .error e ∧ c.AssemblyFault s.catalog parts origin e) ∨
    ∃ name, c.assemble origin parts = .error (.beanMismatch name) ∧
      m.Blocked s.catalog c name := by
  have writes (path : FieldPath) (v : Value) (mem : (.field path, v) ∈ parts) :
      s.catalog.Writes c path := by
    obtain ⟨r, hr, target, -⟩ := read.result mem
    exact source.writes plan hr target
  rcases construct_cases source.complete plan sound parts with
    ⟨b, constructed, typed⟩ | ⟨e, refused, fault⟩
  · have assembled : c.assemble origin parts = Destination.writeFields b parts := by
      rw [BeanClass.assemble, constructed]
      rfl
    rw [assembled]
    rcases Destination.writeFields_cases typed writes with ⟨b', written, typed', open'⟩ |
      ⟨e, failed, refusal⟩
    · refine .inl ⟨b', written, typed', ?_⟩
      rintro name ⟨r, hr, path, target, blocks, -⟩
      -- the result was read, so its path was written
      have part : r.isPart = true := by
        rw [ResultReading.isPart, target]
      obtain ⟨⟨place, v⟩, mem, same, -⟩ :=
        exists_of_forall₂_left read (List.mem_filter.2 ⟨hr, part⟩)
      cases same.trans target
      exact open' path v mem blocks
    · cases refusal with
      | converting mem leads refused => exact .inr (.inl ⟨e, failed, .converting mem leads refused⟩)
      | blocked mem blocks step =>
        obtain ⟨r, hr, target, -⟩ := read.result mem
        exact .inr (.inr ⟨_, failed, r, hr, _, target, blocks, step⟩)
  · refine .inr (.inl ⟨e, ?_, fault⟩)
    rw [BeanClass.assemble, refused]
    rfl

/-- The bean of a row is put together from what was read. -/
theorem meets_assemble (plan : m.rowPlan = .bean c origin) {column : ColumnReader}
    {cause : QueryFailure → Prop} (safe : column.Safe cause) :
    (m.readResult column).Meets
      (fun e => cause e ∨ ∃ e', e = .conversion e' ∧
        (m.Undecoded e' ∨ ∃ parts, m.ReadFor parts ∧ c.assemble origin parts = .error e'))
      fun x => ∃ parts b, m.ReadFor parts ∧ c.assemble origin parts = .ok b ∧ x = .bean b := by
  have safe' : column.Safe fun e => cause e ∨ ∃ e', e = .conversion e' ∧
      (m.Undecoded e' ∨ ∃ parts, m.ReadFor parts ∧ c.assemble origin parts = .error e') :=
    fun slot type => (safe slot type).mono fun _ _ hr => ⟨fun e he => .inl (hr.1 e he), hr.2⟩
  unfold readResult
  rw [plan]
  refine (ResultReading.meets_readParts safe' fun r mem columns e failed =>
    .inr ⟨e, rfl, .inl ⟨r, mem, columns, failed⟩⟩).bind fun parts read => ?_
  cases assembled : c.assemble origin parts with
  | ok b => exact meets_pure ⟨parts, b, read, assembled, rfl⟩
  | error e => exact meets_fail (.inr ⟨e, rfl, .inr ⟨parts, read, assembled⟩⟩)

end CompiledMethod

/-- What is read for an accepted method that makes beans becomes an instance of the class, unless a
value does not convert to the type of its field or a constructor refuses, or a path leads through a
field that cannot be descended into. The last happens only if the method has such a path, and then
nothing that is read becomes an instance. Every row and every set of OUT parameters is put together
in this way. -/
theorem MethodDeclaration.rows_written {d : MethodDeclaration} {catalog : Catalog}
    {adapters : AdapterTable} {interface : String} {m : CompiledMethod}
    (h : d.compile catalog adapters interface = .ok m) {c : BeanClass} {origin : InstanceOrigin}
    (plan : m.rowPlan = .bean c origin) (sound : c.Sound catalog) {column : ColumnReader}
    {cause : QueryFailure → Prop} (safe : column.Safe cause) :
    (∀ parts, m.ReadFor parts →
      (∃ b, c.assemble origin parts = .ok b ∧ b.IsOf catalog c ∧
        ∀ name, ¬ m.Blocked catalog c name) ∨
      (∃ e, c.assemble origin parts = .error e ∧ c.AssemblyFault catalog parts origin e) ∨
      ∃ name, c.assemble origin parts = .error (.beanMismatch name) ∧
        m.Blocked catalog c name) ∧
    (m.readResult column).Meets
      (fun e => cause e ∨ ∃ e', e = .conversion e' ∧
        (m.Undecoded e' ∨ ∃ parts, m.ReadFor parts ∧ c.assemble origin parts = .error e'))
      fun x => ∃ parts b, m.ReadFor parts ∧ c.assemble origin parts = .ok b ∧ x = .bean b := by
  obtain ⟨t, resolved, -, source⟩ := MethodScope.compile_resolvedFrom (mapError_eq_ok.1 h)
  exact ⟨fun parts read => source.assemble_cases plan sound read, m.meets_assemble plan safe⟩

namespace Sample

/-- Customers of whom one field is read. -/
def customersWith (field : String) : MethodDeclaration :=
  { name := "customers"
    kind := .select
    template := "SELECT \x7b%%." ++ field ++ "\x7d FROM customers"
    signature := { arguments := [], returns := .single ⟨.bean "Customer", false⟩ } }

theorem customer_sound : customer.Sound catalog := by
  have home : (freshContent address).HasType catalog ⟨.bean "Address", false⟩ :=
    .bean rfl (.cons (.scalar rfl) (.cons (.absent rfl) .nil))
  exact BeanClass.ofShape_sound true
    (.cons (.scalar rfl) (.cons home (.cons home (.cons (.absent rfl) .nil))))

/-- Whether rows become fresh beans of that class. -/
def makes (type : String) : RowPlan → Bool
  | .bean c .fresh => decide (c.name = type)
  | _ => false

theorem makes_iff {type : String} {plan : RowPlan} :
    makes type plan = true ↔ ∃ c, plan = .bean c .fresh ∧ c.name = type := by
  constructor
  · intro h
    match plan, h with
    | .bean c .fresh, h => exact ⟨c, rfl, of_decide_eq_true h⟩
  · rintro ⟨c, rfl, named⟩
    exact decide_eq_true named

/-- The city of an address. -/
def cityPath : FieldPath := [⟨1, "address"⟩, ⟨0, "city"⟩]

/-- An address is a nested bean, so its city is written. -/
theorem addressCity_written :
    ∃ m, (customersWith "address.city").compile catalog ⟨[]⟩ "Shop" = .ok m ∧
      m.rowPlan = .bean customer .fresh ∧ m.ReadFor [(.field cityPath, .string "Paris")] ∧
      (∃ b, customer.assemble .fresh [(.field cityPath, .string "Paris")] = .ok b ∧
        b.IsOf catalog customer) ∧
      ∀ name, ¬ m.Blocked catalog customer name := by
  have checked : ((customersWith "address.city").compile catalog ⟨[]⟩ "Shop").toOption.any
      (fun m => makes "Customer" m.rowPlan &&
        decide (m.results.map (fun r => (r.target, r.mapping.decode [.string "Paris"])) =
          [(.field cityPath, .ok (.string "Paris"))])) = true := by
    decide +kernel
  obtain ⟨m, h, checked⟩ := exists_of_any checked
  obtain ⟨made, results⟩ := Bool.and_eq_true_iff.1 checked
  obtain ⟨c, plan, named⟩ := makes_iff.1 made
  obtain ⟨t, resolved, -, source⟩ := MethodScope.compile_resolvedFrom (mapError_eq_ok.1 h)
  have found : catalog.find? c.name = some c := source.found plan
  rw [named] at found
  cases (Option.some.inj found : customer = c)
  obtain ⟨r, only, same⟩ := List.map_eq_singleton_iff.1 (of_decide_eq_true results)
  obtain ⟨target, decoded⟩ := Prod.mk.inj same
  have read : m.ReadFor [(.field cityPath, .string "Paris")] := by
    have part : r.isPart = true := by
      rw [ResultReading.isPart, target]
    rw [CompiledMethod.ReadFor, only, List.filter_cons_of_pos part]
    exact .cons ⟨target.symm, _, decoded⟩ .nil
  have assembles : (customer.assemble .fresh [(.field cityPath, .string "Paris")]).isOk = true := by
    decide +kernel
  have safe : CompiledMethod.column.Safe fun _ => False := CompiledMethod.safe_column
  obtain ⟨written, -⟩ := MethodDeclaration.rows_written h plan customer_sound safe
  refine ⟨m, h, plan, read, ?_⟩
  rcases written _ read with ⟨b, ok, typed, open'⟩ | ⟨e, failed, -⟩ | ⟨name, failed, -⟩
  · exact ⟨⟨b, ok, typed⟩, open'⟩
  · rw [failed] at assembles
    cases assembles
  · rw [failed] at assembles
    cases assembles

/-- Whether a bean was expected in the member of that name. -/
def expects (name : String) : Except QueryFailure Output → Bool
  | .error (.conversion (.beanMismatch expected)) => decide (expected = name)
  | _ => false

theorem expects_iff {name : String} {outcome : Except QueryFailure Output} :
    expects name outcome = true ↔ outcome = .error (.conversion (.beanMismatch name)) := by
  constructor
  · intro h
    match outcome, h with
    | .error (.conversion (.beanMismatch _)), h => rw [of_decide_eq_true h]
  · rintro rfl
    exact decide_eq_true rfl

/-- A billing address is none: the method is accepted, and its row fails although its one column
is decoded and has the type of the field. -/
theorem billingCity_never_written :
    ∃ m, (customersWith "billing.city").compile catalog ⟨[]⟩ "Shop" = .ok m ∧
      (∀ r ∈ m.results, r.mapping.decode [.string "Paris"] = .ok (.string "Paris")) ∧
      (scalar .string).ofDatum (.value (.string "Paris")) = .ok (.value (.string "Paris")) ∧
      ((m.execute ⟨⟨fun _ => true, none⟩, {}, none⟩ []).run ScriptedDatabase.respond
        { rows := [[.string "Paris"]] }).outcome =
          .error (.conversion (.beanMismatch "billing")) := by
  have checked : ((customersWith "billing.city").compile catalog ⟨[]⟩ "Shop").toOption.any
      (fun m => expects "billing" ((m.execute ⟨⟨fun _ => true, none⟩, {}, none⟩ []).run
          ScriptedDatabase.respond { rows := [[.string "Paris"]] }).outcome &&
        m.results.all fun r =>
          decide (r.mapping.decode [.string "Paris"] = .ok (.string "Paris"))) = true := by
    decide +kernel
  obtain ⟨m, h, checked⟩ := exists_of_any checked
  obtain ⟨failed, decoded⟩ := Bool.and_eq_true_iff.1 checked
  refine ⟨m, h, fun r mem => ?_, rfl, expects_iff.1 failed⟩
  exact of_decide_eq_true (List.all_eq_true.1 decoded r mem)

end Sample

end QueryMethods
