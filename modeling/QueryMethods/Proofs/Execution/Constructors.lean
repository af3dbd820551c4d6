/-
What constructors are given. The parameters of a selected constructor are read as the types of the
tags, each from the columns of its own slot. A value that was read for a parameter converts to its
type: the tag is narrower than the parameter or equal to it, and a null is read only where the
parameter is optional. Only an unsigned type has fewer values than the columns can hold.
-/
import QueryMethods.Proofs.Coercion
import QueryMethods.Proofs.Database.Answers
import QueryMethods.Proofs.Execution.Complete
import QueryMethods.Proofs.Method.Constructors

namespace QueryMethods

open Dialogue

/-! ## Widening -/

theorem Value.asInt_within {v : Value} {source : BuiltinType} {low high n : Int}
    (typed : v.type? = some source) (range : source.range? = some (low, high))
    (view : v.asInt = some n) : low ≤ n ∧ n ≤ high := by
  cases v with
  | byte k =>
    cases typed; cases range; cases view
    exact ⟨k.minValue_le_toInt, k.toInt_le⟩
  | short k =>
    cases typed; cases range; cases view
    exact ⟨k.minValue_le_toInt, k.toInt_le⟩
  | int k =>
    cases typed; cases range; cases view
    exact ⟨k.minValue_le_toInt, k.toInt_le⟩
  | long k =>
    cases typed; cases range; cases view
    exact ⟨k.minValue_le_toInt, k.toInt_le⟩
  | _ => cases typed <;> cases range

namespace BuiltinType

variable {target source : BuiltinType} {v : Value} {e : ConversionFailure}

theorem mem_sources_of_admits (h : target.admits source = true) : source ∈ target.sources := by
  revert h
  cases target <;> cases source <;> decide

/-- Integers are only widened to integers of a greater range. -/
theorem range_of_admits (h : target.admits source = true) : ∀ wide ∈ target.range?,
    ∃ narrow ∈ source.range?, wide.1 ≤ narrow.1 ∧ narrow.2 ≤ wide.2 := by
  revert h
  cases target <;> cases source <;> decide

/-- No value is too large for a type that its own widens to, and no text is taken for a character. -/
theorem not_misfit_of_admits (h : target.admits source = true) (typed : v.type? = some source) :
    ¬ target.Misfit v e := by
  rintro (⟨range, view, outside⟩ | ⟨rfl, rfl, -⟩)
  · obtain ⟨narrow, own, low, high⟩ := range_of_admits h _ range
    obtain ⟨below, above⟩ := Value.asInt_within typed own view
    exact outside ⟨low.trans below, above.trans high⟩
  · cases typed
    cases h

end BuiltinType

namespace HostType

variable {t : HostType} {target source : BuiltinType} {v : Value} {e : ConversionFailure}

/-- A number is none of the unsigned type that it is read into. -/
def Overflows (t : HostType) (e : ConversionFailure) : Prop :=
  ∃ (u : UnsignedType) (n : Int), t.kind = .unsigned u ∧ ¬ (0 ≤ n ∧ n < u.bound) ∧
    e = .overflow (toString n) u.name

/-- What is read into a type that its own widens to fits, unless the type is unsigned. -/
theorem overflows_of_ofDatum (type : t.valueType.scalar? = some target)
    (admits : target.admits source = true) (typed : v.type? = some source)
    (h : t.ofDatum (.value v) = .error e) : t.Overflows e := by
  have mem := BuiltinType.mem_sources_of_admits admits
  cases ofDatum_misfit type typed mem h with
  | coercion type' misfit =>
    cases type.symm.trans type'
    exact absurd misfit (BuiltinType.not_misfit_of_admits admits typed)
  | unsigned kind _ outside => exact ⟨_, _, kind, outside, rfl⟩

theorem ofDatum_null (optional : t.optional = true) (null : v.isNull = true) :
    t.ofDatum (.value v) = .ok .absent :=
  if_pos (Bool.and_eq_true_iff.2 ⟨optional, null⟩)

end HostType

/-! ## Derived constructors -/

/-- With a value for each field, filling fails where a value does not convert to its field. -/
theorem BeanShape.fill_eq_error {name : String} {e : ConversionFailure} :
    ∀ {fields : List (Nat × Member)} {data : List Datum} {contents : List Content},
      fields.length ≤ data.length → fill name fields data contents = .error e →
        ∃ (i : Nat) (field : Nat × Member) (d : Datum), fields[i]? = some field ∧
          data[i]? = some d ∧ field.2.type.ofDatum d = .error e
  | [], _, _, _, h => nomatch h
  | _ :: _, [], _, enough, _ => absurd enough (Nat.not_succ_le_zero _)
  | (position, m) :: fields, d :: data, contents, enough, h => by
    rcases bind_eq_error.1 h with h | ⟨content, -, h⟩
    · exact ⟨0, (position, m), d, rfl, rfl, h⟩
    · obtain ⟨i, field, d', hf, hd, failed⟩ := fill_eq_error (Nat.le_of_succ_le_succ enough) h
      exact ⟨i + 1, field, d', hf, hd, failed⟩

/-! ## Values of a row -/

/-- What a row holds in its columns, or a call in its OUT parameters, for the type asked for. -/
abbrev RowContent : Type := Nat → SlotType → Value

/-- The value that a mapping decodes from a row. -/
def SlotMapping.valueIn (o : SlotMapping) (row : RowContent) : Except ConversionFailure Value :=
  o.decode ((o.slots.zip o.conversion.slotTypes).map fun x => row x.1 x.2)

/-- A database whose columns and OUT parameters are those of the row. -/
def servesRow (row : RowContent) : Expectation
  | .get slot type, v => v = row slot type
  | .outValue slot type, v => v = row slot type
  | _, _ => True

/-- What is fetched is what the row holds. -/
abbrev ColumnReader.Serves (column : ColumnReader) (row : RowContent) : Prop :=
  ∀ slot type, (column slot type).Succeeds (servesRow row) fun v => v = row slot type

/-- A part holds what its result has in the row. -/
def ResultReading.HeldIn (row : RowContent) (r : ResultReading) (part : Destination × Value) : Prop :=
  part.1 = r.target ∧ r.mapping.valueIn row = .ok part.2

section

variable {row : RowContent} {column : ColumnReader}

theorem serves_column : ColumnReader.Serves CompiledMethod.column row :=
  fun _ _ => succeeds_request fun _ held => held

theorem serves_outValue {p : Provider} (supported : p.supports .outValue = true) :
    ColumnReader.Serves p.outValue row := by
  intro slot type
  unfold Provider.outValue
  rw [if_pos supported]
  exact succeeds_request fun _ held => held

theorem SlotMapping.succeeds_read (serves : column.Serves row) {o : SlotMapping} {v : Value}
    (held : o.valueIn row = .ok v) :
    (o.read column).Succeeds (servesRow row) fun w => w = v := by
  unfold SlotMapping.read
  refine (succeeds_mapM (fun x : Nat × SlotType => serves x.1 x.2) _).bind fun columns same => ?_
  unfold SlotMapping.valueIn at held
  rw [same, held]
  exact succeeds_pure rfl

theorem ResultReading.readParts_cons (r : ResultReading) (rest : List ResultReading) :
    readParts column (r :: rest) =
      if r.isPart then do
        let v ← r.mapping.read column
        let parts ← readParts column rest
        pure ((r.target, v) :: parts)
      else readParts column rest := by
  rw [readParts]
  unfold isPart
  cases r.target <;> rfl

/-- Where all columns decode, each part is read as the row holds it. -/
theorem ResultReading.succeeds_parts (serves : column.Serves row) : ∀ {rs : List ResultReading},
    (∀ r ∈ rs, ∃ v, r.mapping.valueIn row = .ok v) →
      (readParts column rs).Succeeds (servesRow row) fun parts =>
        List.Forall₂ (HeldIn row) (rs.filter isPart) parts
  | [], _ => succeeds_pure .nil
  | r :: rest, decoded => by
    obtain ⟨⟨v, held⟩, others⟩ := List.forall_mem_cons.1 decoded
    have ih := succeeds_parts serves others
    rw [readParts_cons]
    by_cases part : r.isPart = true
    · rw [if_pos part, List.filter_cons_of_pos part]
      refine (SlotMapping.succeeds_read serves held).bind fun w same => ih.bind fun parts each => ?_
      rw [same]
      exact succeeds_pure (.cons ⟨rfl, held⟩ each)
    · rw [if_neg part, List.filter_cons_of_neg part]
      exact ih

end

/-! ## Results of constructor slots -/

/-- The values for the parameters of a constructor, in order. -/
def Destination.arguments (arity : Nat) (parts : List (Destination × Value)) : List Value :=
  (List.range arity).map fun i => slotValue parts (i + 1)

theorem Destination.arguments_getElem? {arity n : Nat} {parts : List (Destination × Value)}
    (low : 1 ≤ n) (high : n ≤ arity) : (arguments arity parts)[n - 1]? = some (slotValue parts n) := by
  unfold arguments
  rw [List.getElem?_map, List.getElem?_range (by omega), Option.map_some,
    show n - 1 + 1 = n by omega]

/-- The value for a parameter is the one that the row holds for its own result. -/
theorem ResultReading.slotValue_held {row : RowContent} {rs : List ResultReading}
    {parts : List (Destination × Value)} (nodup : (rs.filterMap (·.target.number?)).Nodup)
    (held : List.Forall₂ (HeldIn row) rs parts) {r : ResultReading} (hr : r ∈ rs) {n : Nat}
    (target : r.target = .constructorSlot n) :
    r.mapping.valueIn row = .ok (Destination.slotValue parts n) := by
  obtain ⟨found, mem, same, -⟩ := exists_of_forall₂_left held hr
  have last : (.constructorSlot n, Destination.slotValue parts n) ∈ parts :=
    Destination.slotValue_mem ⟨found.2, by rw [← target, ← same]; exact mem⟩
  obtain ⟨r', hr', same', value⟩ := exists_of_forall₂ held last
  rw [eq_of_number nodup hr hr' target same'.symm]
  exact value

/-- A result is read for a parameter of a constructor, as a type that the parameter takes. -/
structure ResultReading.Feeds (r : ResultReading) (k : BeanClass.Constructor) (n : Nat) : Prop where
  positive : n ≠ 0
  parameter : k.parameters[n - 1]? = some r.mapping.valueType
  widens : ∃ tag type, r.mapping.conversion = .scalar tag ∧
    r.mapping.valueType.scalar? = some type ∧ type.admits tag = true
  /-- A null is read only where the parameter is optional. -/
  nullable : r.mapping.nullable = r.mapping.valueType.nullable

/-- A value that was read for a parameter converts to every type that the parameter may be of, but
for numbers that are none of an unsigned type. -/
theorem ResultReading.Feeds.overflows {r : ResultReading} {k : BeanClass.Constructor} {n : Nat}
    (h : r.Feeds k n) {row : RowContent} {v : Value} (held : r.mapping.valueIn row = .ok v)
    {t : HostType} (type : k.parameters[n - 1]? = some t.valueType) {e : ConversionFailure}
    (failed : t.ofDatum (.value v) = .error e) : t.Overflows e := by
  have own : t.valueType = r.mapping.valueType := Option.some.inj (type.symm.trans h.parameter)
  obtain ⟨tag, scalar, conversion, scalar?, admits⟩ := h.widens
  unfold SlotMapping.valueIn SlotMapping.decode at held
  obtain ⟨w, conformed, held⟩ := bind_eq_ok.1 held
  split at held
  · cases held
  · next allowed =>
    cases held
    cases null : v.isNull with
    | false =>
      rw [conversion] at conformed
      have typed := (BuiltinType.type_of_conform conformed null).2
      exact HostType.overflows_of_ofDatum (own ▸ scalar?) admits typed failed
    | true =>
      -- a null was allowed, so that it is the value of an optional parameter
      rw [null, Bool.true_and, Bool.not_eq_true', Bool.not_eq_false, h.nullable, ← own] at allowed
      rw [HostType.ofDatum_null allowed null] at failed
      cases failed

namespace CompiledMethod

/-- Each parameter of a constructor is fed by a result of its own. -/
structure FeedsAll (m : CompiledMethod) (k : BeanClass.Constructor) : Prop where
  numbers : (m.results.filterMap (·.target.number?)).Perm (List.range' 1 k.parameters.length)
  feeds : ∀ r ∈ m.results, ∀ n, r.target = .constructorSlot n → r.Feeds k n

variable {m : CompiledMethod} {k : BeanClass.Constructor} {row : RowContent}
  {parts : List (Destination × Value)} {r : ResultReading} {n : Nat}

theorem FeedsAll.number (h : m.FeedsAll k) (hr : r ∈ m.results)
    (target : r.target = .constructorSlot n) : 1 ≤ n ∧ n ≤ k.parameters.length := by
  have inside : n ∈ m.results.filterMap (·.target.number?) :=
    List.mem_filterMap.2 ⟨r, hr, Destination.number?_eq_some.2 target⟩
  have range := h.numbers.subset inside
  rw [List.mem_range'_1] at range
  omega

theorem FeedsAll.result (h : m.FeedsAll k) (low : 1 ≤ n) (high : n ≤ k.parameters.length) :
    ∃ r ∈ m.results, r.target = .constructorSlot n := by
  have inside : n ∈ List.range' 1 k.parameters.length := List.mem_range'_1.2 ⟨low, by omega⟩
  obtain ⟨r, hr, number⟩ := List.mem_filterMap.1 (h.numbers.symm.subset inside)
  exact ⟨r, hr, Destination.number?_eq_some.1 number⟩

theorem FeedsAll.slotValue (h : m.FeedsAll k)
    (held : List.Forall₂ (ResultReading.HeldIn row) (m.results.filter ResultReading.isPart) parts)
    (hr : r ∈ m.results) (target : r.target = .constructorSlot n) :
    r.mapping.valueIn row = .ok (Destination.slotValue parts n) := by
  have part : r.isPart = true := by
    unfold ResultReading.isPart
    rw [target]
  have nodup : (m.results.filterMap (·.target.number?)).Nodup :=
    h.numbers.nodup_iff.2 (List.nodup_range' 1)
  exact ResultReading.slotValue_held (nodup.sublist (List.filter_sublist.filterMap _)) held
    (List.mem_filter.2 ⟨hr, part⟩) target

theorem FeedsAll.argument (h : m.FeedsAll k) (hr : r ∈ m.results)
    (target : r.target = .constructorSlot n) :
    (Destination.arguments k.parameters.length parts)[n - 1]? =
      some (Destination.slotValue parts n) :=
  Destination.arguments_getElem? (h.number hr target).1 (h.number hr target).2

/-- An argument converts to every type that its parameter may be of, or overflows it. -/
theorem FeedsAll.overflows (h : m.FeedsAll k)
    (held : List.Forall₂ (ResultReading.HeldIn row) (m.results.filter ResultReading.isPart) parts)
    {i : Nat} {t : HostType} {v : Value} {e : ConversionFailure}
    (type : k.parameters[i]? = some t.valueType)
    (value : (Destination.arguments k.parameters.length parts)[i]? = some v)
    (failed : t.ofDatum (.value v) = .error e) : t.Overflows e := by
  obtain ⟨inside, -⟩ := List.getElem?_eq_some_iff.1 type
  obtain ⟨r, hr, target⟩ := h.result (Nat.succ_pos i) inside
  have own : (Destination.arguments k.parameters.length parts)[i]? =
      some (Destination.slotValue parts (i + 1)) := h.argument hr target
  cases own.symm.trans value
  exact (h.feeds r hr _ target).overflows (h.slotValue held hr target) type failed

/-- A derived constructor fails where an argument overflows its field. -/
theorem FeedsAll.derived (h : m.FeedsAll k)
    (held : List.Forall₂ (ResultReading.HeldIn row) (m.results.filter ResultReading.isPart) parts)
    {shape : BeanShape} {blank : List Content} (derived : k = shape.fieldConstructor blank)
    {e : ConversionFailure}
    (failed : k.build ((Destination.arguments k.parameters.length parts).map .value) = .error e) :
    ∃ field ∈ shape.fields, field.2.type.Overflows e := by
  subst derived
  obtain ⟨i, field, d, hf, hd, failed⟩ : ∃ (i : Nat) (field : Nat × Member) (d : Datum),
      shape.fields[i]? = some field ∧
        ((Destination.arguments (shape.fieldConstructor blank).parameters.length parts).map
          Datum.value)[i]? = some d ∧
        field.2.type.ofDatum d = .error e := by
    rcases bind_eq_error.1 failed with filled | ⟨_, -, made⟩
    · refine BeanShape.fill_eq_error (Nat.le_of_eq ?_) filled
      unfold Destination.arguments BeanShape.fieldConstructor
      rw [List.length_map, List.length_map, List.length_range, List.length_map]
    · cases made
  rw [List.getElem?_map] at hd
  obtain ⟨v, value, rfl⟩ := Option.map_eq_some_iff.1 hd
  refine ⟨field, List.mem_of_getElem? hf, h.overflows held (i := i) ?_ value failed⟩
  show (shape.fields.map fun x => x.2.type.valueType)[i]? = _
  rw [List.getElem?_map, hf]
  rfl

/-- A row is made of the parts that it holds: built from the arguments, then its fields written. -/
theorem always_readResult {c : BeanClass} {index : Nat}
    (plan : m.rowPlan = .bean c (.constructor index k.parameters.length))
    (found : c.constructors[index]? = some k) {column : ColumnReader} (serves : column.Serves row)
    (held : List.Forall₂ (ResultReading.HeldIn row) (m.results.filter ResultReading.isPart) parts)
    (decoded : ∀ r ∈ m.results, ∃ v, r.mapping.valueIn row = .ok v) :
    (m.readResult column).Always fun s r => (∀ x ∈ s, x.Answered (servesRow row)) →
      r = (((k.build ((Destination.arguments k.parameters.length parts).map .value)) >>= fun b =>
        Destination.writeFields b parts).map Datum.bean).mapError .conversion := by
  have unique : Relator.RightUnique (ResultReading.HeldIn row) := by
    rintro r ⟨target, v⟩ ⟨target', v'⟩ ⟨rfl, held⟩ ⟨rfl, held'⟩
    cases held.symm.trans held'
    rfl
  have constructed : c.assemble (.constructor index k.parameters.length) parts =
      k.build ((Destination.arguments k.parameters.length parts).map .value) >>= fun b =>
        Destination.writeFields b parts := by
    unfold BeanClass.assemble BeanClass.construct Destination.arguments
    dsimp only
    rw [found, List.map_map]
    rfl
  unfold readResult
  rw [plan, ← constructed]
  refine (ResultReading.succeeds_parts serves decoded).always_bind fun read each => ?_
  cases unique.forall₂ each held
  cases c.assemble (.constructor index k.parameters.length) parts with
  | ok b => exact fun _ => rfl
  | error e => exact fun _ => rfl

end CompiledMethod

namespace MethodScope

variable {s : MethodScope} {types : ResultTypes} {parameters : List ValueType}
  {d : Template.Result} {r : ResultReading}

/-- The result of a slot feeds the parameter that takes the tag of the slot. -/
theorem Reading.feeds {k : BeanClass.Constructor} {slots : List ConstructorSlot}
    (h : s.Reading types k.parameters d r) (accepts : Accepts TakesWidened slots k)
    {slot : ConstructorSlot} (hs : slot ∈ slots) (place : slotOf? d = some slot) :
    r.Feeds k slot.1 := by
  obtain ⟨tag, -, positive, found⟩ := h.of_slot place
  obtain ⟨parameter, found', ⟨scalar, selects, actual, type, admits⟩, null⟩ := accepts.2 slot hs
  cases found.symm.trans found'
  have conversion := h.conversion
  rw [tag] at conversion
  obtain ⟨-, -, same, -⟩ := conversionFor_builtin selects conversion
  refine ⟨positive, found, ⟨scalar, actual, same, type, admits⟩, ?_⟩
  rw [h.nullable, tag]
  cases nullable : tagNullable slot.2 with
  | true => rw [null nullable, Bool.true_or]
  | false => rw [Bool.or_false]

/-- The results of the slots feed the constructor that is selected. -/
theorem compile_feedsAll {interface method template : String} {t : Template}
    (read : Template.read (form s.kind) template = .ok t) (fed : t.results.filterMap slotOf? ≠ [])
    (builtin : ∀ slot ∈ t.results.filterMap slotOf?, (Tag.builtin? slot.2).isSome = true)
    {m : CompiledMethod} (h : s.compile interface method template = .ok m) :
    ∃ c index k, m.rowPlan = .bean c (.constructor index (t.results.filterMap slotOf?).length) ∧
      c.constructors[index]? = some k ∧
      k.parameters.length = (t.results.filterMap slotOf?).length ∧ m.FeedsAll k ∧
      List.Forall₂ (fun d r => r.target.number? = (slotOf? d).map (·.1)) t.results m.results := by
  obtain ⟨types, c, index, parameters, -, bean, selected, plan, each⟩ :=
    compile_constructor read fed h
  obtain ⟨counted, k, hk, rfl, accepts⟩ := selectConstructor_accepts bean builtin selected
  have numbers := each.imp fun d r reading => reading.number?
  refine ⟨c, index, k, plan, hk, accepts.1, ⟨?_, fun r hr n target => ?_⟩, numbers⟩
  · rw [Reading.numbers each, accepts.1]
    exact counted
  · obtain ⟨d, hd, reading⟩ := exists_of_forall₂ each hr
    have number := reading.number?
    rw [Destination.number?_eq_some.2 target] at number
    obtain ⟨slot, place, rfl⟩ := Option.map_eq_some_iff.1 number.symm
    exact reading.feeds accepts (List.mem_filterMap.2 ⟨d, hd, place⟩) place

end MethodScope

/-! ## Accepted methods -/

/-- The chosen constructor takes what the columns decode to. The results of an accepted select or
call fill constructor slots, all with tags of built-in types. In a row, or OUT parameters, of which
every result decodes, the argument of each parameter is the value of the placeholder with its number,
wherever that stands in the template. An argument converts to every type that its parameter may be
of, unless the type is unsigned and the number none of it; so a derived constructor, which converts
its arguments in order, fails only there. What is read for the row is what the constructor makes of
the arguments, with the other fields written. -/
theorem MethodDeclaration.constructor_takes_columns {d : MethodDeclaration} {catalog : Catalog}
    {adapters : AdapterTable} {interface : String} {m : CompiledMethod} {t : Template}
    (read : Template.read (MethodScope.form d.kind) d.template = .ok t)
    (fed : t.results.filterMap MethodScope.slotOf? ≠ [])
    (builtin : ∀ slot ∈ t.results.filterMap MethodScope.slotOf?,
      (Tag.builtin? slot.2).isSome = true)
    (h : d.compile catalog adapters interface = .ok m) :
    ∃ c index k, m.rowPlan = .bean c (.constructor index k.parameters.length) ∧
      c.constructors[index]? = some k ∧
      k.parameters.length = (t.results.filterMap MethodScope.slotOf?).length ∧
      ∀ row : RowContent, (∀ r ∈ m.results, ∃ v, r.mapping.valueIn row = .ok v) →
        ∃ parts, List.Forall₂ (ResultReading.HeldIn row) (m.results.filter ResultReading.isPart) parts ∧
          let arguments := Destination.arguments k.parameters.length parts
          List.Forall₂ (fun d r => ∀ slot, MethodScope.slotOf? d = some slot →
            ∃ v, r.mapping.valueIn row = .ok v ∧ arguments[slot.1 - 1]? = some v)
            t.results m.results ∧
          (∀ (i : Nat) (t : HostType) (v : Value) (e : ConversionFailure),
            k.parameters[i]? = some t.valueType → arguments[i]? = some v →
              t.ofDatum (.value v) = .error e → t.Overflows e) ∧
          (∀ (shape : BeanShape) (blank : List Content), k = shape.fieldConstructor blank →
            ∀ e, k.build (arguments.map .value) = .error e →
              ∃ field ∈ shape.fields, field.2.type.Overflows e) ∧
          ∀ column : ColumnReader, (column = CompiledMethod.column ∨
              ∃ p : Provider, p.supports .outValue = true ∧ column = p.outValue) →
            (m.readResult column).Always fun s r => (∀ x ∈ s, x.Answered (servesRow row)) →
              r = ((k.build (arguments.map .value) >>= fun b =>
                Destination.writeFields b parts).map Datum.bean).mapError .conversion := by
  obtain ⟨c, index, k, plan, found, arity, feeds, numbers⟩ :=
    MethodScope.compile_feedsAll (s := ⟨catalog, adapters, d.kind, d.signature⟩) read fed builtin
      (mapError_eq_ok.1 h)
  rw [← arity] at plan
  refine ⟨c, index, k, plan, found, arity, fun row decoded => ?_⟩
  have held : ∀ r ∈ m.results.filter ResultReading.isPart, ∃ part, r.HeldIn row part := by
    intro r hr
    obtain ⟨v, hv⟩ := decoded r (List.mem_filter.1 hr).1
    exact ⟨(r.target, v), rfl, hv⟩
  obtain ⟨parts, held⟩ := exists_forall₂ held
  refine ⟨parts, held, ?_, ?_, ?_, ?_⟩
  · have own := (List.forall₂_and_left (p := (· ∈ m.results)) _ _).2 ⟨fun _ hr => hr, numbers.flip⟩
    refine own.flip.imp fun d r each slot place => ?_
    obtain ⟨hr, number⟩ := each
    rw [place] at number
    have target := Destination.number?_eq_some.1 number
    exact ⟨_, feeds.slotValue held hr target, feeds.argument hr target⟩
  · intro i t v e type value failed
    exact feeds.overflows held type value failed
  · intro shape blank derived e failed
    exact feeds.derived held derived failed
  · rintro column (rfl | ⟨p, supported, rfl⟩)
    · exact CompiledMethod.always_readResult plan found serves_column held decoded
    · exact CompiledMethod.always_readResult plan found (serves_outValue supported) held decoded

/-- Pairs, the right member first and the left one from a narrower column. -/
def Sample.swappedPairs : MethodDeclaration :=
  { name := "swapped_pairs"
    kind := .select
    template := "SELECT \x7bstring? %%2\x7d, \x7bint %%1\x7d FROM pairs"
    signature := { arguments := [], returns := .many ⟨.bean "Pair", false⟩ } }

/-- The left member is taken from the second column, and the right one may be missing. -/
theorem Sample.swappedPairs_constructed :
    ∃ m k parts, Sample.swappedPairs.compile Sample.catalog ⟨[]⟩ "Pairs" = .ok m ∧
      m.rowPlan = .bean Sample.pair (.constructor 0 2) ∧ Sample.pair.constructors = [k] ∧
      Destination.arguments k.parameters.length parts = [.int 7, .null] ∧
      k.build [.value (.int 7), .value .null] =
        .ok ⟨Sample.pair.shape, [.value (.long 7), .absent]⟩ := by
  let row : RowContent := fun column _ => if column = 1 then .null else .int 7
  have accepted : (Sample.swappedPairs.compile Sample.catalog ⟨[]⟩ "Pairs").toOption.any (fun m =>
      decide (m.results.map (fun r => r.mapping.valueIn row) = [.ok .null, .ok (.int 7)])) = true := by
    decide +kernel
  have shape : (Template.read .plain Sample.swappedPairs.template).toOption.any (fun t =>
      decide (t.results.map MethodScope.slotOf? =
        [some (2, some ⟨"string", true⟩), some (1, some ⟨"int", false⟩)] ∧
        t.results.filterMap MethodScope.slotOf? =
          [(2, some ⟨"string", true⟩), (1, some ⟨"int", false⟩)])) = true := by decide +kernel
  obtain ⟨m, h, values⟩ := exists_of_any accepted
  obtain ⟨t, read, places⟩ := exists_of_any shape
  have values := of_decide_eq_true values
  obtain ⟨places, slots⟩ := of_decide_eq_true places
  have fed : t.results.filterMap MethodScope.slotOf? ≠ [] := by
    rw [slots]
    exact List.cons_ne_nil _ _
  have builtin : ∀ slot ∈ t.results.filterMap MethodScope.slotOf?,
      (Tag.builtin? slot.2).isSome = true := by
    rw [slots]
    decide +kernel
  obtain ⟨types, c, index, parameters, typed, bean, -, plan, -⟩ :=
    MethodScope.compile_constructor (s := ⟨Sample.catalog, ⟨[]⟩, .select,
      Sample.swappedPairs.signature⟩) read fed (mapError_eq_ok.1 h)
  obtain ⟨c', index', k, plan', found, arity, rows⟩ :=
    MethodDeclaration.constructor_takes_columns (d := Sample.swappedPairs) read fed builtin h
  obtain ⟨rfl, -⟩ := RowPlan.bean.inj (plan.symm.trans plan')
  cases typed
  cases bean
  have only : k = Sample.pair.shape.fieldConstructor (Sample.zeroContents Sample.pair.shape) :=
    List.mem_singleton.1 (List.mem_of_getElem? found)
  have first : index' = 0 := by
    obtain ⟨inside, -⟩ := List.getElem?_eq_some_iff.1 found
    exact Nat.lt_one_iff.1 inside
  subst only first
  have decoded : ∀ r ∈ m.results, ∃ v, r.mapping.valueIn row = .ok v := by
    intro r hr
    have value := List.mem_map_of_mem (f := fun r : ResultReading => r.mapping.valueIn row) hr
    rw [values] at value
    rcases List.mem_pair.1 value with value | value
    · exact ⟨_, value⟩
    · exact ⟨_, value⟩
  obtain ⟨parts, -, own, -, -, -⟩ := rows row decoded
  refine ⟨m, _, parts, h, plan', rfl, ?_, rfl⟩
  obtain ⟨d₁, ds, hd, place₁, rest⟩ := List.map_eq_cons_iff.1 places
  obtain ⟨d₂, rfl, place₂⟩ := List.map_eq_singleton_iff.1 rest
  obtain ⟨r₁, rs, hr, value₁, rest'⟩ := List.map_eq_cons_iff.1 values
  obtain ⟨r₂, rfl, value₂⟩ := List.map_eq_singleton_iff.1 rest'
  rw [hd, hr, List.forall₂_cons, List.forall₂_cons] at own
  obtain ⟨right, left, -⟩ := own
  obtain ⟨v₁, held₁, second⟩ := right _ place₁
  obtain ⟨v₂, held₂, first⟩ := left _ place₂
  cases value₁.symm.trans held₁
  cases value₂.symm.trans held₂
  have number : Destination.slotValue parts 1 = .int 7 := Option.some.inj first
  have text : Destination.slotValue parts 2 = .null := Option.some.inj second
  show [Destination.slotValue parts 1, Destination.slotValue parts 2] = _
  rw [number, text]

end QueryMethods
