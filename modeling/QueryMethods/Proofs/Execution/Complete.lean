/-
Runs of accepted methods find whatever the compiled method names. A failure that the database does
not report has a cause in the values that were given or read, in the number of rows, or in what the
provider does not support; no failure comes from a missing argument, list, slot, result, key,
instance or constructor.
-/
import QueryMethods.Proofs.Database.Meets
import QueryMethods.Proofs.Execution.Batches
import QueryMethods.Proofs.Method.Complete

namespace QueryMethods

open Dialogue

/-! ## Causes of failures -/

/-- Arguments as they are declared: as many, and a list where there are elements, or a null for an
empty one. -/
structure Signature.Shaped (g : Signature) (args : List Bindable) : Prop where
  length : args.length = g.arguments.length
  lists : ∀ {position : Nat} {a : Argument}, g.arguments[position]? = some a →
    a.hasElements = true →
      args[position]? = some (.value .null) ∨ ∃ items, args[position]? = some (.list items)

namespace CompiledMethod

/-- An element of the batch argument. -/
def Queued (m : CompiledMethod) (args : List Bindable) (item : Bindable) : Prop :=
  ∃ position items, m.batchPosition = some position ∧ args[position]? = some (.list items) ∧
    item ∈ items

/-- What the values of a parameter are taken from: an element of its argument, or one of the batch
if that is its argument. -/
def Gives (m : CompiledMethod) (args : List Bindable) (p : ParameterBinding) (item : Bindable) :
    Prop :=
  if m.batchPosition = some p.argument then m.Queued args item
  else ∃ source, args[p.argument]? = some source ∧ item ∈ p.elements source

/-- Why a run of a method fails if the database does not. -/
inductive Cause (m : CompiledMethod) (i : CallContext) (args : List Bindable) : QueryFailure → Prop
  /-- A given value is not encoded. -/
  | encoding {p : ParameterBinding} {item : Bindable} {e : ConversionFailure}
      (mem : p ∈ m.parameters) (gives : m.Gives args p item)
      (failed : p.encodeElement item = .error e) : Cause m i args (.conversion e)
  | unpaged (asked : i.bounds?.isSome = true) (none : i.provider.paging = none) :
      Cause m i args (m.reject .noPaging)
  | noOut (unsupported : i.provider.supports .registerOut = false ∨
      i.provider.supports .outValue = false) : Cause m i args (.statement Provider.noOutParameters)
  | noRow (one : m.returns = .one false) : Cause m i args .emptyResult
  | moreRows {nullable : Bool} (one : m.returns = .one nullable) : Cause m i args .multipleResults
  /-- Columns that were read are not decoded. -/
  | decoding {r : ResultReading} {columns : List Value} {e : ConversionFailure}
      (mem : r ∈ m.results) (failed : r.mapping.decode columns = .error e) :
      Cause m i args (.conversion e)
  /-- A constructor refuses values, all of which were read for its slots. -/
  | building {c : BeanClass} {index arity : Nat} {constructor : BeanClass.Constructor}
      {values : Nat → Value} {e : ConversionFailure}
      (plan : m.rowPlan = .bean c (.constructor index arity))
      (found : c.constructors[index]? = some constructor)
      (read : ∀ n, 1 ≤ n → n ≤ arity → ∃ r ∈ m.results, r.target = .constructorSlot n ∧
        ∃ columns, r.mapping.decode columns = .ok (values n))
      (failed : constructor.build ((List.range arity).map fun k => .value (values (k + 1))) =
        .error e) : Cause m i args (.conversion e)
  /-- A value that was read is not written to its field. -/
  | writing {r : ResultReading} {path : FieldPath} {b : Bean} {v : Value} {e : ConversionFailure}
      (mem : r ∈ m.results) (target : r.target = .field path) (some : path ≠ [])
      (failed : path.write b (.value v) = .error e) : Cause m i args (.conversion e)

end CompiledMethod

/-! ## Encoding -/

namespace ParameterBinding

theorem encodeElements_eq_error {p : ParameterBinding} {e : ConversionFailure} :
    ∀ {items : List Bindable}, p.encodeElements items = .error e →
      ∃ item ∈ items, p.encodeElement item = .error e
  | [], h => nomatch h
  | item :: rest, h => by
    unfold encodeElements at h
    rcases bind_eq_error.1 h with h | ⟨values, -, h⟩
    · exact ⟨item, List.mem_cons_self, h⟩
    · rcases bind_eq_error.1 h with h | ⟨others, -, h⟩
      · obtain ⟨item', mem, failed⟩ := encodeElements_eq_error h
        exact ⟨item', List.mem_cons_of_mem _ mem, failed⟩
      · cases h

/-- An argument that is a list where one is bound fails where one of its elements does. -/
theorem encode_eq_error {p : ParameterBinding} {source : Bindable} {e : ConversionFailure}
    (list : p.isIterated = true → source = .value .null ∨ ∃ items, source = .list items)
    (h : p.encode source = .error e) :
    ∃ item ∈ p.elements source, p.encodeElement item = .error e := by
  unfold encode at h
  unfold elements
  by_cases single : p.mapping.iteration = .single
  · rw [if_pos single] at h
    rw [if_neg (by unfold isIterated; simp [single])]
    exact ⟨source, List.mem_cons_self, h⟩
  · have iterated : p.isIterated = true := decide_eq_true single
    rw [if_neg single] at h
    rw [if_pos iterated]
    rcases list iterated with rfl | ⟨items, rfl⟩
    · cases h
    · exact encodeElements_eq_error h

end ParameterBinding

namespace CompiledMethod

variable {m : CompiledMethod} {g : Signature} {i : CallContext} {args : List Bindable}
  {e : QueryFailure}

theorem Complete.source (complete : m.Complete g) (shaped : g.Shaped args) {p : ParameterBinding}
    (hp : p ∈ m.parameters) : ∃ source, args[p.argument]? = some source ∧
      (p.isIterated = true → source = .value .null ∨ ∃ items, source = .list items) := by
  obtain ⟨a, ha, iterated⟩ := complete.argument p hp
  obtain ⟨inside, -⟩ := List.getElem?_eq_some_iff.1 ha
  have inside' : p.argument < args.length := by
    rw [shaped.length]
    exact inside
  refine ⟨args[p.argument], List.getElem?_eq_getElem inside', fun it => ?_⟩
  have list := shaped.lists ha (iterated it)
  rw [List.getElem?_eq_getElem inside'] at list
  rcases list with null | ⟨items, list⟩
  · exact .inl (Option.some.inj null)
  · exact .inr ⟨items, Option.some.inj list⟩

/-- An argument is never missing, nor a list where one is bound. -/
theorem Complete.encode_error (complete : m.Complete g) (shaped : g.Shaped args)
    {element : Option Bindable} (h : m.encode args element = .error e)
    (alone : element = none → m.batchPosition = none)
    (queued : ∀ item, element = some item → m.Queued args item) : m.Cause i args e := by
  obtain ⟨p, hp, failed⟩ := mapM_eq_error h
  obtain ⟨source, found, list⟩ := complete.source shaped hp
  have given {source : Bindable} (stands : m.source? args element p.argument = some source)
      (list : p.isIterated = true → source = .value .null ∨ ∃ items, source = .list items)
      (gives : ∀ item ∈ p.elements source, m.Gives args p item) : m.Cause i args e := by
    rw [encodeParameter_eq stands] at failed
    cases encoded : p.encode source with
    | ok values =>
      rw [encoded] at failed
      cases failed
    | error e' =>
      rw [encoded] at failed
      cases failed
      obtain ⟨item, mem, refused⟩ := ParameterBinding.encode_eq_error list encoded
      exact .encoding hp (gives item mem) refused
  have own (other : m.batchPosition ≠ some p.argument) : m.Cause i args e := by
    have stands : m.source? args element p.argument = some source := (if_neg other).trans found
    refine given stands list fun item mem => ?_
    unfold Gives
    rw [if_neg other]
    exact ⟨source, found, mem⟩
  cases element with
  | none =>
    refine own ?_
    rw [alone rfl]
    intro same
    cases same
  | some item =>
    by_cases batched : m.batchPosition = some p.argument
    · -- the element of the batch stands in for the list, and is bound as it is
      have single := complete.single (isBatched_of_position batched) p hp
      have once : p.isIterated = false := by
        unfold ParameterBinding.isIterated
        simp [single]
      have stands : m.source? args (some item) p.argument = some item := if_pos batched
      refine given stands (fun it => ?_) (fun item' mem => ?_)
      · rw [once] at it
        cases it
      · unfold ParameterBinding.elements at mem
        rw [once] at mem
        cases List.mem_singleton.1 mem
        unfold Gives
        rw [if_pos batched]
        exact queued item rfl
    · exact own batched

end CompiledMethod

/-! ## Binding -/

namespace FilledParameter

variable {cause : QueryFailure → Prop}

theorem meets_bindAll : ∀ (slot : Nat) (xs : List (Value × SlotType)),
    (bindAll slot xs).Meets cause fun _ => True
  | _, [] => meets_pure trivial
  | slot, x :: rest => by
    have one : (bindOne slot x).Meets cause fun _ => True := by
      unfold bindOne
      split <;> exact meets_request fun _ => trivial
    exact one.bind fun _ _ => meets_bindAll (slot + 1) rest

theorem meets_bindValues : ∀ (slot : Nat) (vs : List Value),
    (bindValues slot vs).Meets cause fun _ => True
  | _, [] => meets_pure trivial
  | slot, _ :: rest => meets_request_bind fun _ => meets_bindValues (slot + 1) rest

/-- The slots that parameters have are words, so that none is out of range. -/
theorem meets_bindFrom : ∀ es : List FilledParameter, (∀ e ∈ es, e.Placed) →
    (bindFrom 0 es).Meets cause fun _ => True
  | [], _ => meets_pure trivial
  | e :: rest, h => by
    obtain ⟨place, others⟩ := List.forall_mem_cons.1 h
    rw [place.bindFrom_cons]
    exact (meets_bindAll _ _).bind fun _ _ => (meets_bindFrom rest others).bind fun _ _ =>
      meets_pure trivial

end FilledParameter

namespace CompiledMethod

variable {m : CompiledMethod} {g : Signature} {i : CallContext} {args : List Bindable}
  {cause : QueryFailure → Prop}

theorem meets_bindParameters {es : List FilledParameter} (placed : ∀ e ∈ es, e.Placed) :
    (bindParameters es).Meets cause fun _ => True :=
  (FilledParameter.meets_bindFrom es placed).bind fun _ _ => meets_pure trivial

theorem meets_bindPaged (values : List (Value × SlotType)) (page : List Value) (pageFirst : Bool) :
    (bindPaged values page pageFirst).Meets cause fun _ => True := by
  unfold bindPaged
  split
  · exact (FilledParameter.meets_bindValues _ _).bind fun _ _ => FilledParameter.meets_bindAll _ _
  · exact (FilledParameter.meets_bindAll _ _).bind fun _ _ => FilledParameter.meets_bindValues _ _

end CompiledMethod

/-! ## Reading -/

/-- Requests for columns whose only failures have the causes. -/
abbrev ColumnReader.Safe (column : ColumnReader) (cause : QueryFailure → Prop) : Prop :=
  ∀ slot type, (column slot type).Meets cause fun _ => True

/-- What is read for a result: its target and a value that its columns decode to. -/
def ResultReading.Yields (r : ResultReading) (part : Destination × Value) : Prop :=
  part.1 = r.target ∧ ∃ columns, r.mapping.decode columns = .ok part.2

theorem SlotMapping.meets_read {o : SlotMapping} {column : ColumnReader}
    {cause : QueryFailure → Prop} (safe : column.Safe cause)
    (decoding : ∀ columns e, o.decode columns = .error e → cause (.conversion e)) :
    (o.read column).Meets cause fun v => ∃ columns, o.decode columns = .ok v := by
  unfold SlotMapping.read
  refine (meets_mapM (fun x : Nat × SlotType => safe x.1 x.2) _).bind fun columns _ => ?_
  cases decoded : o.decode columns with
  | ok v => exact meets_pure ⟨columns, decoded⟩
  | error e => exact meets_fail (decoding columns e decoded)

/-- The parts of a bean are those of its results, in order. -/
theorem ResultReading.meets_readParts {column : ColumnReader} {cause : QueryFailure → Prop}
    (safe : column.Safe cause) : ∀ {rs : List ResultReading},
    (∀ r ∈ rs, ∀ columns e, r.mapping.decode columns = .error e → cause (.conversion e)) →
    (readParts column rs).Meets cause fun parts =>
      List.Forall₂ ResultReading.Yields (rs.filter ResultReading.isPart) parts
  | [], _ => meets_pure .nil
  | r :: rest, decoding => by
    obtain ⟨first, others⟩ := List.forall_mem_cons.1 decoding
    have ih := meets_readParts safe others
    have read (part : r.isPart = true) :
        ((do
          let v ← r.mapping.read column
          let parts ← readParts column rest
          pure ((r.target, v) :: parts)) : Dialogue _).Meets cause fun parts =>
            List.Forall₂ ResultReading.Yields ((r :: rest).filter ResultReading.isPart) parts := by
      rw [List.filter_cons_of_pos part]
      exact (SlotMapping.meets_read safe first).bind fun v decoded => ih.bind fun parts each =>
        meets_pure (.cons ⟨rfl, decoded⟩ each)
    have skipped (other : r.isPart = false) : (readParts column rest).Meets cause fun parts =>
        List.Forall₂ ResultReading.Yields ((r :: rest).filter ResultReading.isPart) parts := by
      rw [List.filter_cons_of_neg (by rw [other]; exact Bool.false_ne_true)]
      exact ih
    unfold readParts
    cases target : r.target with
    | field path | constructorSlot n =>
      rw [target] at read
      exact read (by rw [ResultReading.isPart, target])
    | whole | mapKey => exact skipped (by rw [ResultReading.isPart, target])

/-! ## Putting together -/

namespace Destination

theorem writeFields_eq_error {e : ConversionFailure} : ∀ {parts : List (Destination × Value)}
    {b : Bean}, writeFields b parts = .error e → ∃ path v b', (.field path, v) ∈ parts ∧
      FieldPath.write path b' (.value v) = .error e
  | [], _, h => nomatch h
  | (.field path, v) :: rest, b, h => by
    rcases bind_eq_error.1 h with h | ⟨b', -, h⟩
    · exact ⟨path, v, b, List.mem_cons_self, h⟩
    · obtain ⟨path', v', b'', mem, failed⟩ := writeFields_eq_error h
      exact ⟨path', v', b'', List.mem_cons_of_mem _ mem, failed⟩
  | (.whole, _) :: rest, b, h | (.constructorSlot _, _) :: rest, b, h | (.mapKey, _) :: rest, b, h => by
    have behind : writeFields b rest = .error e := h
    obtain ⟨path', v', b', mem, failed⟩ := writeFields_eq_error behind
    exact ⟨path', v', b', List.mem_cons_of_mem _ mem, failed⟩

/-- The value of a constructor slot is one that was read for it, if any was. -/
theorem slotValue_mem {parts : List (Destination × Value)} {n : Nat}
    (h : ∃ v, (.constructorSlot n, v) ∈ parts) :
    (.constructorSlot n, slotValue parts n) ∈ parts := by
  obtain ⟨v, mem⟩ := h
  unfold slotValue
  have some : parts.filter (·.1 = .constructorSlot n) ≠ [] := by
    refine List.ne_nil_of_mem (List.mem_filter.2 ⟨mem, ?_⟩)
    exact decide_eq_true rfl
  rw [List.getLast?_eq_getLast_of_ne_nil some]
  obtain ⟨inside, target⟩ := List.mem_filter.1 (List.getLast_mem some)
  have last : List.getLast _ some = (.constructorSlot n, (List.getLast _ some).2) :=
    Prod.ext (of_decide_eq_true target) rfl
  exact last ▸ inside

end Destination

namespace CompiledMethod

variable {m : CompiledMethod} {g : Signature} {i : CallContext} {args : List Bindable}
  {parts : List (Destination × Value)}

/-- Parts that were read for the results of a method. -/
abbrev ReadFor (m : CompiledMethod) (parts : List (Destination × Value)) : Prop :=
  List.Forall₂ ResultReading.Yields (m.results.filter ResultReading.isPart) parts

theorem ReadFor.result (read : m.ReadFor parts) {part : Destination × Value} (h : part ∈ parts) :
    ∃ r ∈ m.results, r.target = part.1 ∧ ∃ columns, r.mapping.decode columns = .ok part.2 := by
  obtain ⟨r, hr, target, columns, decoded⟩ := exists_of_forall₂ read h
  exact ⟨r, (List.mem_filter.1 hr).1, target.symm, columns, decoded⟩

/-- No slot of the constructor is left unfilled: its value is one that was read for it. -/
theorem Complete.filled_by (complete : m.Complete g) (read : m.ReadFor parts) {c : BeanClass}
    {index arity : Nat} (plan : m.rowPlan = .bean c (.constructor index arity)) {n : Nat}
    (low : 1 ≤ n) (high : n ≤ arity) :
    (.constructorSlot n, Destination.slotValue parts n) ∈ parts := by
  obtain ⟨r, hr, target⟩ := complete.filled c index arity plan n low high
  have part : r.isPart = true := by
    unfold ResultReading.isPart
    rw [target]
  obtain ⟨found, mem, same, -⟩ := exists_of_forall₂_left read (List.mem_filter.2 ⟨hr, part⟩)
  refine Destination.slotValue_mem ⟨found.2, ?_⟩
  rw [← target, ← same]
  exact mem

/-- The class has the fresh instance or the constructor of the plan. -/
theorem Complete.assemble_error (complete : m.Complete g) {c : BeanClass} {origin : InstanceOrigin}
    (plan : m.rowPlan = .bean c origin) (read : m.ReadFor parts) {e : ConversionFailure}
    (h : c.assemble origin parts = .error e) : m.Cause i args (.conversion e) := by
  rcases bind_eq_error.1 h with h | ⟨b, -, h⟩
  · cases origin with
    | fresh =>
      obtain ⟨b, hb⟩ := complete.fresh c plan
      unfold BeanClass.construct at h
      rw [hb] at h
      cases h
    | constructor index arity =>
      obtain ⟨constructor, found, -⟩ := complete.constructor c index arity plan
      unfold BeanClass.construct at h
      dsimp only at h
      rw [found] at h
      -- the constructor is there and its slots are filled, so it has refused what it was given
      have filled (n : Nat) (low : 1 ≤ n) (high : n ≤ arity) :=
        read.result (complete.filled_by read plan low high)
      exact .building plan found filled h
  · obtain ⟨path, v, b', mem, failed⟩ := Destination.writeFields_eq_error h
    obtain ⟨r, hr, target, -⟩ := read.result mem
    exact .writing hr target (complete.path r hr path target) failed

/-! ## Rows -/

variable {column : ColumnReader}

theorem meets_key (complete : m.Complete g) (safe : column.Safe (m.Cause i args))
    (map : m.returns = .map) : (m.readMapKey column).Meets (m.Cause i args) fun _ => True := by
  obtain ⟨r, found, -⟩ := complete.key map
  have mem : r ∈ m.results := by
    obtain ⟨index, -, at'⟩ := Option.bind_eq_some_iff.1 found
    exact List.mem_of_getElem? at'
  unfold readMapKey
  rw [found]
  have decoding (columns : List Value) (e : ConversionFailure)
      (failed : r.mapping.decode columns = .error e) : m.Cause i args (.conversion e) :=
    .decoding mem failed
  exact (SlotMapping.meets_read safe decoding).bind fun v _ => meets_pure trivial

/-- A result is put together from what the plan names. -/
theorem meets_readResult (complete : m.Complete g) (safe : column.Safe (m.Cause i args)) :
    (m.readResult column).Meets (m.Cause i args) fun _ => True := by
  have decoding (r : ResultReading) (mem : r ∈ m.results) (columns : List Value)
      (e : ConversionFailure) (failed : r.mapping.decode columns = .error e) :
      m.Cause i args (.conversion e) := .decoding mem failed
  unfold readResult
  cases plan : m.rowPlan with
  | none => exact meets_pure trivial
  | atomic index =>
    obtain ⟨r, found, -⟩ := complete.column index plan
    dsimp only
    rw [found]
    have mem := List.mem_of_getElem? found
    exact (SlotMapping.meets_read safe (decoding r mem)).bind fun v _ => meets_pure trivial
  | bean c origin =>
    refine (ResultReading.meets_readParts safe decoding).bind fun parts read => ?_
    cases assembled : c.assemble origin parts with
    | ok b => exact meets_pure trivial
    | error e => exact meets_fail (complete.assemble_error plan read assembled)

theorem meets_readRows {α : Type} {cause : QueryFailure → Prop} {row : Dialogue α}
    (h : row.Meets cause fun _ => True) : ∀ n, (readRows row n).Meets cause fun _ => True
  | 0 => meets_request_bind fun _ => meets_pure trivial
  | n + 1 => meets_request_bind fun _ => h.bind fun _ _ => (meets_readRows h n).bind fun _ _ =>
      meets_pure trivial

theorem safe_column {cause : QueryFailure → Prop} : ColumnReader.Safe CompiledMethod.column cause :=
  fun _ _ => meets_request fun _ => trivial

theorem meets_readSingle (complete : m.Complete g) {nullable : Bool}
    (one : m.returns = .one nullable) (rows : Nat) :
    (m.readSingle nullable rows).Meets (m.Cause i args) fun _ => True := by
  unfold readSingle
  refine meets_request_bind fun _ => ?_
  split
  · split
    · exact meets_pure trivial
    · next plain =>
      rw [Bool.not_eq_true] at plain
      rw [plain] at one
      exact meets_fail (.noRow one)
  · refine (meets_readResult complete safe_column).bind fun d _ => meets_request_bind fun _ => ?_
    split
    · exact meets_fail (.moreRows one)
    · exact meets_pure trivial

theorem meets_readRowsAs (complete : m.Complete g) :
    (m.readRowsAs i).Meets (m.Cause i args) fun _ => True := by
  have row : (m.readResult column).Meets (m.Cause i args) fun _ => True :=
    meets_readResult complete safe_column
  have fetch (rows : Nat) : (i.provider.fetchSize rows).Meets (m.Cause i args) fun _ => True := by
    unfold Provider.fetchSize
    split
    · exact meets_request fun _ => trivial
    · exact meets_pure trivial
  unfold readRowsAs
  cases returns : m.returns with
  | one nullable =>
    exact (fetch _).bind fun _ _ => Meets.onRows fun rows => meets_readSingle complete returns rows
  | map =>
    have entry : m.readEntry.Meets (m.Cause i args) fun _ => True :=
      (meets_key complete safe_column returns).bind fun _ _ => row.bind fun _ _ => meets_pure trivial
    exact (fetch _).bind fun _ _ => Meets.onRows fun rows =>
      (meets_readRows entry rows).bind fun _ _ => meets_pure trivial
  | unit | count | counts | many =>
    exact (fetch _).bind fun _ _ => Meets.onRows fun rows =>
      (meets_readRows row rows).bind fun _ _ => meets_pure trivial

/-! ## OUT parameters -/

theorem meets_registerResults {cause : QueryFailure → Prop} {p : Provider}
    (noOut : p.supports .registerOut = false → cause (.statement Provider.noOutParameters)) :
    ∀ rs : List ResultReading, (registerResults p rs).Meets cause fun _ => True
  | [] => meets_pure trivial
  | r :: rest => by
    have one (x : Nat × SlotType) : (p.registerOut x.1 x.2).Meets cause fun _ => True := by
      unfold Provider.registerOut
      split
      · exact meets_request fun _ => trivial
      · next unsupported =>
        rw [Bool.not_eq_true] at unsupported
        exact meets_fail (noOut unsupported)
    exact (meets_forM one _).bind fun _ _ => meets_registerResults noOut rest

theorem safe_outValue {cause : QueryFailure → Prop} {p : Provider}
    (noOut : p.supports .outValue = false → cause (.statement Provider.noOutParameters)) :
    ColumnReader.Safe p.outValue cause := by
  intro slot type
  unfold Provider.outValue
  split
  · exact meets_request fun _ => trivial
  · next unsupported =>
    rw [Bool.not_eq_true] at unsupported
    exact meets_fail (noOut unsupported)

/-! ## Calls -/

/-- No bind slot of a select is moved out of range. -/
theorem meets_select (complete : m.Complete g) (shaped : g.Shaped args)
    (alone : m.batchPosition = none)
    (consecutive : SlotMapping.Consecutive 1 (m.parameters.map (·.mapping)))
    (fits : ∀ es, m.encode args none = .ok es → ∀ e ∈ es, e.Fits)
    (small : ∀ es, m.encode args none = .ok es → FilledParameter.total es < 2 ^ 63) :
    (m.select i args).Meets (m.Cause i args) fun _ => True := by
  have placed {es : List FilledParameter} (filled : m.encode args none = .ok es) :
      SlotMapping.Consecutive 1 (es.map (·.parameter.mapping)) := by
    have same := (encode_eq_ok filled).1
    rwa [← same, List.map_map] at consecutive
  unfold select
  cases prepared : m.readySelect i args with
  | error e =>
    refine meets_fail ?_
    rcases readySelect_eq_error prepared with refused | ⟨es, filled, moved⟩ |
      ⟨es, sql, bounds, -, -, asked, none, rfl⟩
    · exact complete.encode_error shaped refused (fun _ => alone) nofun
    · -- slots that follow one another are moved by less than a word
      have size : UInt64.size = 2 ^ 64 := rfl
      have few := small es filled
      obtain ⟨text, written⟩ := FilledParameter.expandFrom_ok es 1 1 0 m.sql (placed filled)
        (fits es filled) rfl Nat.one_pos (by omega)
      cases written.symm.trans moved
    · have page : i.bounds? = some bounds := asked
      exact .unpaged (by rw [page]; rfl) none
  | ok ready =>
    have filled := encode_of_ready prepared
    refine Meets.onConnection (Meets.onStatement ?_)
    rw [ready_bind prepared consecutive (fits _ filled) (small _ filled)]
    exact (meets_bindPaged _ _ _).bind fun _ _ => meets_readRowsAs complete

theorem meets_update (complete : m.Complete g) (shaped : g.Shaped args)
    (alone : m.batchPosition = none) (places : m.Places) :
    (m.update i args).Meets (m.Cause i args) fun _ => True := by
  unfold update
  cases filled : m.encode args none with
  | error e => exact meets_fail (complete.encode_error shaped filled (fun _ => alone) nofun)
  | ok es =>
    refine Meets.onConnection (Meets.onStatement ?_)
    exact (meets_bindParameters (places filled)).bind fun _ _ => meets_request_bind fun _ =>
      meets_pure trivial

theorem meets_call (complete : m.Complete g) (shaped : g.Shaped args)
    (alone : m.batchPosition = none) (places : m.Places) :
    (m.call i args).Meets (m.Cause i args) fun _ => True := by
  have execute : (i.provider.execute).Meets (m.Cause i args) fun _ => True := by
    unfold Provider.execute
    split
    · exact meets_request fun _ => trivial
    · exact meets_request_bind fun _ => meets_pure trivial
  have results : (do
      registerResults i.provider m.results
      i.provider.execute
      let datum ← m.readResult i.provider.outValue
      pure (Output.one datum)).Meets (m.Cause i args) fun _ => True := by
    refine (meets_registerResults (fun none => .noOut (.inl none)) _).bind fun _ _ => ?_
    refine execute.bind fun _ _ => ?_
    have read : (m.readResult i.provider.outValue).Meets (m.Cause i args) fun _ => True :=
      meets_readResult complete (safe_outValue fun none => .noOut (.inr none))
    exact read.bind fun _ _ => meets_pure trivial
  unfold call
  cases filled : m.encode args none with
  | error e => exact meets_fail (complete.encode_error shaped filled (fun _ => alone) nofun)
  | ok es =>
    refine Meets.onConnection (Meets.onStatement ?_)
    refine (meets_bindParameters (places filled)).bind fun _ _ => ?_
    cases m.rowPlan with
    | none => exact meets_request_bind fun _ => meets_pure trivial
    | atomic _ | bean _ _ => exact results

/-! ## Batches -/

theorem meets_runEntries (complete : m.Complete g) (shaped : g.Shaped args) (places : m.Places)
    (size : Nat) : ∀ (items : List Bindable) (pending : Nat), (∀ item ∈ items, m.Queued args item) →
      (m.runEntries size args pending items).Meets (m.Cause i args) fun _ => True
  | [], pending, _ => by
    unfold runEntries
    split
    · exact meets_request fun _ => trivial
    · exact meets_pure trivial
  | item :: rest, pending, queued => by
    obtain ⟨first, others⟩ := List.forall_mem_cons.1 queued
    have ih := fun pending => meets_runEntries complete shaped places size rest pending others
    have entry : (m.bindEntry args item).Meets (m.Cause i args) fun _ => True := by
      have encoded : (ofExcept (m.encode args (some item))).Meets (m.Cause i args)
          fun es => m.encode args (some item) = .ok es := by
        refine meets_ofExcept (fun _ filled => filled) fun e refused => ?_
        have queued : ∀ item', some item = some item' → m.Queued args item' := by
          intro item' same
          cases same
          exact first
        have queues (alone : some item = none) : m.batchPosition = none := by cases alone
        exact complete.encode_error shaped refused queues queued
      exact encoded.bind fun es filled => meets_bindParameters (places filled)
    unfold runEntries
    refine entry.bind fun _ _ => ?_
    split
    · exact meets_request_bind fun _ => (ih pending).bind fun _ _ => meets_pure trivial
    · refine meets_request_bind fun _ => ?_
      split
      · exact meets_request_bind fun _ => (ih 0).bind fun _ _ => meets_pure trivial
      · exact ih (pending + 1)

/-- The batch argument is there and a list, or a null for an empty one. -/
theorem Complete.batchItems (complete : m.Complete g) (shaped : g.Shaped args)
    (batched : m.isBatched = true) :
    ∃ items, m.batchItems args = .ok items ∧ ∀ item ∈ items, m.Queued args item := by
  obtain ⟨position, hp⟩ := Option.isSome_iff_exists.1 batched
  obtain ⟨a, ha, elements⟩ := complete.batch position hp
  unfold CompiledMethod.batchItems
  rw [hp, Option.bind_some]
  rcases shaped.lists ha elements with null | ⟨items, list⟩
  · rw [null]
    exact ⟨[], rfl, nofun⟩
  · rw [list]
    exact ⟨items, rfl, fun item mem => ⟨position, items, hp, list, mem⟩⟩

theorem meets_batch (complete : m.Complete g) (shaped : g.Shaped args)
    (batched : m.isBatched = true) (places : m.Places) :
    (m.batch i args).Meets (m.Cause i args) fun _ => True := by
  obtain ⟨items, listed, queued⟩ := complete.batchItems shaped batched
  unfold batch
  rw [listed]
  refine Meets.onConnection (Meets.onStatement ?_)
  exact (meets_runEntries complete shaped places _ items 0 queued).bind fun _ _ =>
    meets_pure trivial

theorem meets_mutation (mutation : m.kind ≠ .select) (complete : m.Complete g)
    (shaped : g.Shaped args) (places : m.Places) :
    (m.execute i args).Meets (m.Cause i args) fun _ => True := by
  rw [execute_mutation mutation]
  cases batched : m.isBatched with
  | true => exact meets_batch complete shaped batched places
  | false =>
    have alone : m.batchPosition = none := Option.not_isSome_iff_eq_none.1 (by
      unfold isBatched at batched
      rw [batched]
      exact Bool.false_ne_true)
    rw [if_neg Bool.false_ne_true]
    split
    · exact meets_call complete shaped alone places
    · exact meets_update complete shaped alone places

end CompiledMethod

/-! ## Accepted methods -/

/-- What compiling establishes, running never finds missing. Take an accepted method and arguments
as they are declared. Whatever its parameters, results, key and plan name is there; whatever is
read for a constructor, none of its slots is left to be a null; and whatever the database answers,
a failure that the database does not report has a cause in the values, in the number of rows, or in
what the provider does not support. Slots are 64-bit words, and there are fewer than 2 ^ 63 values. -/
theorem MethodDeclaration.nothing_found_missing {d : MethodDeclaration} {catalog : Catalog}
    {adapters : AdapterTable} {interface : String} {m : CompiledMethod}
    (h : d.compile catalog adapters interface = .ok m) (words : m.bindCount < UInt64.size)
    {args : List Bindable} (shaped : d.signature.Shaped args)
    (small : ∀ es, m.encode args none = .ok es → FilledParameter.total es < 2 ^ 63) :
    m.Complete d.signature ∧
    (∀ (column : ColumnReader) (c : BeanClass) (index arity : Nat),
      m.rowPlan = .bean c (.constructor index arity) →
      (ResultReading.readParts column m.results).Always fun _ r => ∀ parts, r = .ok parts →
        ∀ n, 1 ≤ n → n ≤ arity →
          (.constructorSlot n, Destination.slotValue parts n) ∈ parts) ∧
    ∀ (i : CallContext) {σ : Type} (respond : Responder σ) (state : σ) (e : QueryFailure),
      .failed e ∈ ((m.execute i args).run respond state).steps → m.Cause i args e := by
  have compiled := mapError_eq_ok.1 h
  obtain ⟨t, resolved, -, source⟩ := MethodScope.compile_resolvedFrom compiled
  have complete : m.Complete d.signature := source.complete
  refine ⟨complete, fun column c index arity plan => ?_, fun i σ respond state e failed => ?_⟩
  · have safe : column.Safe fun _ => True := fun slot type => meets_any (column slot type)
    have read : (ResultReading.readParts column m.results).Meets (fun _ => True) m.ReadFor :=
      ResultReading.meets_readParts safe fun _ _ _ _ _ => trivial
    refine Always.mono read fun s r hr parts ok n low high => ?_
    exact complete.filled_by (hr.2 parts ok) plan low high
  · have meets : (m.execute i args).Meets (m.Cause i args) fun _ => True := by
      by_cases select : d.kind = .select
      · have kind : m.kind = .select := source.kind.trans select
        have alone : m.batchPosition = none :=
          (Except.ok.inj ((MethodScope.batchPosition_select select).symm.trans source.batch)).symm
        obtain ⟨consecutive, widths⟩ := MethodScope.compile_consecutive select compiled
        rw [CompiledMethod.execute_select kind]
        exact CompiledMethod.meets_select complete shaped alone consecutive
          (fun es filled => CompiledMethod.fits_of_widths widths filled) small
      · have mutation : m.kind ≠ .select := by
          rw [source.kind]
          exact select
        exact CompiledMethod.meets_mutation mutation complete shaped
          (MethodScope.compile_places select compiled words)
    exact (meets.run respond state).1 e failed

/-- Entries of a ledger by their keys, made of a number and a text. -/
def Sample.entriesById : MethodDeclaration :=
  { name := "entries_by_id"
    kind := .select
    template := "SELECT \x7b%%,%*\x7d, \x7bstring %%2\x7d, \x7blong %%1\x7d FROM t WHERE id IN (\x7b%ids\x7d)"
    signature :=
      { arguments := [⟨some "ids", .collection, ⟨.scalar .long, false⟩⟩]
        returns := .map ⟨.scalar .long, false⟩ ⟨.bean "Multi", false⟩ } }

theorem Sample.entriesById_found :
    let args : List Bindable := [.list [.value (.long 7), .value (.long 8)]]
    ∃ m c, Sample.entriesById.compile Sample.catalog ⟨[]⟩ "Ledger" = .ok m ∧
      m.rowPlan = .bean c (.constructor 1 2) ∧ m.Complete Sample.entriesById.signature ∧
      (∀ column : ColumnReader, (ResultReading.readParts column m.results).Always fun _ r =>
        ∀ parts, r = .ok parts → (.constructorSlot 2, Destination.slotValue parts 2) ∈ parts) ∧
      ∀ (i : CallContext) {σ : Type} (respond : Responder σ) (state : σ) (e : QueryFailure),
        .failed e ∈ ((m.execute i args).run respond state).steps → m.Cause i args e := by
  intro args
  have checked : (match Sample.entriesById.compile Sample.catalog ⟨[]⟩ "Ledger" with
      | .ok m => decide (m.bindCount < UInt64.size) &&
          (match m.rowPlan with
          | .bean _ (.constructor index arity) => decide (index = 1 ∧ arity = 2)
          | _ => false) &&
          match m.encode args none with
          | .ok es => decide (FilledParameter.total es < 2 ^ 63)
          | .error _ => false
      | .error _ => false) = true := by decide +kernel
  cases h : Sample.entriesById.compile Sample.catalog ⟨[]⟩ "Ledger" with
  | error e => rw [h] at checked; cases checked
  | ok m =>
    rw [h] at checked
    simp only [Bool.and_eq_true] at checked
    obtain ⟨⟨words, built⟩, few⟩ := checked
    have small (es : List FilledParameter) (filled : m.encode args none = .ok es) :
        FilledParameter.total es < 2 ^ 63 := by
      rw [filled] at few
      exact of_decide_eq_true few
    have shaped : Sample.entriesById.signature.Shaped args := by
      refine ⟨rfl, fun {position a} ha _ => ?_⟩
      cases position with
      | zero => exact .inr ⟨_, rfl⟩
      | succ n => cases ha
    obtain ⟨complete, slots, causes⟩ := MethodDeclaration.nothing_found_missing h
      (of_decide_eq_true words) shaped small
    split at built
    · next c index arity plan =>
      obtain ⟨rfl, rfl⟩ := of_decide_eq_true built
      refine ⟨m, c, rfl, plan, complete, fun column => ?_, causes⟩
      refine Dialogue.Always.mono (slots column c 1 2 plan) fun _ _ hr parts ok => ?_
      exact hr parts ok 2 (Nat.le_succ 1) (Nat.le_refl 2)
    · cases built

end QueryMethods
