/-
Values and slots stay side by side. An element is encoded to one value for each slot or not at all,
whether it is null, a built-in value or left to a codec, so that the values of a list are those of
its elements one after the other, and the place of a value among them tells its slot. What a call
binds are such values, and a null among them has the type code of its own slot.
-/
import QueryMethods.Proofs.Execution.Bindings
import QueryMethods.Proofs.Method.Nulls
import QueryMethods.Proofs.Method.Resolved

namespace QueryMethods

open Dialogue

/-! ## Types of nulls -/

namespace FilledParameter

/-- The type code of a null is that of the slot it is in, every element having the same slots. -/
theorem nullType_eq {types : List SlotType} {index : Nat} {type : SlotType}
    (h : types[index % types.length]? = some type) : nullType types index = type := by
  obtain ⟨small, -⟩ := List.getElem?_eq_some_iff.1 h
  have wide : max types.length 1 = types.length := by omega
  unfold nullType
  rw [wide, h]
  rfl

theorem getElem?_typed (types : List SlotType) : ∀ (index : Nat) (vs : List Value) (k : Nat),
    (typed types index vs)[k]? = vs[k]?.map fun v => (v, nullType types (index + k))
  | _, [], _ => rfl
  | _, _ :: _, 0 => rfl
  | index, _ :: rest, k + 1 => by
    have ih := getElem?_typed types (index + 1) rest k
    rw [Nat.add_right_comm] at ih
    exact ih

theorem typed_append (types : List SlotType) (behind : List Value) : ∀ (index : Nat)
    (vs : List Value), typed types index (vs ++ behind) =
      typed types index vs ++ typed types (index + vs.length) behind
  | _, [] => rfl
  | index, v :: rest => by
    have ih := typed_append types behind (index + 1) rest
    rw [Nat.add_right_comm] at ih
    exact congrArg ((v, nullType types index) :: ·) ih

/-- Behind whole elements the values of an element are typed slot by slot. -/
theorem typed_element {types : List SlotType} {vs : List Value} (length : vs.length = types.length)
    (n : Nat) : typed types (n * types.length) vs = vs.zip types := by
  refine List.ext_getElem? fun k => ?_
  rw [getElem?_typed, List.zip, List.getElem?_zipWith]
  by_cases inside : k < types.length
  · have type : types[(n * types.length + k) % types.length]? = some types[k] := by
      rw [Nat.mul_add_mod_self_right, Nat.mod_eq_of_lt inside]
      exact List.getElem?_eq_getElem inside
    rw [nullType_eq type, List.getElem?_eq_getElem inside]
    cases vs[k]? <;> rfl
  · rw [List.getElem?_eq_none (by omega : vs.length ≤ k)]
    rfl

/-- The values of elements are typed element by element. -/
theorem typed_elements {types : List SlotType} : ∀ {chunks : List (List Value)} (n : Nat),
    (∀ chunk ∈ chunks, chunk.length = types.length) →
    typed types (n * types.length) chunks.flatten = chunks.flatMap (·.zip types)
  | [], _, _ => rfl
  | chunk :: rest, n, widths => by
    obtain ⟨width, others⟩ := List.forall_mem_cons.1 widths
    have ih := typed_elements (n + 1) others
    rw [Nat.succ_mul] at ih
    rw [List.flatten_cons, typed_append, width, ih, typed_element width, List.flatMap_cons]

end FilledParameter

/-! ## Values in order -/

namespace ParameterBinding

variable {p : ParameterBinding} {source item : Bindable} {values : List Value}

/-- The values of an argument: one for each slot of each of its elements, element after element and
slot after slot. In this order each value is typed by its own slot. -/
structure Lays (p : ParameterBinding) (source : Bindable) (values : List Value) : Prop where
  length : values.length = (p.elements source).length * p.mapping.conversion.width
  chunks : ∃ chunks, List.Forall₂ (fun item chunk => p.encodeElement item = .ok chunk ∧
      chunk.length = p.mapping.conversion.width) (p.elements source) chunks ∧
    values = chunks.flatten ∧
    FilledParameter.typed p.mapping.conversion.slotTypes 0 values =
      chunks.flatMap (·.zip p.mapping.conversion.slotTypes)

/-- Whatever is encoded is laid out slot by slot. -/
theorem lays_of_encode (h : p.encode source = .ok values) : p.Lays source values := by
  obtain ⟨chunks, each, rfl⟩ := encode_elements h
  have both := each.imp fun _ _ hv => And.intro hv (encodeElement_length hv)
  have widths : ∀ chunk ∈ chunks, chunk.length = p.mapping.conversion.width := by
    intro chunk mem
    obtain ⟨-, -, -, width⟩ := exists_of_forall₂ both mem
    exact width
  refine ⟨?_, chunks, both, rfl, ?_⟩
  · rw [List.length_flatten, List.map_congr_left widths, List.map_const', List.sum_replicate,
      smul_eq_mul, each.length_eq]
  · rw [Conversion.width_eq] at widths
    have typed := FilledParameter.typed_elements 0 widths
    rwa [Nat.zero_mul] at typed

/-- A place among the values lies in a slot of its element. -/
theorem exists_slotType {k : Nat} {v : Value} (h : p.encode source = .ok values)
    (value : values[k]? = some v) : ∃ type,
      p.mapping.conversion.slotTypes[k % p.mapping.conversion.width]? = some type := by
  have pos : 0 < p.mapping.conversion.width := by
    rcases Nat.eq_zero_or_pos p.mapping.conversion.width with zero | pos
    · -- without slots there are no values at all
      have none := (lays_of_encode h).length
      rw [zero, Nat.mul_zero] at none
      rw [List.eq_nil_of_length_eq_zero none] at value
      cases value
    · exact pos
  have small := Nat.mod_lt k pos
  rw [Conversion.width_eq] at small ⊢
  exact ⟨_, List.getElem?_eq_getElem small⟩

/-! ## Codecs that break the rule -/

/-- A codec spreads what the element holds over more or fewer values than it has slots. -/
structure Miscounts (p : ParameterBinding) (item : Bindable) (codec : Codec) (given : List Value) :
    Prop where
  adapter : p.mapping.conversion = .adapter codec
  split : ∃ v, p.path.read item = .ok (.value v) ∧ v ≠ .null ∧ codec.split v = .ok given
  count : given.length ≠ codec.width

variable {codec : Codec} {given : List Value}

/-- The failure says how many values there were for how many slots. -/
theorem Miscounts.encodeElement (h : p.Miscounts item codec given) :
    p.encodeElement item = .error (.adapter (codec.key ++ " encoded " ++ toString given.length ++
      " values for " ++ toString codec.width ++ " slots")) := by
  obtain ⟨v, read, value, split⟩ := h.split
  have asked : p.encodeElement item = codec.encode v := by
    unfold ParameterBinding.encodeElement
    rw [read, h.adapter]
    cases v <;> first | rfl | exact absurd rfl value
  rw [asked]
  unfold Codec.encode
  rw [split]
  exact if_neg h.count

/-- An element that is refused has its argument refused. -/
theorem encode_refused {e : ConversionFailure} (mem : item ∈ p.elements source)
    (refused : p.encodeElement item = .error e) : ∃ e, p.encode source = .error e := by
  cases encoded : p.encode source with
  | error e => exact ⟨e, rfl⟩
  | ok values =>
    obtain ⟨chunks, each, -⟩ := encode_elements encoded
    obtain ⟨chunk, -, hc⟩ := exists_of_forall₂_left each mem
    rw [refused] at hc
    cases hc

end ParameterBinding

namespace CompiledMethod

variable {m : CompiledMethod} {args : List Bindable} {element : Option Bindable}
  {es : List FilledParameter}

/-- An argument that is refused has the call refused. -/
theorem encode_refused {p : ParameterBinding} {source : Bindable} {e : ConversionFailure}
    (hp : p ∈ m.parameters) (stands : m.source? args element p.argument = some source)
    (refused : p.encode source = .error e) : ∃ e, m.encode args element = .error e := by
  cases filled : m.encode args element with
  | error e => exact ⟨e, rfl⟩
  | ok es =>
    obtain ⟨x, -, hx⟩ := exists_of_forall₂_left (mapM_eq_ok.1 filled) hp
    rw [encodeParameter_eq stands, refused] at hx
    cases hx

/-- Parameters are filled from the arguments or, in a batch, from the element. -/
theorem encode_sources (filled : m.encode args element = .ok es) :
    List.Forall₂ (fun p e => e.parameter = p ∧ ∃ source,
      m.source? args element p.argument = some source ∧ p.encode source = .ok e.values)
      m.parameters es := by
  refine (mapM_eq_ok.1 filled).imp fun p e he => ?_
  cases stands : m.source? args element p.argument with
  | none =>
    rw [encodeParameter_missing stands] at he
    cases he
  | some source =>
    rw [encodeParameter_eq stands] at he
    obtain ⟨values, encoded, rfl⟩ := map_eq_ok.1 he
    exact ⟨rfl, source, rfl, mapError_eq_ok.1 encoded⟩

end CompiledMethod

/-! ## Places of values -/

/-- A value of a filled parameter stands at a slot. Its place among the values of the parameter
tells the slot, which the lists before have moved, and modulo the slots of an element the type. -/
inductive FilledParameter.Stands (base : Int) (es : List FilledParameter) :
    Nat → Value → SlotType → Prop
  | intro {front behind : List FilledParameter} {e : FilledParameter} {first k : Nat} {v : Value}
      {type : SlotType} (split : es = front ++ e :: behind)
      (moved : e.parameter.movedSlot (base + (front.map growth).sum) = .ok first)
      (value : e.values[k]? = some v)
      (own : e.parameter.mapping.conversion.slotTypes[k % e.parameter.mapping.conversion.width]? =
        some type) : Stands base es ((first + k) % UInt64.size) v type

namespace FilledParameter

section

variable {A : Event → Prop}

theorem sequential_bindSlots_of (types : List SlotType) : ∀ (slot index : Nat) (vs : List Value),
    slot < UInt64.size → (∀ k v, vs[k]? = some v → A ((SlotContent.ofTyped
      (v, nullType types (index + k))).request ((slot + k) % UInt64.size))) →
    Sequential A (bindSlots types slot index vs)
  | _, _, [], _, _ => sequential_pure _
  | slot, index, v :: rest, word, each => by
    have first := each 0 v rfl
    rw [Nat.add_zero, Nat.add_zero, Nat.mod_eq_of_lt word] at first
    have others := sequential_bindSlots_of types (nextSlot slot) (index + 1) rest
      (Nat.mod_lt _ (by decide)) fun k w hw => by
        -- the slots of a list wrap around at the end of a word
        have next : (nextSlot slot + k) % UInt64.size = (slot + (k + 1)) % UInt64.size := by
          unfold nextSlot
          rw [Nat.mod_add_mod, Nat.add_assoc, Nat.add_comm 1 k]
        rw [next, Nat.add_right_comm]
        exact each (k + 1) w hw
    unfold bindSlots
    unfold SlotContent.ofTyped at first
    dsimp only at first ⊢
    split
    · next null =>
      rw [if_pos null] at first
      exact (sequential_request first).bind fun _ => others
    · next null =>
      rw [if_neg null] at first
      exact (sequential_request first).bind fun _ => others

theorem sequential_bindFrom_of : ∀ (es : List FilledParameter) (shift : Int),
    (∀ front e behind first k v, es = front ++ e :: behind →
      e.parameter.movedSlot (shift + (front.map growth).sum) = .ok first → e.values[k]? = some v →
      A ((SlotContent.ofTyped (v, nullType e.parameter.mapping.conversion.slotTypes k)).request
        ((first + k) % UInt64.size))) → Sequential A (bindFrom shift es)
  | [], _, _ => sequential_pure _
  | e :: rest, shift, each => by
    unfold bindFrom
    cases moved : e.parameter.movedSlot shift with
    | error failure => exact sequential_fail failure
    | ok first =>
      have word : first < UInt64.size := (ParameterBinding.movedSlot_eq_ok.1 moved).2.2
      have own := sequential_bindSlots_of (A := A) e.parameter.mapping.conversion.slotTypes first 0 e.values
        word fun k v value => by
          rw [Nat.zero_add]
          refine each [] e rest first k v rfl ?_ value
          rw [List.map_nil, List.sum_nil, Int.add_zero, moved]
      -- what the lists ahead have grown by is in the shift, the rest of it still in the sum
      have others := sequential_bindFrom_of rest (shift + e.growth)
        fun front x behind first k v split there value => by
          refine each (e :: front) x behind first k v (by rw [split]; rfl) ?_ value
          rw [List.map_cons, List.sum_cons, ← Int.add_assoc]
          exact there
      exact own.bind fun _ => others.bind fun _ => sequential_pure _

/-- What parameters are bound to are values in their places. -/
theorem sequential_bindFrom_stands {es : List FilledParameter} {base : Int}
    (encoded : ∀ e ∈ es, ∃ source, e.parameter.encode source = .ok e.values)
    (each : ∀ slot v type, Stands base es slot v type →
      A ((SlotContent.ofTyped (v, type)).request slot)) : Sequential A (bindFrom base es) := by
  refine sequential_bindFrom_of es base fun front e behind first k v split moved value => ?_
  obtain ⟨source, encoded⟩ := encoded e (split ▸ by simp)
  obtain ⟨type, own⟩ := ParameterBinding.exists_slotType encoded value
  have typed : nullType e.parameter.mapping.conversion.slotTypes k = type :=
    nullType_eq (Conversion.width_eq _ ▸ own)
  rw [typed]
  exact each _ v type (.intro split moved value own)

end

end FilledParameter

/-! ## Calls -/

namespace CompiledMethod

/-- The values that a call encodes: those of its arguments or, in a batch, of an element. -/
inductive Encoded (m : CompiledMethod) (args : List Bindable) : List FilledParameter → Prop
  | call {es : List FilledParameter} (filled : m.encode args none = .ok es) : Encoded m args es
  | entry {items : List Bindable} {item : Bindable} {es : List FilledParameter}
      (listed : m.batchItems args = .ok items) (mem : item ∈ items)
      (filled : m.encode args (some item) = .ok es) : Encoded m args es

/-- How many values of the page a select binds before those of its arguments. -/
def pageAhead (m : CompiledMethod) (i : CallContext) : Nat :=
  if m.kind = .select then
    match i.provider.paging with
    | some s => if s.bindBeforeQuery then (i.pageContents s).length else 0
    | none => 0
  else 0

/-- What a call has for a slot: an encoded value that stands there, or a bound of the page. -/
inductive Supplies (m : CompiledMethod) (i : CallContext) (args : List Bindable) :
    Nat → SlotContent → Prop
  | argument {es : List FilledParameter} {slot : Nat} {v : Value} {type : SlotType}
      (encoded : m.Encoded args es) (stands : FilledParameter.Stands (m.pageAhead i) es slot v type) :
      Supplies m i args slot (.ofTyped (v, type))
  | page {s : PagingStrategy} {slot : Nat} {content : SlotContent}
      (given : i.provider.paging = some s) (mem : content ∈ i.pageContents s) :
      Supplies m i args slot content

/-- A request binds nothing but what the call has for the slot. -/
def Supplied (m : CompiledMethod) (i : CallContext) (args : List Bindable) (event : Event) : Prop :=
  ∀ slot content, event.binding? = some (slot, content) → m.Supplies i args slot content

variable {m : CompiledMethod} {i : CallContext} {args : List Bindable} {element : Option Bindable}
  {es : List FilledParameter}

theorem supplied_of_unbound {event : Event} (unbound : event.binding? = none) :
    m.Supplied i args event := by
  intro slot content binding
  rw [unbound] at binding
  cases binding

theorem supplied_request {slot : Nat} {content : SlotContent}
    (h : m.Supplies i args slot content) : m.Supplied i args (content.request slot) := by
  intro slot' content' binding
  rw [SlotContent.binding_request] at binding
  cases binding
  exact h

theorem supplied_within {s : List Step} (unbound : (events s).filterMap Event.binding? = []) :
    Within (m.Supplied i args) s := fun event mem =>
  supplied_of_unbound (List.filterMap_eq_nil_iff.1 unbound event mem)

theorem sequential_bindFrom_supplied (encoded : m.Encoded args es) :
    Sequential (m.Supplied i args) (FilledParameter.bindFrom (m.pageAhead i) es) := by
  refine FilledParameter.sequential_bindFrom_stands ?_ fun slot v type stands =>
    supplied_request (.argument encoded stands)
  cases encoded with
  | call filled | entry _ _ filled => exact (encode_eq_ok filled).2

theorem sequential_bindParameters_supplied (mutation : m.kind ≠ .select)
    (encoded : m.Encoded args es) : Sequential (m.Supplied i args) (bindParameters es) := by
  have bound := sequential_bindFrom_supplied (i := i) encoded
  have ahead : m.pageAhead i = 0 := if_neg mutation
  rw [ahead] at bound
  exact bound.bind fun _ => sequential_pure _

/-- The page of a select is that of its bounds, ahead of the values or behind them. -/
theorem readySelect_paging {ready : ReadySelect} (h : m.readySelect i args = .ok ready) :
    (ready.paging = [] ∧ ready.pagingFirst = false ∧ i.bounds? = none) ∨
      ∃ s, i.provider.paging = some s ∧ ready.paging.map .value = i.pageContents s ∧
        ready.pagingFirst = s.bindBeforeQuery := by
  obtain ⟨es, sql, -, -, readied⟩ := readySelect_eq_ok.1 h
  cases readied with
  | whole unpaged => exact .inl ⟨rfl, rfl, unpaged⟩
  | @page bounds strategy asked given =>
    have contents : i.pageContents strategy = (bounds.bindValues strategy).map .value := by
      unfold CallContext.pageContents CallContext.bounds?
      rw [asked]
    exact .inr ⟨strategy, given, contents.symm, rfl⟩

theorem sequential_bindPage {s : PagingStrategy} (given : i.provider.paging = some s) :
    ∀ (slot : Nat) (page : List Value), (∀ v ∈ page, SlotContent.value v ∈ i.pageContents s) →
      Sequential (m.Supplied i args) (FilledParameter.bindValues slot page)
  | _, [], _ => sequential_pure _
  | slot, v :: rest, each => by
    obtain ⟨first, others⟩ := List.forall_mem_cons.1 each
    have one : m.Supplied i args (.bind slot v) :=
      supplied_request (.page given first : m.Supplies i args slot (.value v))
    unfold FilledParameter.bindValues
    exact (sequential_request one).bind fun _ => sequential_bindPage given (slot + 1) rest others

theorem pageAhead_of_ready {ready : ReadySelect} (kind : m.kind = .select)
    (prepared : m.readySelect i args = .ok ready) :
    m.pageAhead i = if ready.pagingFirst then ready.paging.length else 0 := by
  unfold pageAhead
  rw [if_pos kind]
  rcases readySelect_paging prepared with ⟨-, last, whole⟩ | ⟨s, given, page, order⟩
  · have unpaged (s : PagingStrategy) : i.pageContents s = [] := by
      unfold CallContext.pageContents
      rw [whole]
    rw [last, if_neg Bool.false_ne_true]
    cases i.provider.paging with
    | none => rfl
    | some s =>
      dsimp only
      rw [unpaged, List.length_nil, ite_self]
  · rw [given, order]
    dsimp only
    rw [← page, List.length_map]

theorem sequential_bind_supplied {ready : ReadySelect} (kind : m.kind = .select)
    (prepared : m.readySelect i args = .ok ready) : Sequential (m.Supplied i args) ready.bind := by
  have values := sequential_bindFrom_supplied (i := i) (.call (encode_of_ready prepared))
  have page (slot : Nat) :
      Sequential (m.Supplied i args) (FilledParameter.bindValues slot ready.paging) := by
    rcases readySelect_paging prepared with ⟨unpaged, -⟩ | ⟨s, given, page, -⟩
    · rw [unpaged]
      exact sequential_pure _
    · exact sequential_bindPage given slot _ fun v mem => page ▸ List.mem_map_of_mem mem
  rw [pageAhead_of_ready kind prepared] at values
  unfold ReadySelect.bind
  split
  · next first =>
    rw [if_pos first] at values
    exact (page 1).bind fun _ => values.bind fun _ => sequential_pure _
  · next last =>
    rw [if_neg last] at values
    exact values.bind fun bound => page (bound + 1)

/-- The use of a statement binds nothing but what the call has for each slot. -/
theorem StatementUse.supplied {isCall : Bool} {sql : String} {body : Dialogue Output}
    (h : m.StatementUse i args isCall sql body) :
    body.Always fun s _ => Within (m.Supplied i args) s := by
  have update : m.Supplied i args .executeUpdate := supplied_of_unbound rfl
  have execute : m.Supplied i args .execute := supplied_of_unbound rfl
  cases h with
  | select kind prepared =>
    refine (sequential_bind_supplied kind prepared).within.within_bind fun _ => ?_
    exact (m.readRowsAs_binds_nothing i).mono fun s _ => supplied_within
  | update single _ filled | count single _ filled _ =>
    refine ((sequential_bindParameters_supplied single.1 (.call filled)).bind fun _ => ?_).within
    exact (sequential_request update).bind fun _ => sequential_pure _
  | out single _ filled _ =>
    refine ((sequential_bindParameters_supplied single.1 (.call filled)).bind fun _ => ?_).within
    have registers := sequential_registerResults i.provider
      (fun slot type => (supplied_of_unbound rfl : m.Supplied i args (.registerOut slot type)))
      m.results
    have outs := m.sequential_readResult fun slot type => i.provider.sequential_outValue
      (fun slot type => (supplied_of_unbound rfl : m.Supplied i args (.outValue slot type))) slot type
    exact registers.bind fun _ => (i.provider.sequential_execute execute update).bind fun _ =>
      outs.bind fun _ => sequential_pure _
  | @batch items batched listed =>
    have entry (item : Bindable) (mem : item ∈ items) :
        Sequential (m.Supplied i args) (m.bindEntry args item) := by
      unfold bindEntry
      cases filled : m.encode args (some item) with
      | error e => exact sequential_fail e
      | ok es => exact sequential_bindParameters_supplied batched.1 (.entry listed mem filled)
    exact ((m.sequential_runEntries_of update (supplied_of_unbound rfl) (supplied_of_unbound rfl) _ _ _ _
      entry).bind fun _ => sequential_pure _).within

/-- Whatever the database answers, a call binds nothing but what it has for each slot. -/
theorem always_execute_supplied (m : CompiledMethod) (i : CallContext) (args : List Bindable) :
    (m.execute i args).Always fun s _ => Within (m.Supplied i args) s := by
  rcases m.execute_cases i args with ⟨e, -, he⟩ | ⟨isCall, sql, body, use, he⟩
  · rw [he]
    exact within_failed.2 within_nil
  · have prepare : (i.provider.prepareEvent isCall sql).binding? = none := by
      unfold Provider.prepareEvent
      split <;> rfl
    have pad : ∀ a s b, Within (m.Supplied i args) a → Within (m.Supplied i args) b →
        Within (m.Supplied i args) s → Within (m.Supplied i args) (a ++ s ++ b) :=
      fun _ _ _ ahead behind inside => within_append.2 ⟨within_append.2 ⟨ahead, inside⟩, behind⟩
    rw [he]
    refine always_onConnection_of_pad pad within_nil (supplied_of_unbound rfl)
      (supplied_of_unbound rfl) (supplied_of_unbound rfl) ?_
    exact always_onStatement_of_pad pad within_nil (supplied_of_unbound prepare)
      (supplied_of_unbound rfl) use.supplied

/-- A null that a call binds is an encoded one, with the type code of the slot where it stands. -/
theorem Supplies.null {slot : Nat} {type : SlotType} (h : m.Supplies i args slot (.null type)) :
    ∃ es, m.Encoded args es ∧ FilledParameter.Stands (m.pageAhead i) es slot .null type := by
  generalize null : SlotContent.null type = content at h
  cases h with
  | @argument es slot v type' encoded stands =>
    unfold SlotContent.ofTyped at null
    dsimp only at null
    split at null
    · next isNull =>
      cases null
      rw [Value.isNull_iff.1 isNull] at stands
      exact ⟨es, encoded, stands⟩
    · cases null
  | page given mem =>
    subst null
    unfold CallContext.pageContents at mem
    split at mem
    · cases mem
    · obtain ⟨_, -, value⟩ := List.mem_map.1 mem
      cases value

end CompiledMethod

/-! ## Accepted methods -/

/-- Encoded values and slots are side by side. -/
structure CompiledMethod.Aligned (m : CompiledMethod) : Prop where
  /-- An element takes at least one slot, each with a type code. Without a list to write out the
  statement has just these slots. -/
  slots : ∀ p ∈ m.parameters, 1 ≤ p.mapping.conversion.width ∧
    p.mapping.conversion.slotTypes.length = p.mapping.conversion.width ∧
    (p.isIterated = false → p.mapping.slots.length = p.mapping.conversion.width)
  /-- What is encoded is laid out element after element and slot after slot. -/
  lays : ∀ p ∈ m.parameters, ∀ source values, p.encode source = .ok values → p.Lays source values
  /-- So are the values of a call or of an entry of a batch. -/
  filled : ∀ args element es, m.encode args element = .ok es →
    List.Forall₂ (fun p e => e.parameter = p ∧ ∃ source,
      m.source? args element p.argument = some source ∧ p.Lays source e.values) m.parameters es
  /-- A codec that gives another number of values is a failure, and nothing of the call or of the
  entry is encoded. -/
  refused : ∀ p ∈ m.parameters, ∀ item codec given, p.Miscounts item codec given →
    p.encodeElement item = .error (.adapter (codec.key ++ " encoded " ++ toString given.length ++
      " values for " ++ toString codec.width ++ " slots")) ∧
    ∀ args element source, m.source? args element p.argument = some source →
      item ∈ p.elements source → ∃ e, m.encode args element = .error e
  /-- A null is bound where it stands, with the type code of its own slot. -/
  nulls : ∀ (i : CallContext) (args : List Bindable) {σ : Type} (respond : Dialogue.Responder σ)
    (state : σ) (slot : Nat) (type : SlotType),
    .bindNull slot type ∈ ((m.execute i args).run respond state).events →
      ∃ es, m.Encoded args es ∧ FilledParameter.Stands (m.pageAhead i) es slot .null type
  /-- Any other value is bound where it stands as well. -/
  supplied : ∀ (i : CallContext) (args : List Bindable) {σ : Type}
    (respond : Dialogue.Responder σ) (state : σ),
    ∀ event ∈ ((m.execute i args).run respond state).events, m.Supplied i args event

/-- Values stay side by side with slots in every accepted method: whatever the adapters do, whatever
is null and however long the lists are, an argument is encoded to one value for each slot of each of
its elements, or it is refused, and whatever the database answers, a null is bound with the type
code of the slot that its place among the values falls on. -/
theorem MethodDeclaration.compile_aligned {d : MethodDeclaration} {catalog : Catalog}
    {adapters : AdapterTable} {interface : String} {m : CompiledMethod}
    (h : d.compile catalog adapters interface = .ok m) : m.Aligned := by
  have compiled := mapError_eq_ok.1 h
  obtain ⟨t, resolved, -, source⟩ := MethodScope.compile_resolvedFrom compiled
  have bound (i : CallContext) (args : List Bindable) {σ : Type} (respond : Responder σ)
      (state : σ) : ∀ event ∈ ((m.execute i args).run respond state).events,
        m.Supplied i args event := (m.always_execute_supplied i args).run respond state
  constructor
  case slots =>
    intro p hp
    obtain ⟨x, -, conversion⟩ := exists_of_forall₂ source.parameter_conversions hp
    refine ⟨MethodScope.conversionFor_width conversion, (Conversion.width_eq _).symm, fun once => ?_⟩
    have single : p.mapping.iteration = .single := by simpa [ParameterBinding.isIterated] using once
    rw [MethodScope.compile_slots_length compiled p hp, if_pos single]
  case lays =>
    intro p _ source values encoded
    exact ParameterBinding.lays_of_encode encoded
  case filled =>
    intro args element es filled
    refine (CompiledMethod.encode_sources filled).imp ?_
    rintro p e ⟨same, source, stands, encoded⟩
    exact ⟨same, source, stands, ParameterBinding.lays_of_encode encoded⟩
  case refused =>
    intro p hp item codec given miscounts
    refine ⟨miscounts.encodeElement, fun args element source stands mem => ?_⟩
    obtain ⟨e, refused⟩ := ParameterBinding.encode_refused mem miscounts.encodeElement
    exact CompiledMethod.encode_refused hp stands refused
  case nulls =>
    intro i args σ respond state slot type mem
    exact (bound i args respond state _ mem slot _ rfl).null
  case supplied => exact bound

/-- The nulls of an amount of money that is missing are typed as cents and as a currency. -/
theorem Sample.openAmounts_aligned :
    let adapters : AdapterTable := ⟨[("money", Sample.moneyAdapter)]⟩
    let i : CallContext := ⟨⟨fun _ => true, some Dialect.firebird.strategy⟩, {}, some ⟨20, 10⟩⟩
    let amounts : Bindable := .list [.value (.custom (Sample.money 250 "EUR")), .value .null]
    let args : List Bindable := [amounts, .value (.bool true)]
    ∃ m p, Sample.openAmounts.compile ⟨[]⟩ adapters "Ledger" = .ok m ∧ p ∈ m.parameters ∧
      p.encode amounts = .ok [.long 250, .string "EUR", .null, .null] ∧
      p.Lays amounts [.long 250, .string "EUR", .null, .null] ∧
      ∀ x ∈ [((5 : Nat), SlotType.bigInt), (6, .char)],
        (x.1, SlotContent.null x.2) ∈
          ((m.execute i args).run ScriptedDatabase.respond {}).events.filterMap Event.binding? ∧
        ∃ es, m.Encoded args es ∧ FilledParameter.Stands 2 es x.1 .null x.2 := by
  intro adapters i amounts args
  have checked : (Sample.openAmounts.compile ⟨[]⟩ adapters "Ledger").toOption.any (fun m =>
      decide (m.pageAhead i = 2 ∧ ∀ x ∈ [((5 : Nat), SlotType.bigInt), (6, .char)],
        (x.1, SlotContent.null x.2) ∈
          ((m.execute i args).run ScriptedDatabase.respond {}).events.filterMap Event.binding?) &&
      m.parameters.any fun p => (p.encode amounts).toOption.any fun values =>
        decide (values = [.long 250, .string "EUR", .null, .null])) = true := by decide +kernel
  obtain ⟨m, h, checked⟩ := exists_of_any checked
  obtain ⟨run, checked⟩ := Bool.and_eq_true_iff.1 checked
  obtain ⟨ahead, asked⟩ := of_decide_eq_true run
  obtain ⟨p, hp, checked⟩ := List.any_eq_true.1 checked
  obtain ⟨values, encoded, same⟩ := exists_of_any checked
  cases of_decide_eq_true same
  have aligned := MethodDeclaration.compile_aligned h
  refine ⟨m, p, h, hp, encoded, aligned.lays p hp amounts _ encoded, fun x hx => ⟨asked x hx, ?_⟩⟩
  obtain ⟨event, mem, binding⟩ := List.mem_filterMap.1 (asked x hx)
  have null := (aligned.supplied i args ScriptedDatabase.respond {} event mem _ _ binding).null
  rw [ahead] at null
  exact null

end QueryMethods
