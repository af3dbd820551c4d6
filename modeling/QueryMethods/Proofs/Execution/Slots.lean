/-
Slots in the runs of methods that are no selects. When no step fails, every execution binds each
slot of the parameters once, registers each slot of the OUT results once before it is sent, and
reads exactly these slots back behind it.
-/
import QueryMethods.Proofs.Database.Clean
import QueryMethods.Proofs.Execution.Closing
import QueryMethods.Proofs.Method.Shape
import QueryMethods.Sample.Adapters
import QueryMethods.Scripted

namespace QueryMethods

open Dialogue

/-! ## Requests for slots -/

namespace Event

/-- The slot that a value or a null is bound to. -/
def bindsSlot? : Event → Option Nat
  | bind slot _ => some slot
  | bindNull slot _ => some slot
  | _ => none

/-- The slot that is announced as an OUT parameter. -/
def registersSlot? : Event → Option Nat
  | registerOut slot _ => some slot
  | _ => none

/-- The slot whose OUT value is read. -/
def readsSlot? : Event → Option Nat
  | outValue slot _ => some slot
  | _ => none

end Event

/-- Requests of one kind, one for each of the slots, in their order. -/
def ForSlots (slot? : Event → Option Nat) (slots : List Nat) (log : List Event) : Prop :=
  log.map slot? = slots.map some

section

variable {slot? : Event → Option Nat} {slots slots' : List Nat} {log log' : List Event}

theorem forSlots_nil : ForSlots slot? [] [] := rfl

theorem ForSlots.append (h : ForSlots slot? slots log) (h' : ForSlots slot? slots' log') :
    ForSlots slot? (slots ++ slots') (log ++ log') := by
  unfold ForSlots at *
  rw [List.map_append, List.map_append, h, h']

theorem forSlots_one {event : Event} {slot : Nat} (h : slot? event = some slot) :
    ForSlots slot? [slot] [event] := congrArg (fun x => [x]) h

theorem ForSlots.cons {event : Event} {slot : Nat} (h : slot? event = some slot)
    (h' : ForSlots slot? slots log) : ForSlots slot? (slot :: slots) (event :: log) :=
  (forSlots_one h).append h'

end

/-! ## Binding -/

/-- A value of one parameter for each of its slots, all slots being words. -/
structure FilledParameter.Fills (e : FilledParameter) : Prop where
  single : e.parameter.mapping.iteration = .single
  slots : e.parameter.mapping.slots = List.range' e.parameter.mapping.firstSlot e.values.length
  words : e.parameter.mapping.firstSlot + e.values.length ≤ UInt64.size

namespace FilledParameter

theorem clean_bindSlots (types : List SlotType) : ∀ (slot index : Nat) (vs : List Value),
    slot + vs.length ≤ UInt64.size → (bindSlots types slot index vs).Clean fun _ log =>
      ForSlots Event.bindsSlot? (List.range' slot vs.length) log
  | _, _, [], _ => clean_pure forSlots_nil
  | slot, index, v :: rest, h => by
    have one : (if v.isNull then Dialogue.request (.bindNull slot (nullType types index))
        else Dialogue.request (.bind slot v)).Clean fun _ log =>
          ForSlots Event.bindsSlot? [slot] log := by
      split <;> exact clean_request ⟨nofun, nofun⟩ fun _ => forSlots_one rfl
    have others : (bindSlots types (nextSlot slot) (index + 1) rest).Clean fun _ log =>
        ForSlots Event.bindsSlot? (List.range' (slot + 1) rest.length) log := by
      rw [List.length_cons] at h
      cases rest with
      | nil => exact clean_pure forSlots_nil
      | cons w ws =>
        -- a slot with another one behind it is not the last word
        have next : nextSlot slot = slot + 1 := Nat.mod_eq_of_lt (by rw [List.length_cons] at h; omega)
        rw [next]
        exact clean_bindSlots types (slot + 1) (index + 1) (w :: ws) (by omega)
    unfold bindSlots
    dsimp only
    rw [← apply_ite fun first => first >>= fun _ => bindSlots types (nextSlot slot) (index + 1) rest]
    exact one.bind fun _ _ hl => others.mono fun _ _ hl' => hl.append hl'

theorem clean_bindFrom : ∀ ps : List FilledParameter, (∀ e ∈ ps, e.Fills) →
    (bindFrom 0 ps).Clean fun _ log =>
      ForSlots Event.bindsSlot? (ps.flatMap (·.parameter.mapping.slots)) log
  | [], _ => clean_pure forSlots_nil
  | e :: rest, h => by
    obtain ⟨fills, others⟩ := List.forall_mem_cons.1 h
    have still : (0 : Int) + e.growth = 0 := by
      simp [growth, ParameterBinding.isIterated, fills.single]
    unfold bindFrom
    rw [still, List.flatMap_cons, fills.slots]
    refine Clean.bind (P := fun first log => first = e.parameter.mapping.firstSlot ∧ log = []) ?_ ?_
    · refine clean_ofExcept fun first moved => ⟨?_, rfl⟩
      have here := (ParameterBinding.movedSlot_eq_ok.1 moved).1
      omega
    · rintro _ _ ⟨rfl, rfl⟩
      refine (clean_bindSlots _ _ 0 _ fills.words).bind fun _ _ hl => ?_
      exact (clean_bindFrom rest others).bind fun _ _ hl' => clean_pure (by simpa using hl.append hl')

end FilledParameter

/-! ## Filling -/

theorem Conversion.width_eq (c : Conversion) : c.width = c.slotTypes.length := by
  cases c <;> rfl

theorem Conversion.encode_length {c : Conversion} {v : Value} {vs : List Value}
    (h : c.encode v = .ok vs) : vs.length = c.width := by
  cases c with
  | scalar type =>
    change (type.conform v).map ([·]) = .ok vs at h
    cases hc : type.conform v with
    | error e => rw [hc] at h; cases h
    | ok w => rw [hc] at h; cases h; rfl
  | adapter codec =>
    obtain ⟨values, -, h⟩ := bind_eq_ok.1 h
    split at h
    · next length => cases h; exact length
    · cases h

theorem ParameterBinding.encodeElement_length {p : ParameterBinding} {source : Bindable}
    {vs : List Value} (h : p.encodeElement source = .ok vs) :
    vs.length = p.mapping.conversion.width := by
  obtain ⟨found, -, h⟩ := bind_eq_ok.1 h
  split at h
  · cases h
    exact List.length_replicate
  · exact Conversion.encode_length h
  · cases h
  · cases h

namespace CompiledMethod

theorem encodeParameter_eq_ok {m : CompiledMethod} {args : List Bindable} {element : Option Bindable}
    {p : ParameterBinding} {e : FilledParameter} (h : m.encodeParameter args element p = .ok e) :
    e.parameter = p ∧ ∃ source, e.parameter.encode source = .ok e.values := by
  unfold encodeParameter at h
  dsimp only at h
  split at h
  · cases h
  · next source _ =>
    split at h
    · next values hv => cases h; exact ⟨rfl, source, hv⟩
    · cases h

theorem isBatched_of_position {m : CompiledMethod} {position : Nat}
    (h : m.batchPosition = some position) : m.isBatched = true := by
  unfold isBatched
  rw [h]
  rfl

/-- What is encoded at a position: the argument, or the element of a batch in place of its list. -/
def source? (m : CompiledMethod) (args : List Bindable) (element : Option Bindable)
    (position : Nat) : Option Bindable :=
  if m.batchPosition = some position then element.or args[position]? else args[position]?

theorem encodeParameter_eq {m : CompiledMethod} {args : List Bindable} {element : Option Bindable}
    {p : ParameterBinding} {source : Bindable} (h : m.source? args element p.argument = some source) :
    m.encodeParameter args element p =
      ((p.encode source).mapError .conversion).map fun values => ⟨p, values⟩ := by
  unfold source? at h
  unfold encodeParameter
  cases element with
  | none =>
    rw [Option.none_or, ite_self] at h
    dsimp only
    rw [h]
    dsimp only
    cases p.encode source <;> rfl
  | some item =>
    rw [Option.some_or] at h
    dsimp only
    rw [h]
    dsimp only
    cases p.encode source <;> rfl

theorem encodeParameter_missing {m : CompiledMethod} {args : List Bindable}
    {element : Option Bindable} {p : ParameterBinding}
    (missing : m.source? args element p.argument = none) :
    m.encodeParameter args element p = .error (m.reject (.missingArgument (p.argument + 1))) := by
  unfold source? at missing
  unfold encodeParameter
  cases element with
  | none =>
    rw [Option.none_or, ite_self] at missing
    dsimp only
    rw [missing]
  | some item =>
    rw [Option.some_or] at missing
    dsimp only
    rw [missing]

/-- Parameters are filled one by one. -/
theorem encode_eq_ok {m : CompiledMethod} {args : List Bindable} {element : Option Bindable}
    {encoded : List FilledParameter} (h : m.encode args element = .ok encoded) :
    encoded.map (·.parameter) = m.parameters ∧
      ∀ e ∈ encoded, ∃ source, e.parameter.encode source = .ok e.values := by
  have each := mapM_eq_ok.1 h
  clear h
  generalize m.parameters = ps at each ⊢
  induction each with
  | nil => exact ⟨rfl, List.forall_mem_nil _⟩
  | cons hp _ ih =>
    obtain ⟨rfl, filled⟩ := encodeParameter_eq_ok hp
    exact ⟨congrArg _ ih.1, List.forall_mem_cons.2 ⟨filled, ih.2⟩⟩

section

variable {m : CompiledMethod}

theorem SlotShape.fills (shape : m.SlotShape) (words : m.bindCount < UInt64.size)
    {args : List Bindable} {element : Option Bindable} {encoded : List FilledParameter}
    (h : m.encode args element = .ok encoded) : ∀ e ∈ encoded, e.Fills := by
  obtain ⟨same, filled⟩ := encode_eq_ok h
  intro e he
  have hp : e.parameter ∈ m.parameters := same ▸ List.mem_map_of_mem he
  obtain ⟨single, slots⟩ := shape.parameters _ hp
  obtain ⟨source, hs⟩ := filled e he
  unfold ParameterBinding.encode at hs
  rw [if_pos single] at hs
  have length := ParameterBinding.encodeElement_length hs
  rw [← length] at slots
  refine ⟨single, slots, ?_⟩
  rcases Nat.eq_zero_or_pos e.values.length with zero | pos
  · have : e.parameter.mapping.firstSlot = 0 := by
      show e.parameter.mapping.slots.headD 0 = 0
      rw [slots, zero]
      rfl
    rw [this, zero]
    decide
  · have last := shape.bounded _ hp (e.parameter.mapping.firstSlot + (e.values.length - 1)) (by
      rw [slots, List.mem_range'_1]
      omega)
    omega

theorem SlotShape.clean_bindParameters (shape : m.SlotShape) (words : m.bindCount < UInt64.size)
    {args : List Bindable} {element : Option Bindable} {encoded : List FilledParameter}
    (h : m.encode args element = .ok encoded) :
    (bindParameters encoded).Clean fun _ log =>
      ForSlots Event.bindsSlot? m.parameterSlots log := by
  have bound := FilledParameter.clean_bindFrom encoded (shape.fills words h)
  have slots : encoded.flatMap (·.parameter.mapping.slots) = m.parameterSlots := by
    unfold parameterSlots
    rw [← (encode_eq_ok h).1, List.flatMap_map]
  rw [slots] at bound
  exact bound.bind fun _ _ hl => clean_pure (by simpa using hl)

end

end CompiledMethod

/-! ## OUT parameters -/

section

variable {slot? : Event → Option Nat}

theorem clean_mapM {γ α : Type} {f : γ → Dialogue α} {slot : γ → Nat}
    (hf : ∀ x, (f x).Clean fun _ log => ForSlots slot? [slot x] log) :
    ∀ xs : List γ, (xs.mapM f).Clean fun _ log => ForSlots slot? (xs.map slot) log
  | [] => by rw [List.mapM_nil]; exact clean_pure forSlots_nil
  | x :: xs => by
    rw [List.mapM_cons]
    refine (hf x).bind fun _ _ hl => ?_
    exact (clean_mapM hf xs).bind fun _ _ hl' => clean_pure (by simpa using hl.append hl')

theorem clean_forM {γ : Type} {f : γ → Dialogue Unit} {slot : γ → Nat}
    (hf : ∀ x, (f x).Clean fun _ log => ForSlots slot? [slot x] log) :
    ∀ xs : List γ, (xs.forM f).Clean fun _ log => ForSlots slot? (xs.map slot) log
  | [] => clean_pure forSlots_nil
  | x :: xs => (hf x).bind fun _ _ hl => (clean_forM hf xs).mono fun _ _ hl' => hl.append hl'

end

section

variable (p : Provider)

theorem Provider.clean_registerOut (slot : Nat) (type : SlotType) :
    (p.registerOut slot type).Clean fun _ log => ForSlots Event.registersSlot? [slot] log := by
  unfold Provider.registerOut
  split
  · exact clean_request ⟨nofun, nofun⟩ fun _ => forSlots_one rfl
  · exact clean_fail _

theorem Provider.clean_outValue (slot : Nat) (type : SlotType) :
    (p.outValue slot type).Clean fun _ log => ForSlots Event.readsSlot? [slot] log := by
  unfold Provider.outValue
  split
  · exact clean_request ⟨nofun, nofun⟩ fun _ => forSlots_one rfl
  · exact clean_fail _

theorem Provider.clean_execute :
    p.execute.Clean fun _ log => ∃ send, (send = .execute ∨ send = .executeUpdate) ∧ log = [send] := by
  unfold Provider.execute
  split
  · exact clean_request ⟨nofun, nofun⟩ fun _ => ⟨_, .inl rfl, rfl⟩
  · exact clean_request_bind ⟨nofun, nofun⟩ fun _ => clean_pure ⟨_, .inr rfl, rfl⟩

theorem CompiledMethod.clean_registerResults : ∀ rs : List ResultReading,
    (∀ r ∈ rs, r.mapping.slots.length = r.mapping.conversion.width) →
    (registerResults p rs).Clean fun _ log =>
      ForSlots Event.registersSlot? (rs.flatMap (·.mapping.slots)) log
  | [], _ => clean_pure forSlots_nil
  | r :: rest, h => by
    obtain ⟨length, others⟩ := List.forall_mem_cons.1 h
    have one := clean_forM (fun x : Nat × SlotType => p.clean_registerOut x.1 x.2)
      (r.mapping.slots.zip r.mapping.conversion.slotTypes)
    rw [List.map_fst_zip (length.trans (Conversion.width_eq _)).le] at one
    unfold registerResults
    exact one.bind fun _ _ hl => (clean_registerResults rest others).mono fun _ _ hl' => hl.append hl'

theorem SlotMapping.clean_read {o : SlotMapping}
    (length : o.slots.length = o.conversion.width) :
    (o.read p.outValue).Clean fun _ log => ForSlots Event.readsSlot? o.slots log := by
  have columns := clean_mapM (fun x : Nat × SlotType => p.clean_outValue x.1 x.2)
    (o.slots.zip o.conversion.slotTypes)
  rw [List.map_fst_zip (length.trans (Conversion.width_eq _)).le] at columns
  unfold SlotMapping.read
  refine columns.bind fun values _ hl => ?_
  cases o.decode values with
  | ok v => exact clean_pure (by simpa using hl)
  | error e => exact clean_fail _

theorem ResultReading.clean_readParts : ∀ rs : List ResultReading,
    (∀ r ∈ rs, r.mapping.slots.length = r.mapping.conversion.width) →
    (∀ r ∈ rs, r.target ≠ .whole ∧ r.target ≠ .mapKey) →
    (readParts p.outValue rs).Clean fun _ log =>
      ForSlots Event.readsSlot? (rs.flatMap (·.mapping.slots)) log
  | [], _, _ => clean_pure forSlots_nil
  | r :: rest, h, ht => by
    obtain ⟨length, others⟩ := List.forall_mem_cons.1 h
    obtain ⟨part, parts⟩ := List.forall_mem_cons.1 ht
    have both : (do
        let v ← r.mapping.read p.outValue
        let parts ← readParts p.outValue rest
        pure ((r.target, v) :: parts) : Dialogue (List (Destination × Value))).Clean fun _ log =>
          ForSlots Event.readsSlot? (r.mapping.slots ++ rest.flatMap (·.mapping.slots)) log := by
      refine (SlotMapping.clean_read p length).bind fun _ _ hl => ?_
      exact (clean_readParts rest others parts).bind fun _ _ hl' =>
        clean_pure (by simpa using hl.append hl')
    unfold readParts
    cases target : r.target with
    | field path => rw [target] at both; exact both
    | constructorSlot n => rw [target] at both; exact both
    | whole => exact absurd target part.1
    | mapKey => exact absurd target part.2

end

namespace CompiledMethod

variable {m : CompiledMethod}

theorem SlotShape.clean_readResult (shape : m.SlotShape) (p : Provider) :
    (m.readResult p.outValue).Clean fun _ log => ForSlots Event.readsSlot? m.outSlots log := by
  have plan := shape.plan
  unfold readResult outSlots
  cases hp : m.rowPlan with
  | none =>
    rw [hp] at plan
    rw [show m.results = [] from plan]
    exact clean_pure forSlots_nil
  | atomic index =>
    rw [hp] at plan
    obtain ⟨r, hr, rfl⟩ := plan
    have length := shape.results r (hr ▸ List.mem_singleton_self r)
    rw [hr]
    show (r.mapping.read p.outValue >>= fun v => (pure (Datum.value v) : Dialogue Datum)).Clean _
    exact (SlotMapping.clean_read p length).bind fun _ _ hl => clean_pure (by simpa using hl)
  | bean type origin =>
    rw [hp] at plan
    refine (ResultReading.clean_readParts p _ shape.results plan).bind fun parts _ hl => ?_
    split
    · exact clean_pure (by simpa using hl)
    · exact clean_fail _

/-! ## Entries -/

/-- What one execution asks: each parameter slot is bound once, each OUT slot is registered once,
the statement is sent, and each OUT slot is read once. -/
def Entry (m : CompiledMethod) (send : Event) (log : List Event) : Prop :=
  ∃ binds registers reads, log = binds ++ registers ++ send :: reads ∧
    ForSlots Event.bindsSlot? m.parameterSlots binds ∧
    ForSlots Event.registersSlot? m.outSlots registers ∧
    ForSlots Event.readsSlot? m.outSlots reads

/-- Entries that run at once or in queues that are flushed; so many are queued already. -/
inductive Entries (m : CompiledMethod) : Nat → Nat → List Event → Prop
  | done : Entries m 0 0 []
  | run {queued count : Nat} {send : Event} {entry log : List Event} (one : m.Entry send entry)
      (sends : send = .execute ∨ send = .executeUpdate) (others : Entries m queued count log) :
      Entries m queued (count + 1) (entry ++ log)
  | queue {queued count : Nat} {entry log : List Event} (one : m.Entry .addBatch entry)
      (others : Entries m (queued + 1) count log) : Entries m queued (count + 1) (entry ++ log)
  | flush {queued count : Nat} {log : List Event} (others : Entries m 0 count log) :
      Entries m queued count (.executeBatch :: log)

theorem Entries.single {send : Event} {log : List Event} (one : m.Entry send log)
    (sends : send = .execute ∨ send = .executeUpdate) : m.Entries 0 1 log := by
  rw [← List.append_nil log]
  exact .run one sends .done

/-- Without OUT results an entry is bound and sent. -/
theorem entry_of_bound (none : m.results = []) {binds : List Event} {send : Event}
    (h : ForSlots Event.bindsSlot? m.parameterSlots binds) : m.Entry send (binds ++ [send]) := by
  have out : m.outSlots = [] := by unfold outSlots; rw [none]; rfl
  exact ⟨binds, [], [], by simp, h, out ▸ forSlots_nil, out ▸ forSlots_nil⟩

section

variable (shape : m.SlotShape) (words : m.bindCount < UInt64.size)

include shape words

theorem SlotShape.clean_bindEntry (args : List Bindable) (item : Bindable) :
    (m.bindEntry args item).Clean fun _ log => ForSlots Event.bindsSlot? m.parameterSlots log := by
  unfold bindEntry
  refine Clean.bind (P := fun encoded log => m.encode args (some item) = .ok encoded ∧ log = [])
    (clean_ofExcept fun encoded he => ⟨he, rfl⟩) ?_
  rintro encoded _ ⟨he, rfl⟩
  exact shape.clean_bindParameters words he

theorem SlotShape.clean_runEntries (none : m.results = []) (size : Nat) (args : List Bindable) :
    ∀ (pending : Nat) (items : List Bindable), (m.runEntries size args pending items).Clean
      fun _ log => m.Entries pending items.length log
  | pending, [] => by
    unfold runEntries
    split
    · exact clean_request (inside_of_onPrepared rfl) fun _ => .flush .done
    · next idle =>
      obtain rfl : pending = 0 := by omega
      exact clean_pure .done
  | pending, item :: rest => by
    have ih := fun pending => SlotShape.clean_runEntries none size args pending rest
    unfold runEntries
    refine (shape.clean_bindEntry words args item).bind fun _ binds hb => ?_
    split
    · refine clean_request_bind (inside_of_onPrepared rfl) fun rows => ?_
      refine (ih pending).bind fun _ log hl => ?_
      exact clean_pure (by simpa using Entries.run (entry_of_bound none hb) (.inr rfl) hl)
    · refine clean_request_bind (inside_of_onPrepared rfl) fun _ => ?_
      have queue : m.Entry .addBatch (binds ++ [.addBatch]) := entry_of_bound none hb
      split
      · refine clean_request_bind (inside_of_onPrepared rfl) fun flushed => ?_
        refine (ih 0).bind fun _ log hl => ?_
        exact clean_pure (by simpa using Entries.queue queue (.flush hl))
      · exact (ih (pending + 1)).mono fun _ log hl => by simpa using Entries.queue queue hl

/-! ## Whole calls -/

theorem StatementUse.clean_entries {i : CallContext} {args : List Bindable} {isCall : Bool}
    {sql : String} {body : Dialogue Output} (mutation : m.kind ≠ .select)
    (h : m.StatementUse i args isCall sql body) :
    body.Clean fun _ log => m.Entries 0 (m.entryCount args) log := by
  have counted (encoded : List FilledParameter) (filled : m.encode args .none = .ok encoded)
      (none : m.results = []) : (do
      bindParameters encoded
      let rows ← Dialogue.request .executeUpdate
      pure (m.countOutput rows)).Clean fun _ log => m.Entries 0 1 log := by
    refine (shape.clean_bindParameters words filled).bind fun _ binds hb => ?_
    refine clean_request_bind (inside_of_onPrepared rfl) fun rows => clean_pure ?_
    exact Entries.single (entry_of_bound none hb) (.inr rfl)
  have out : m.results = [] ∨ m.kind = .call ∧ m.isBatched = false := by
    rcases Classical.em (m.results = []) with none | some
    · exact .inl none
    · exact .inr (shape.once some)
  cases h with
  | select kind _ => exact absurd kind mutation
  | update single kind filled =>
    rw [show m.entryCount args = 1 from if_pos (.inr single.2)]
    exact counted _ filled (out.resolve_right fun h => kind h.1)
  | count single kind filled plan =>
    rw [show m.entryCount args = 1 from if_pos (.inr single.2)]
    have reads := shape.plan
    rw [plan] at reads
    exact counted _ filled reads
  | out single kind filled plan =>
    rw [show m.entryCount args = 1 from if_pos (.inr single.2)]
    refine (shape.clean_bindParameters words filled).bind fun _ binds hb => ?_
    refine (clean_registerResults i.provider _ shape.results).bind fun _ registers hr => ?_
    refine i.provider.clean_execute.bind fun _ _ hs => ?_
    obtain ⟨send, sends, rfl⟩ := hs
    refine (shape.clean_readResult i.provider).bind fun datum reads hv => clean_pure ?_
    refine Entries.single ⟨binds, registers, reads, ?_, hb, hr, hv⟩ sends
    simp
  | @batch items batched listed =>
    have many : m.entryCount args = items.length := by
      unfold entryCount
      rw [listed, if_neg (by simp [batched.1, batched.2])]
    have none : m.results = [] := out.resolve_right fun h => by rw [h.2] at batched; cases batched.2
    rw [many]
    refine (shape.clean_runEntries words none i.settings.batchSize args 0 items).bind fun _ log hl => ?_
    exact clean_pure (by simpa using hl)

end

theorem StatementUse.prepared {i : CallContext} {args : List Bindable} {isCall : Bool}
    {sql : String} {body : Dialogue Output} (mutation : m.kind ≠ .select)
    (h : m.StatementUse i args isCall sql body) : isCall = decide (m.kind = .call) ∧ sql = m.sql := by
  cases h with
  | select kind _ => exact absurd kind mutation
  | update _ kind _ => exact ⟨(decide_eq_false kind).symm, rfl⟩
  | count _ kind _ _ => exact ⟨(decide_eq_true kind).symm, rfl⟩
  | out _ kind _ _ => exact ⟨(decide_eq_true kind).symm, rfl⟩
  | batch _ _ => exact ⟨rfl, rfl⟩

/-- What a call asks for if no step fails. -/
theorem SlotShape.clean_execute (shape : m.SlotShape) (words : m.bindCount < UInt64.size)
    (mutation : m.kind ≠ .select) (i : CallContext) (args : List Bindable) :
    (m.execute i args).Always fun s _ => firstFailure? s = none → ∃ work,
      m.Entries 0 (m.entryCount args) work ∧
      events s = .acquire :: (i.provider.connecting ++
        i.provider.prepareEvent (m.kind = .call) m.sql :: (work ++ [.closeStatement, .release])) := by
  rcases m.execute_cases i args with ⟨e, -, he⟩ | ⟨isCall, sql, body, h, he⟩
  · rw [he]
    exact fun none => nomatch none
  · obtain ⟨rfl, rfl⟩ := h.prepared mutation
    rw [he]
    have used := (StatementUse.clean_entries shape words mutation h).onStatement
      (inside_prepareEvent i.provider (m.kind = .call) m.sql)
    refine Always.mono used.onConnection fun s _ hs none => ?_
    obtain ⟨_, _, ⟨work, entries, rfl⟩, log⟩ := hs none
    refine ⟨work, entries, ?_⟩
    rw [log]
    simp

end CompiledMethod

/-! ## Markers and slots -/

/-- In an accepted insert, update, delete or call markers and slots agree: each placeholder owns
the markers of its slots, and the slots of parameters and OUT results are the numbers up to the
last. A call in which no step fails prepares exactly this statement and, for every entry, uses each
of these slots once. Slots are 64-bit words. -/
theorem MethodDeclaration.compile_slots_agree {d : MethodDeclaration} {catalog : Catalog}
    {adapters : AdapterTable} {interface : String} {m : CompiledMethod} (mutation : d.kind ≠ .select)
    (h : d.compile catalog adapters interface = .ok m) :
    (∃ before segments after,
      Template.Cut (MethodScope.form d.kind) d.template before segments after ∧
      m.SlotsOwnMarkers ⟨catalog, adapters, d.kind, d.signature⟩ before segments after) ∧
    (m.parameterSlots ++ m.outSlots).Perm (List.range' 1 m.bindCount) ∧
    (m.bindCount < UInt64.size → ∀ {σ : Type} (i : CallContext) (args : List Bindable)
      (respond : Responder σ) (state : σ),
      let run := (m.execute i args).run respond state
      firstFailure? run.steps = none → ∃ work, m.Entries 0 (m.entryCount args) work ∧
        run.events = .acquire :: (i.provider.connecting ++
          i.provider.prepareEvent (d.kind = .call) m.sql :: (work ++ [.closeStatement, .release]))) := by
  have compiled := mapError_eq_ok.1 h
  obtain ⟨before, segments, after, cut, own⟩ := MethodScope.compile_slotsOwnMarkers mutation compiled
  have shape := MethodScope.compile_slotShape mutation compiled
  have kind : m.kind = d.kind := MethodScope.compile_kind compiled
  refine ⟨⟨before, segments, after, cut, own⟩, own.partition, ?_⟩
  intro words σ i args respond state run none
  rw [← kind]
  exact (shape.clean_execute words (kind ▸ mutation) i args).run respond state none

/-- A batch of amounts of money, each of which takes two slots. -/
def Sample.insertAmounts : MethodDeclaration :=
  { name := "insert_amounts"
    kind := .insert
    template := "INSERT INTO ledger VALUES ('?', {%1}, {%2})"
    signature :=
      { arguments :=
          [⟨none, .array, ⟨.custom "money", false⟩⟩, ⟨none, .single, ⟨.scalar .bool, true⟩⟩]
        returns := .unit } }

theorem Sample.insertAmounts_slots_agree :
    let adapters : AdapterTable := ⟨[("money", Sample.moneyAdapter)]⟩
    let i : CallContext := ⟨⟨fun _ => true, none⟩, {}, none⟩
    let args : List Bindable :=
      [.list [.value (.custom (Sample.money 250 "EUR")), .value .null], .value (.bool true)]
    ∃ m, Sample.insertAmounts.compile ⟨[]⟩ adapters "Ledger" = .ok m ∧
      (m.parameterSlots ++ m.outSlots).Perm (List.range' 1 m.bindCount) ∧
      ∃ work, m.Entries 0 2 work ∧
        ((m.execute i args).run ScriptedDatabase.respond {}).events =
          .acquire :: .onAcquire :: .prepare m.sql :: (work ++ [.closeStatement, .release]) := by
  intro adapters i args
  have checked : (match Sample.insertAmounts.compile ⟨[]⟩ adapters "Ledger" with
      | .ok m => decide (m.bindCount < UInt64.size ∧ m.entryCount args = 2) &&
          (firstFailure? ((m.execute i args).run ScriptedDatabase.respond {}).steps).isNone
      | .error _ => false) = true := by decide +kernel
  cases h : Sample.insertAmounts.compile ⟨[]⟩ adapters "Ledger" with
  | error e => rw [h] at checked; cases checked
  | ok m =>
    rw [h] at checked
    obtain ⟨small, none⟩ := Bool.and_eq_true_iff.1 checked
    obtain ⟨words, two⟩ := of_decide_eq_true small
    obtain ⟨-, partition, runs⟩ := MethodDeclaration.compile_slots_agree (by decide) h
    obtain ⟨work, entries, events⟩ := runs words i args ScriptedDatabase.respond {}
      (Option.isNone_iff_eq_none.1 none)
    rw [two] at entries
    exact ⟨m, rfl, partition, work, entries, events⟩

end QueryMethods
