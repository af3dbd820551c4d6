/-
Batches. Every element of the list is an entry of its own, which runs with what the method for a
single element binds for it. How many entries are flushed at a time is all that the batch size
decides.
-/
import QueryMethods.Proofs.Execution.Bindings
import QueryMethods.Proofs.Method.Batches

namespace QueryMethods

open Dialogue

/-! ## What parameters are bound to -/

/-- A parameter that is filled, and whose slots are words from 1 on. -/
structure FilledParameter.Placed (e : FilledParameter) : Prop extends e.Fills where
  positive : 0 < e.parameter.mapping.firstSlot
  word : e.parameter.mapping.firstSlot < UInt64.size

namespace FilledParameter

/-- The slots of a parameter with what they are bound to. -/
def placed (e : FilledParameter) : List (Nat × SlotContent) :=
  e.parameter.mapping.slots.zip e.contents

/-- What the slots of a fresh statement hold once the parameters are bound. -/
def entry (es : List FilledParameter) : Bindings :=
  Statement.holdAll (fun _ => none) (es.flatMap placed)

theorem Fills.placed_slots {e : FilledParameter} (h : e.Fills) :
    e.placed.map (·.1) = e.parameter.mapping.slots := by
  refine List.map_fst_zip ?_
  rw [contents_length, h.slots, List.length_range']

/-- A parameter that is no list is bound to the slots that it has, and moves none behind it. -/
theorem Placed.bindFrom_cons {e : FilledParameter} (place : e.Placed) (rest : List FilledParameter) :
    bindFrom 0 (e :: rest) = (do
      bindAll e.parameter.mapping.firstSlot e.bound
      let bound ← bindFrom 0 rest
      pure (e.values.length + bound)) := by
  have start : e.parameter.movedSlot 0 = .ok e.parameter.mapping.firstSlot :=
    ParameterBinding.movedSlot_eq_ok.2 ⟨Int.add_zero _, place.positive, place.word⟩
  have still : (0 : Int) + e.growth = 0 := by
    simp [growth, ParameterBinding.isIterated, place.single]
  have known : (Dialogue.ofExcept (.ok e.parameter.mapping.firstSlot) : Dialogue Nat) =
      pure e.parameter.mapping.firstSlot := rfl
  rw [bindFrom, start, known, pure_bind, still, bindSlots_eq _ _ 0 _ place.words]
  rfl

variable {σ : Type} {respond : Responder σ}

/-- Without lists in between every parameter is bound to the slots that it has. -/
theorem yields_bindFrom : ∀ (es : List FilledParameter), (∀ e ∈ es, e.Placed) → ∀ state : σ,
    Yields respond (bindFrom 0 es) state fun _ log _ =>
      OnlyBinds log ∧ log.filterMap Event.binding? = es.flatMap placed
  | [], _, _ => yields_pure ⟨List.forall_mem_nil _, rfl⟩
  | e :: rest, h, state => by
    obtain ⟨place, others⟩ := List.forall_mem_cons.1 h
    have own : (SlotContent.requests e.parameter.mapping.firstSlot e.contents).filterMap
        Event.binding? = e.placed := by
      unfold placed
      rw [SlotContent.bindings_requests, place.slots, contents_length]
    rw [place.bindFrom_cons]
    refine (yields_bindAll _ _ state).bind fun _ log behind hl => ?_
    refine (yields_bindFrom rest others behind).bind fun _ log' _ hl' => yields_pure ?_
    obtain ⟨binds, pairs⟩ := hl'
    rw [List.append_nil, hl, List.filterMap_append, pairs, List.flatMap_cons]
    exact ⟨(SlotContent.onlyBinds_requests _ _).append binds, congrArg (· ++ _) own⟩

end FilledParameter

namespace CompiledMethod

/-- Whatever the arguments are, the parameters are bound to the slots that they have. -/
def Places (m : CompiledMethod) : Prop := ∀ {args : List Bindable} {element : Option Bindable}
  {es : List FilledParameter}, m.encode args element = .ok es → ∀ e ∈ es, e.Placed

/-- A statement of the method, with nothing bound but slots of its parameters. -/
structure Owns (m : CompiledMethod) (s : Statement) : Prop where
  sql : s.sql = m.sql
  unbound : ∀ slot, slot ∉ m.parameterSlots → s.bindings slot = none

variable {m : CompiledMethod} {args : List Bindable} {item : Bindable} {es : List FilledParameter}

theorem owns_fresh (m : CompiledMethod) : m.Owns { sql := m.sql } := ⟨rfl, fun _ _ => rfl⟩

theorem Places.slots (places : m.Places) {element : Option Bindable}
    (filled : m.encode args element = .ok es) :
    (es.flatMap FilledParameter.placed).map (·.1) = m.parameterSlots := by
  unfold parameterSlots
  rw [← (encode_eq_ok filled).1, List.flatMap_map, List.map_flatMap]
  exact List.flatMap_congr fun e he => (places filled e he).placed_slots

/-- Each entry binds every slot again, so that nothing is left of the one before. -/
theorem Owns.rebind {s : Statement} (owns : m.Owns s) (places : m.Places)
    {element : Option Bindable} (filled : m.encode args element = .ok es) :
    Statement.holdAll s.bindings (es.flatMap FilledParameter.placed) =
      FilledParameter.entry es := by
  refine Statement.holdAll_congr fun slot fresh => ?_
  rw [places.slots filled] at fresh
  exact owns.unbound slot fresh

/-- Behind an entry nothing is bound but slots of the parameters. -/
theorem Places.owns (places : m.Places) {element : Option Bindable}
    (filled : m.encode args element = .ok es) (queue : List Bindings) :
    m.Owns ⟨m.sql, FilledParameter.entry es, queue⟩ := by
  refine ⟨rfl, fun slot fresh => ?_⟩
  rw [← places.slots filled] at fresh
  exact Statement.holdAll_of_not_mem fresh

theorem Owns.requeue {s : Statement} (owns : m.Owns s) (queue : List Bindings) :
    m.Owns { s with queue } := ⟨owns.sql, owns.unbound⟩

/-! ## Entries of a batch -/

section

variable {σ World : Type} {respond : Responder σ} {statement : σ → Statement} {world : σ → World}
  {effect : String → Bindings → World → UInt64 × World} {state : σ}

theorem yields_bindParameters (places : m.Places) {element : Option Bindable}
    (filled : m.encode args element = .ok es) :
    Yields respond (bindParameters es) state fun _ log _ =>
      OnlyBinds log ∧ log.filterMap Event.binding? = es.flatMap FilledParameter.placed := by
  unfold bindParameters
  refine (FilledParameter.yields_bindFrom es (places filled) state).bind fun _ log _ hl => ?_
  rw [← List.append_nil log] at hl
  exact yields_pure hl

variable (law : RunsEntries respond statement world effect) (places : m.Places)

include law places

theorem yields_bindEntry (filled : m.encode args (some item) = .ok es)
    (owns : m.Owns (statement state)) :
    Yields respond (m.bindEntry args item) state fun _ log behind => OnlyBinds log ∧
      (statement state).Does log (statement behind) [] [] ∧
      statement behind = ⟨m.sql, FilledParameter.entry es, (statement state).queue⟩ ∧
      world behind = world state := by
  have known : m.bindEntry args item = bindParameters es := by
    unfold bindEntry
    rw [filled]
    rfl
  rw [known]
  refine Ends.mono (Ends.and (yields_bindParameters places filled) (law.ends _ state)) ?_
  rintro r log behind ⟨⟨a, rfl, binds, pairs⟩, after, still⟩
  have does := (statement state).does_binds binds
  refine ⟨a, rfl, binds, ⟨after.symm, does.executed, does.flushes⟩, ?_, still binds⟩
  rw [after, does.after, pairs, owns.rebind places filled, owns.sql]

/-- Without a queue each entry is executed once it is bound. -/
theorem yields_runEntries_single {items : List Bindable} {fills : List (List FilledParameter)}
    (each : List.Forall₂ (fun item es => m.encode args (some item) = .ok es) items fills) :
    ∀ state : σ, m.Owns (statement state) →
    Yields respond (m.runEntries 0 args 0 items) state fun counts log behind =>
      counts = (runAll (effect m.sql) (fills.map FilledParameter.entry) (world state)).1 ∧
      (statement state).Does log (statement behind) (fills.map FilledParameter.entry) [] ∧
      (statement behind).queue = (statement state).queue ∧
      log.count .executeUpdate = items.length ∧ .addBatch ∉ log := by
  -- whatever the entry before has left bound is bound again by the next one
  induction each with
  | nil =>
    intro state _
    exact yields_pure ⟨rfl, Statement.does_nil _, rfl, rfl, List.not_mem_nil⟩
  | @cons item es items fills filled _ ih =>
    intro state owns
    unfold runEntries
    refine (yields_bindEntry law places filled owns).bind fun _ binds bound hb => ?_
    obtain ⟨only, does, same, still⟩ := hb
    rw [if_pos rfl]
    refine law.yields_update.bind fun rows _ updated hu => ?_
    obtain ⟨rfl, kept, ran⟩ := hu
    rw [same] at kept ran does
    have owns' : m.Owns (statement updated) := kept ▸ places.owns filled _
    refine (ih updated owns').bind fun counts log behind hl => yields_pure ?_
    obtain ⟨rfl, rest, queue, updates, noQueue⟩ := hl
    rw [kept] at rest queue
    rw [still] at ran
    rw [List.append_nil]
    refine ⟨?_, does.append ((Statement.does_update _).append rest), queue, ?_, ?_⟩
    · show _ = (effect m.sql _ _).1 :: (runAll _ _ (effect m.sql _ _).2).1
      rw [← ran]
    · rw [List.count_append, List.count_append, List.count_eq_zero.2 (only.not_mem rfl), updates,
        List.length_cons, List.count_singleton_self]
      omega
    · have unqueued : .addBatch ∉ binds := only.not_mem rfl
      simp [unqueued, noQueue]

/-- An entry is queued once it is bound. -/
theorem yields_queueEntry (filled : m.encode args (some item) = .ok es)
    (owns : m.Owns (statement state)) :
    Yields respond (do m.bindEntry args item; Dialogue.request .addBatch) state
      fun _ log behind =>
        let queue := (statement state).queue ++ [FilledParameter.entry es]
        (statement state).Does log (statement behind) [] [] ∧
        statement behind = ⟨m.sql, FilledParameter.entry es, queue⟩ ∧
        world behind = world state := by
  refine (yields_bindEntry law places filled owns).bind fun _ binds bound hb => ?_
  obtain ⟨-, does, same, still⟩ := hb
  refine law.yields_queue.mono fun _ _ queued hq => ?_
  obtain ⟨rfl, kept, still'⟩ := hq
  have queues := does.append (statement bound).does_queue
  rw [← kept] at queues
  refine ⟨queues, ?_, still'.trans still⟩
  rw [kept, same]

omit law places in
theorem runEntries_queued {size : Nat} (pos : 0 < size) (args : List Bindable) (pending : Nat)
    (item : Bindable) (rest : List Bindable) : m.runEntries size args pending (item :: rest) = (do
      (do m.bindEntry args item; Dialogue.request .addBatch)
      if pending + 1 = size then do
        let flushed ← Dialogue.request .executeBatch
        let counts ← m.runEntries size args 0 rest
        pure (flushed ++ counts)
      else m.runEntries size args (pending + 1) rest) := by
  simp only [runEntries, if_neg (Nat.ne_of_gt pos), bind_assoc]

/-- With a queue that is flushed at a size, entries are executed when they are flushed, and the
queues are full but for the last. -/
theorem yields_runEntries_queued {size : Nat} (pos : 0 < size) {items : List Bindable}
    {fills : List (List FilledParameter)}
    (each : List.Forall₂ (fun item es => m.encode args (some item) = .ok es) items fills) :
    ∀ state : σ, m.Owns (statement state) → (statement state).queue.length < size →
    Yields respond (m.runEntries size args (statement state).queue.length items) state
      fun counts log behind =>
        let entries := (statement state).queue ++ fills.map FilledParameter.entry
        counts = (runAll (effect m.sql) entries (world state)).1 ∧
        (statement state).Does log (statement behind) entries
          (flushSizes size ((statement state).queue.length + items.length)) ∧
        (statement behind).queue = [] := by
  -- the counter of the loop is the length of the queue, which never reaches the size
  induction each with
  | nil =>
    intro state owns less
    unfold runEntries
    dsimp only
    rw [List.map_nil, List.append_nil, List.length_nil, Nat.add_zero, flushSizes_of_lt less]
    split
    · next some =>
      refine law.yields_flush.mono fun counts _ behind hf => ?_
      obtain ⟨rfl, flushed, ran⟩ := hf
      rw [owns.sql] at ran
      rw [if_neg (Nat.ne_of_gt some), ← ran, flushed]
      exact ⟨rfl, Statement.does_flush _, rfl⟩
    · next none =>
      have empty : (statement state).queue = [] := List.eq_nil_of_length_eq_zero (by omega)
      rw [empty]
      exact yields_pure ⟨rfl, Statement.does_nil _, empty⟩
  | @cons item es items fills filled _ ih =>
    intro state owns less
    rw [runEntries_queued pos]
    refine (yields_queueEntry law places filled owns).bind fun _ queuing queued hq => ?_
    obtain ⟨does, same, still⟩ := hq
    have owns' : m.Owns (statement queued) := same ▸ places.owns filled _
    have queue : (statement queued).queue =
        (statement state).queue ++ [FilledParameter.entry es] := by
      rw [same]
    have length : (statement queued).queue.length = (statement state).queue.length + 1 := by
      rw [queue, List.length_append, List.length_singleton]
    have all : (statement state).queue ++ (es :: fills).map FilledParameter.entry =
        (statement queued).queue ++ fills.map FilledParameter.entry := by rw [queue]; simp
    have count : (statement state).queue.length + (item :: items).length =
        (statement queued).queue.length + items.length := by
      rw [length, List.length_cons]
      omega
    dsimp only
    rw [all, count, ← length, ← still]
    split
    · next full =>
      -- the queue is full: it is flushed, and the rest starts with an empty one
      refine law.yields_flush.bind fun flushed _ emptied hf => ?_
      obtain ⟨rfl, kept, ran⟩ := hf
      have owns'' : m.Owns (statement emptied) := kept ▸ owns'.requeue []
      have none : (statement emptied).queue = [] := by rw [kept]
      have more := ih emptied owns'' (by rw [none]; exact pos)
      simp only [none, List.nil_append, List.length_nil, Nat.zero_add] at more
      refine more.bind fun counts log behind hl => yields_pure ?_
      obtain ⟨rfl, rest, done⟩ := hl
      have flush := (statement queued).does_flush
      rw [← kept] at flush
      rw [owns'.sql] at ran
      rw [full, flushSizes_add pos, List.append_nil]
      have flushes := does.append (flush.append rest)
      rw [full] at flushes
      refine ⟨?_, flushes, done⟩
      rw [runAll_append, ← ran]
    · next room =>
      refine (ih queued owns' (by omega)).mono fun counts log behind hl => ?_
      obtain ⟨rfl, rest, done⟩ := hl
      exact ⟨rfl, does.append rest, done⟩

end

/-! ## Whole calls -/

/-- The requests of a call, given those on its statement. -/
def session (m : CompiledMethod) (p : Provider) (work : List Event) : List Event :=
  .acquire :: (p.connecting ++
    p.prepareEvent (m.kind = .call) m.sql :: (work ++ [.closeStatement, .release]))

/-- Called with the arguments the method succeeds and executes that entry alone, whatever database
serves its requests. -/
def RunsEntry (m : CompiledMethod) (args : List Bindable) (entry : Bindings) : Prop :=
  ∀ {σ : Type} (respond : Responder σ) (i : CallContext) (state : σ),
    let run := (m.execute i args).run respond state
    Served run.steps → (∃ output, run.outcome = .ok output) ∧
      ∃ work, run.events = m.session i.provider work ∧
        ({ sql := m.sql } : Statement).executed work = [entry]

theorem execute_entry (mutation : m.kind ≠ .select) (single : m.batchPosition = none)
    (plan : m.rowPlan = .none) (filled : m.encode args none = .ok es) (i : CallContext) :
    m.execute i args = onConnection i.provider (onStatement i.provider (m.kind = .call) m.sql (do
      bindParameters es
      let rows ← Dialogue.request .executeUpdate
      pure (m.countOutput rows))) := by
  have once : m.isBatched = false := by
    unfold isBatched
    rw [single]
    rfl
  rw [execute_mutation mutation, once]
  by_cases call : m.kind = .call
  · rw [if_neg Bool.false_ne_true, if_pos call, CompiledMethod.call, filled, plan,
      decide_eq_true call]
  · rw [if_neg Bool.false_ne_true, if_neg call, update, filled, decide_eq_false call]

theorem runsEntry_of_encode (places : m.Places) (mutation : m.kind ≠ .select)
    (single : m.batchPosition = none) (plan : m.rowPlan = .none)
    (filled : m.encode args none = .ok es) : m.RunsEntry args (FilledParameter.entry es) := by
  intro σ respond i state
  have ends : Ends respond (m.execute i args) state fun r log _ => (∃ output, r = .ok output) ∧
      ∃ work, log = m.session i.provider work ∧
        ({ sql := m.sql } : Statement).executed work = [FilledParameter.entry es] := by
    rw [execute_entry mutation single plan filled]
    refine Ends.onPrepared fun _ _ => ?_
    refine (yields_bindParameters places filled).bind fun _ binds _ hb => ?_
    obtain ⟨only, pairs⟩ := hb
    have updates (state : σ) : Yields respond (Dialogue.request .executeUpdate) state
        fun _ log _ => log = [.executeUpdate] := yields_request fun _ _ => rfl
    refine (updates _).bind fun rows _ _ hu => ends_done ⟨⟨_, rfl⟩, _, rfl, ?_⟩
    have does := Statement.does_binds { sql := m.sql } only
    rw [hu, List.append_nil, (does.append (Statement.does_update _)).executed, pairs]
    rfl
  exact ends

theorem execute_batch (mutation : m.kind ≠ .select) {position : Nat}
    (batched : m.batchPosition = some position) {items : List Bindable}
    (listed : m.batchItems args = .ok items) (i : CallContext) :
    m.execute i args = onConnection i.provider (onStatement i.provider (m.kind = .call) m.sql (do
      let counts ← m.runEntries i.settings.batchSize args 0 items
      pure (if m.returns = .counts then .counts counts else .unit))) := by
  have many : m.isBatched = true := by
    unfold isBatched
    rw [batched]
    rfl
  rw [execute_mutation mutation, if_pos many, batch, listed]
  refine congrArg (fun hand : List UInt64 → Dialogue Output => onConnection i.provider
    (onStatement i.provider (m.kind = .call) m.sql
      (m.runEntries i.settings.batchSize args 0 items >>= hand))) (funext fun counts => ?_)
  cases m.returns <;> rfl

/-- The list stands where the elements of the batch come from. -/
theorem position_lt {position : Nat} (batched : m.batchPosition = some position)
    {items : List Bindable} (listed : m.batchItems args = .ok items) : position < args.length := by
  by_contra outside
  have none : args[position]? = none := List.getElem?_eq_none (Nat.le_of_not_lt outside)
  unfold batchItems at listed
  rw [batched, Option.bind_some, none] at listed
  cases listed

/-- An element in place of its list is encoded like an entry of the batch. -/
theorem encode_ofEntry {position : Nat} (batched : m.batchPosition = some position)
    (inside : position < args.length) (item : Bindable) :
    m.ofEntry.encode (args.set position item) none = m.encode args (some item) := by
  have source (p : ParameterBinding) : (args.set position item)[p.argument]? =
      if m.batchPosition = some p.argument then some item else args[p.argument]? := by
    rw [List.getElem?_set, batched]
    by_cases here : position = p.argument
    · rw [if_pos here, if_pos inside, if_pos (congrArg some here)]
    · rw [if_neg here, if_neg fun h => here (Option.some.inj h)]
  have parameter : m.ofEntry.encodeParameter (args.set position item) none =
      m.encodeParameter args (some item) := by
    funext p
    unfold encodeParameter
    dsimp only
    rw [source]
    rfl
  unfold encode
  rw [parameter]
  rfl

/-- Every element is encoded: the values of all entries. -/
theorem fills_of_encoded {items : List Bindable}
    (encoded : ∀ item ∈ items, ∃ es, m.encode args (some item) = .ok es) :
    ∃ fills, List.Forall₂ (fun item es => m.encode args (some item) = .ok es) items fills := by
  induction items with
  | nil => exact ⟨[], .nil⟩
  | cons item rest ih =>
    obtain ⟨⟨es, first⟩, others⟩ := List.forall_mem_cons.1 encoded
    obtain ⟨fills, each⟩ := ih others
    exact ⟨es :: fills, .cons first each⟩

/-- What the batch size decides: with 0 every entry runs on its own and none is queued, else queues
are flushed of that size, and none is left when the statement is closed. -/
structure Flushed (size count : Nat) (s : Statement) (work : List Event) : Prop where
  none : (s.after work).queue = []
  single : size = 0 → work.count .executeUpdate = count ∧ .addBatch ∉ work
  queued : 0 < size → s.flushes work = flushSizes size count ∧
    work.count .executeBatch = (count + size - 1) / size

section

variable {σ World : Type} {respond : Responder σ} {statement : σ → Statement} {world : σ → World}
  {effect : String → Bindings → World → UInt64 × World} {state : σ}

/-- The entries of a batch on a statement that was just prepared. -/
theorem yields_runEntries (law : RunsEntries respond statement world effect) (places : m.Places)
    {items : List Bindable} {fills : List (List FilledParameter)}
    (each : List.Forall₂ (fun item es => m.encode args (some item) = .ok es) items fills)
    (fresh : statement state = { sql := m.sql }) (size : Nat) :
    Yields respond (m.runEntries size args 0 items) state fun counts work _ =>
      counts = (runAll (effect m.sql) (fills.map FilledParameter.entry) (world state)).1 ∧
      ({ sql := m.sql } : Statement).executed work = fills.map FilledParameter.entry ∧
      Flushed size items.length { sql := m.sql } work := by
  have owns : m.Owns (statement state) := fresh ▸ m.owns_fresh
  rcases Nat.eq_zero_or_pos size with rfl | pos
  · refine (yields_runEntries_single law places each state owns).mono fun counts work behind h => ?_
    obtain ⟨same, does, queue, updates, none⟩ := h
    rw [fresh] at does queue
    refine ⟨same, does.executed, ?_, fun _ => ⟨updates, none⟩, fun pos => absurd pos (lt_irrefl 0)⟩
    rw [does.after, queue]
  · have empty : (statement state).queue.length < size := by
      rw [fresh]
      exact pos
    have queued := yields_runEntries_queued law places pos each state owns empty
    rw [fresh] at queued
    simp only [List.length_nil, List.nil_append, Nat.zero_add] at queued
    refine queued.mono fun counts work behind h => ?_
    obtain ⟨same, does, done⟩ := h
    refine ⟨same, does.executed, ?_, fun zero => absurd zero (Nat.ne_of_gt pos),
      fun _ => ⟨does.flushes, ?_⟩⟩
    · rw [does.after, done]
    · rw [← Statement.length_flushes { sql := m.sql }, does.flushes, length_flushSizes pos]

end

end CompiledMethod

/-- A method that is no select binds its parameters to the slots that they have. -/
theorem MethodScope.compile_places {s : MethodScope} {interface method template : String}
    {m : CompiledMethod} (mutation : s.kind ≠ .select)
    (h : s.compile interface method template = .ok m) (words : m.bindCount < UInt64.size) :
    m.Places := by
  intro args element es filled e he
  obtain ⟨same, -⟩ := CompiledMethod.encode_eq_ok filled
  have first := compile_firstSlot mutation h e.parameter (same ▸ List.mem_map_of_mem he)
  have fills := (compile_slotShape mutation h).fills words filled e he
  exact { fills with positive := first.1, word := Nat.lt_of_le_of_lt first.2 words }

/-- The batch size cannot be observed. Take an accepted mutation or call with a batch argument, a
list whose elements are all encoded, and a database on which no request fails and which flushes a
queue like it runs updates. The entries are those that the method for a single element, of the same
template, executes for the elements, each from a fresh statement; they run in order, and their
counts are handed back, whatever the batch size is. Slots are 64-bit words. -/
theorem MethodDeclaration.batch_size_unobservable {d : MethodDeclaration} {catalog : Catalog}
    {adapters : AdapterTable} {interface : String} {m : CompiledMethod}
    (h : d.compile catalog adapters interface = .ok m) {position : Nat}
    (batched : m.batchPosition = some position) (words : m.bindCount < UInt64.size)
    {args items : List Bindable} (listed : m.batchItems args = .ok items)
    (encoded : ∀ item ∈ items, ∃ es, m.encode args (some item) = .ok es) :
    ∃ m' entries, (d.ofEntry position).compile catalog adapters interface = .ok m' ∧
      List.Forall₂ (fun item entry => m'.RunsEntry (args.set position item) entry) items entries ∧
      ∀ {σ World : Type} {respond : Responder σ} {statement : σ → Statement} {world : σ → World}
        {effect : String → Bindings → World → UInt64 × World},
        RunsEntries respond statement world effect → ∀ (i : CallContext) (state : σ),
        let start := prepared respond i.provider (m.kind = .call) m.sql state
        ∀ settings : ExecutionSettings,
          let run := (m.execute { i with settings } args).run respond state
          Served run.steps →
            run.outcome = .ok (if m.returns = .counts
              then .counts (runAll (effect m.sql) entries (world start)).1 else .unit) ∧
            ∃ work, run.events = m.session i.provider work ∧
              ({ sql := m.sql } : Statement).executed work = entries ∧
              CompiledMethod.Flushed settings.batchSize items.length { sql := m.sql } work := by
  have compiled := mapError_eq_ok.1 h
  obtain ⟨compiled', mutation, plan, -⟩ := MethodScope.compile_ofEntry compiled batched
  have kind := MethodScope.compile_kind compiled
  have places : m.Places := MethodScope.compile_places (kind ▸ mutation) compiled words
  have places' : m.ofEntry.Places := MethodScope.compile_places (kind ▸ mutation) compiled' words
  have inside := CompiledMethod.position_lt batched listed
  obtain ⟨fills, each⟩ := CompiledMethod.fills_of_encoded encoded
  refine ⟨m.ofEntry, fills.map FilledParameter.entry, mapError_eq_ok.2 compiled', ?_, ?_⟩
  · rw [List.forall₂_map_right_iff]
    refine each.imp fun item es filled => ?_
    refine CompiledMethod.runsEntry_of_encode places' mutation rfl plan ?_
    rw [CompiledMethod.encode_ofEntry batched inside, filled]
  · intro σ World respond statement world effect law i state start settings
    have ends : Ends respond (m.execute { i with settings } args) state fun r log _ =>
        r = .ok (if m.returns = .counts
          then .counts (runAll (effect m.sql) (fills.map FilledParameter.entry) (world start)).1
          else .unit) ∧
        ∃ work, log = m.session i.provider work ∧
          ({ sql := m.sql } : Statement).executed work = fills.map FilledParameter.entry ∧
          CompiledMethod.Flushed settings.batchSize items.length { sql := m.sql } work := by
      rw [CompiledMethod.execute_batch mutation batched listed]
      refine Ends.onPrepared fun reply hr => ?_
      have fresh : statement start = { sql := m.sql } :=
        (law.step _ _ reply hr).trans (Statement.step_prepareEvent ..)
      refine (CompiledMethod.yields_runEntries law places each fresh settings.batchSize).bind
        fun counts work _ hw => ends_done ?_
      obtain ⟨rfl, executed, flushed⟩ := hw
      rw [List.append_nil]
      exact ⟨rfl, work, rfl, executed, flushed⟩
    exact ends

/-- Some amounts of money are settled, and the number of entries of each is returned. -/
def Sample.settleAmounts : MethodDeclaration :=
  { name := "settle_amounts"
    kind := .update
    template := "UPDATE ledger SET open = {%2} WHERE amount = ({%1})"
    signature :=
      { arguments :=
          [⟨none, .array, ⟨.custom "money", false⟩⟩, ⟨none, .single, ⟨.scalar .bool, true⟩⟩]
        returns := .many ⟨.scalar .long, false⟩ } }

/-- An answer with nothing in it. -/
def Sample.blank : (event : Event) → event.Reply
  | .query => (0 : Nat)
  | .get _ _ => Value.null
  | .executeUpdate => (0 : UInt64)
  | .executeBatch => ([] : List UInt64)
  | .outValue _ _ => Value.null
  | .acquire => ()
  | .onAcquire => ()
  | .prepare _ => ()
  | .prepareCall _ => ()
  | .bind _ _ => ()
  | .bindNull _ _ => ()
  | .fetchSize _ => ()
  | .next => ()
  | .addBatch => ()
  | .registerOut _ _ => ()
  | .execute => ()
  | .closeRows => ()
  | .closeStatement => ()
  | .release => ()

/-- The count of an entry is the number of entries before it. -/
def Sample.numbered (_ : String) (_ : Bindings) (before : Nat) : UInt64 × Nat :=
  (UInt64.ofNat before, before + 1)

/-- A database that numbers the entries that it runs. -/
def Sample.numbering : Responder (Statement × Nat) := fun event state =>
  let s := state.1.step event
  match event with
  | .executeUpdate =>
    let ran := Sample.numbered state.1.sql state.1.bindings state.2
    (.ok ran.1, s, ran.2)
  | .executeBatch =>
    let ran := runAll (Sample.numbered state.1.sql) state.1.queue state.2
    (.ok ran.1, s, ran.2)
  | event => (.ok (Sample.blank event), s, state.2)

theorem Sample.numbering_runsEntries :
    RunsEntries Sample.numbering (·.1) (·.2) Sample.numbered where
  step event _ _ _ := by cases event <;> rfl
  still event _ _ _ h := by
    cases event <;> first | rfl | (rcases h with h | h <;> cases h)
  update _ _ h := by cases h; rfl
  flush _ _ h := by cases h; rfl

theorem Sample.settleAmounts_batch_size :
    let adapters : AdapterTable := ⟨[("money", Sample.moneyAdapter)]⟩
    let items : List Bindable := [.value (.custom (Sample.money 250 "EUR")), .value .null,
      .value (.custom (Sample.money 80 "USD"))]
    let args : List Bindable := [.list items, .value (.bool true)]
    ∃ m, Sample.settleAmounts.compile ⟨[]⟩ adapters "Ledger" = .ok m ∧ ∀ batchSize : Nat,
      let i : CallContext := ⟨⟨fun _ => true, none⟩, { batchSize }, none⟩
      ((m.execute i args).run Sample.numbering ({ sql := "" }, 0)).outcome =
        .ok (.counts [0, 1, 2]) := by
  intro adapters items args
  have checked : (match Sample.settleAmounts.compile ⟨[]⟩ adapters "Ledger" with
      | .ok m => decide (m.kind = .update ∧ m.batchPosition = some 0 ∧ m.bindCount < UInt64.size ∧
          m.returns = .counts) && items.all fun item => (m.encode args (some item)).isOk
      | .error _ => false) = true := by decide +kernel
  cases h : Sample.settleAmounts.compile ⟨[]⟩ adapters "Ledger" with
  | error e => rw [h] at checked; cases checked
  | ok m =>
    rw [h] at checked
    obtain ⟨shape, encodes⟩ := Bool.and_eq_true_iff.1 checked
    obtain ⟨kind, batched, words, returns⟩ := of_decide_eq_true shape
    refine ⟨m, rfl, ?_⟩
    intro batchSize i
    have listed : m.batchItems args = .ok items := by
      unfold CompiledMethod.batchItems
      rw [batched]
      rfl
    have encoded : ∀ item ∈ items, ∃ es, m.encode args (some item) = .ok es := by
      intro item hi
      have ok := List.all_eq_true.1 encodes item hi
      cases filled : m.encode args (some item) with
      | error e => rw [filled] at ok; cases ok
      | ok es => exact ⟨es, rfl⟩
    obtain ⟨m', entries, -, each, runs⟩ :=
      MethodDeclaration.batch_size_unobservable h batched words listed encoded
    have answers (event state) : ∃ reply, (Sample.numbering event state).1 = .ok reply := by
      cases event <;> exact ⟨_, rfl⟩
    have served := served_run answers (m.execute i args) ({ sql := "" }, 0)
    obtain ⟨outcome, -⟩ := runs Sample.numbering_runsEntries i ({ sql := "" }, 0) i.settings served
    obtain ⟨a, b, c, rfl⟩ := List.length_eq_three.1 each.length_eq.symm
    rw [if_pos returns, kind] at outcome
    exact outcome

end QueryMethods
