/-
Arguments that are not encoded. A method that runs once encodes all of them before it asks for a
connection, so that the database never hears of the call. A batch encodes its entries one by one on
the open statement: the entries before the first refused element are sent, and those that were
flushed or run stay done.
-/
import QueryMethods.Proofs.Execution.Complete

namespace QueryMethods

open Dialogue

/-! ## First failures -/

/-- The failure of a computation, if it fails. -/
def error? {ε α : Type} : Except ε α → Option ε
  | .ok _ => none
  | .error e => some e

section

variable {ε α β : Type} {x : Except ε α} {e : ε}

theorem error?_eq_some : error? x = some e ↔ x = .error e := by
  cases x with
  | ok a => exact ⟨nofun, nofun⟩
  | error e' => exact ⟨fun h => congrArg _ (Option.some.inj h), fun h => by cases h; rfl⟩

theorem error?_eq_none : error? x = none ↔ ∃ a, x = .ok a := by
  cases x with
  | ok a => exact ⟨fun _ => ⟨a, rfl⟩, fun _ => rfl⟩
  | error e => exact ⟨nofun, nofun⟩

/-- What is computed after two computations fails as the first one does, or as the second. -/
theorem error?_bind_bind {γ : Type} (x : Except ε α) (y : Except ε β) (f : α → β → γ) :
    error? (do let a ← x; let b ← y; .ok (f a b)) = (error? x).or (error? y) := by
  cases x <;> cases y <;> rfl

theorem error?_mapError {ε' : Type} (x : Except ε α) (f : ε → ε') (g : α → β) :
    error? ((x.mapError f).map g) = (error? x).map f := by
  cases x <;> rfl

/-- A list fails as the first of its elements that does. -/
theorem error?_mapM {f : α → Except ε β} {g : α → Option ε} : ∀ {xs : List α},
    (∀ x ∈ xs, error? (f x) = g x) → error? (xs.mapM f) = xs.findSome? g
  | [], _ => rfl
  | x :: xs, each => by
    obtain ⟨first, others⟩ := List.forall_mem_cons.1 each
    have both := error?_bind_bind (f x) (xs.mapM f) List.cons
    rw [first, error?_mapM others] at both
    rw [List.mapM_cons, List.findSome?_cons]
    exact both.trans (by cases g x <;> rfl)

end

/-- A dialogue that fails is not gone on with. -/
theorem Dialogue.Ends.bind_error {σ α β : Type} {respond : Responder σ} {d : Dialogue α} {state : σ}
    {f : α → Dialogue β} {e : QueryFailure} {P : List Event → Prop}
    (h : Ends respond d state fun r log _ => r = .error e ∧ P log) :
    Ends respond (d >>= f) state fun r log _ => r = .error e ∧ P log := by
  refine Ends.finish h ?_
  rintro r log behind ⟨rfl, holds⟩
  refine ends_done ⟨rfl, ?_⟩
  rwa [List.append_nil]

namespace ParameterBinding

/-- Why an element is not encoded, if it is not. -/
def refusal? (p : ParameterBinding) (item : Bindable) : Option ConversionFailure :=
  error? (p.encodeElement item)

theorem error?_encodeElements (p : ParameterBinding) : ∀ items : List Bindable,
    error? (p.encodeElements items) = items.findSome? p.refusal?
  | [] => rfl
  | item :: rest => by
    have both := error?_bind_bind (p.encodeElement item) (p.encodeElements rest) (· ++ ·)
    rw [error?_encodeElements p rest] at both
    rw [List.findSome?_cons]
    exact both.trans (by unfold refusal?; cases error? (p.encodeElement item) <;> rfl)

/-- An argument that is a list where one is bound fails as the first refused element. -/
theorem error?_encode {p : ParameterBinding} {source : Bindable}
    (list : p.isIterated = true → source = .value .null ∨ ∃ items, source = .list items) :
    error? (p.encode source) = (p.elements source).findSome? p.refusal? := by
  unfold encode elements
  by_cases single : p.mapping.iteration = .single
  · have once : p.isIterated = false := decide_eq_false (not_not_intro single)
    rw [if_pos single, once]
    show p.refusal? source = _
    rw [if_neg Bool.false_ne_true, List.findSome?_cons]
    cases p.refusal? source <;> rfl
  · have iterated : p.isIterated = true := decide_eq_true single
    rw [if_neg single, if_pos iterated]
    rcases list iterated with rfl | ⟨items, rfl⟩
    · rfl
    · exact error?_encodeElements p items

end ParameterBinding

namespace CompiledMethod

/-- Why the arguments are not encoded, if they are not: the refusal of the first refused element,
in the order of the parameters. An element of a batch stands in for its list. -/
def refusal? (m : CompiledMethod) (args : List Bindable) (element : Option Bindable) :
    Option ConversionFailure :=
  m.parameters.findSome? fun p =>
    ((m.source? args element p.argument).elim [] p.elements).findSome? p.refusal?

variable {m : CompiledMethod} {g : Signature} {args : List Bindable}

/-- Encoding fails as the first refused element, and only there. -/
theorem Complete.error?_encode (complete : m.Complete g) (shaped : g.Shaped args)
    (element : Option Bindable) :
    error? (m.encode args element) = (m.refusal? args element).map .conversion := by
  have each (p : ParameterBinding) (hp : p ∈ m.parameters) :
      error? (m.encodeParameter args element p) =
        (((m.source? args element p.argument).elim [] p.elements).findSome? p.refusal?).map
          .conversion := by
    have stands {source : Bindable} (here : m.source? args element p.argument = some source)
        (list : p.isIterated = true → source = .value .null ∨ ∃ items, source = .list items) :
        error? (m.encodeParameter args element p) =
          (((m.source? args element p.argument).elim [] p.elements).findSome? p.refusal?).map
            .conversion := by
      rw [encodeParameter_eq here, error?_mapError, ParameterBinding.error?_encode list, here]
      rfl
    obtain ⟨source, found, list⟩ := complete.source shaped hp
    by_cases batched : m.batchPosition = some p.argument
    · cases element with
      | none => exact stands ((if_pos batched).trans found) list
      | some item =>
        -- an entry is bound as it is, whatever it is
        have single := complete.single (isBatched_of_position batched) p hp
        refine stands (if_pos batched) fun iterated => ?_
        exact absurd single (of_decide_eq_true iterated)
    · exact stands ((if_neg batched).trans found) list
  unfold encode refusal?
  rw [error?_mapM each, List.map_findSome?]
  rfl

/-! ## Methods that run once -/

variable {i : CallContext} {e : QueryFailure}

/-- The arguments of a method that runs once are encoded before anything else. -/
theorem execute_refused (alone : m.batchPosition = none) (refused : m.encode args none = .error e) :
    m.execute i args = .fail e := by
  have once : m.isBatched = false := by
    unfold isBatched
    rw [alone]
    rfl
  by_cases select : m.kind = .select
  · rw [execute_select select, select_refused refused]
  · rw [execute_mutation select, once, if_neg Bool.false_ne_true, call, update, refused]
    exact ite_self _

/-! ## Batches -/

theorem bindEntry_refused {item : Bindable} (refused : m.encode args (some item) = .error e) :
    m.bindEntry args item = .fail e := by
  unfold bindEntry
  rw [refused]
  rfl

theorem runEntries_refused {item : Bindable} (refused : m.encode args (some item) = .error e)
    (size pending : Nat) (rest : List Bindable) :
    m.runEntries size args pending (item :: rest) = .fail e := by
  unfold runEntries
  rw [bindEntry_refused refused]
  rfl

/-- What is sent to a statement for entries, the last of which may still be queued: a queue is
flushed when it is full, and one entry fills a queue where none is kept. -/
structure Sends (size : Nat) (s : Statement) (fills : List (List FilledParameter))
    (log : List Event) : Prop where
  /-- No other values are bound. -/
  bound : log.filterMap Event.binding? = fills.flatMap (·.flatMap FilledParameter.placed)
  /-- Each entry is executed or queued. -/
  entries : s.executed log ++ (s.after log).queue = s.queue ++ fills.map FilledParameter.entry
  queue : (s.after log).queue.length = (s.queue.length + fills.length) % max size 1

namespace Sends

variable {size : Nat} {s : Statement}

theorem nil (room : s.queue.length < max size 1) : Sends size s [] [] where
  bound := rfl
  entries := (List.append_nil _).symm
  queue := (Nat.mod_eq_of_lt room).symm

theorem append {fills fills' : List (List FilledParameter)} {log log' : List Event}
    (h : Sends size s fills log) (h' : Sends size (s.after log) fills' log') :
    Sends size s (fills ++ fills') (log ++ log') where
  bound := by rw [List.filterMap_append, h.bound, h'.bound, List.flatMap_append]
  entries := by
    rw [Statement.executed_append, Statement.after_append, List.append_assoc, h'.entries,
      ← List.append_assoc, h.entries, List.append_assoc, List.map_append]
  queue := by
    rw [Statement.after_append, h'.queue, h.queue, Nat.mod_add_mod, List.length_append,
      Nat.add_assoc]

/-- What is executed is what full queues hold, and the rest is left behind. -/
theorem executed {fills : List (List FilledParameter)} {log : List Event}
    (h : Sends size s fills log) (fresh : s.queue = []) :
    s.executed log = (fills.map FilledParameter.entry).take
        (fills.length / max size 1 * max size 1) ∧
      (s.after log).queue = (fills.map FilledParameter.entry).drop
        (fills.length / max size 1 * max size 1) := by
  have entries := h.entries
  have queue := h.queue
  rw [fresh, List.nil_append] at entries
  rw [fresh, List.length_nil, Nat.zero_add] at queue
  have whole := congrArg List.length entries
  rw [List.length_append, queue, List.length_map] at whole
  have split := Nat.div_add_mod' fills.length (max size 1)
  have done : (s.executed log).length = fills.length / max size 1 * max size 1 := by omega
  rw [← entries, ← done]
  exact ⟨List.take_left.symm, List.drop_left.symm⟩

end Sends

/-- The requests behind the bindings of an entry, with so many entries queued before it. -/
def sendEntry (size pending : Nat) : Dialogue (List UInt64) :=
  if size = 0 then do
    let rows ← Dialogue.request .executeUpdate
    pure [rows]
  else do
    Dialogue.request .addBatch
    if pending + 1 = size then Dialogue.request .executeBatch else pure []

theorem runEntries_cons {size pending : Nat} (room : pending < max size 1) (args : List Bindable)
    (item : Bindable) (rest : List Bindable) : m.runEntries size args pending (item :: rest) = (do
      m.bindEntry args item
      let counts ← sendEntry size pending
      let others ← m.runEntries size args ((pending + 1) % max size 1) rest
      pure (counts ++ others)) := by
  rcases Nat.eq_zero_or_pos size with rfl | pos
  · obtain rfl : pending = 0 := by omega
    simp only [runEntries, sendEntry, if_true, bind_assoc, pure_bind]
    rfl
  · have some : size ≠ 0 := Nat.ne_of_gt pos
    rw [Nat.max_eq_left pos] at room ⊢
    by_cases full : pending + 1 = size
    · simp only [runEntries, sendEntry, if_neg some, full, if_true, Nat.mod_self, bind_assoc]
    · have next : (pending + 1) % size = pending + 1 := Nat.mod_eq_of_lt (by omega)
      simp only [runEntries, sendEntry, if_neg some, if_neg full, next, bind_assoc, pure_bind,
        List.nil_append, bind_pure]

section

variable {σ : Type} {respond : Responder σ} {s : Statement} {size : Nat} {item : Bindable}
  {es : List FilledParameter}

theorem yields_sendEntry (state : σ) (pending : Nat) :
    Yields respond (sendEntry size pending) state fun _ log _ =>
      log = if size = 0 then [.executeUpdate] else
        if pending + 1 = size then [.addBatch, .executeBatch] else [.addBatch] := by
  have asked (event : Event) (state : σ) :
      Yields respond (Dialogue.request event) state fun _ log _ => log = [event] :=
    yields_request fun _ _ => rfl
  unfold sendEntry
  split
  · refine (asked _ state).bind fun _ _ _ h => yields_pure ?_
    rw [h]
    rfl
  · refine (asked _ state).bind fun _ _ _ h => ?_
    split
    · refine (asked _ _).mono fun _ _ _ h' => ?_
      rw [h, h']
      rfl
    · refine yields_pure ?_
      rw [h]
      rfl

/-- One entry, sent to a statement with room in its queue. -/
theorem Places.sends (places : m.Places) (filled : m.encode args (some item) = .ok es)
    (owns : m.Owns s) (room : s.queue.length < max size 1) {binds : List Event}
    (only : OnlyBinds binds)
    (pairs : binds.filterMap Event.binding? = es.flatMap FilledParameter.placed) :
    let log := binds ++ if size = 0 then [.executeUpdate] else
      if s.queue.length + 1 = size then [.addBatch, .executeBatch] else [.addBatch]
    Sends size s [es] log ∧ m.Owns (s.after log) := by
  have bound := s.does_binds only
  rw [pairs, owns.rebind places filled, owns.sql] at bound
  have sent {more : List Event} {run queue : List Bindings} {sizes : List Nat}
      (unbound : more.filterMap Event.binding? = [])
      (does : Statement.Does ⟨m.sql, FilledParameter.entry es, s.queue⟩ more
        ⟨m.sql, FilledParameter.entry es, queue⟩ run sizes)
      (all : run ++ queue = s.queue ++ [FilledParameter.entry es])
      (left : queue.length = (s.queue.length + 1) % max size 1) :
      Sends size s [es] (binds ++ more) ∧ m.Owns (s.after (binds ++ more)) := by
    have both := bound.append does
    refine ⟨⟨?_, ?_, ?_⟩, ?_⟩
    · rw [List.filterMap_append, unbound, List.append_nil, pairs, List.flatMap_singleton]
    · rw [both.executed, both.after]
      exact all
    · rw [both.after]
      exact left
    · rw [both.after]
      exact places.owns filled queue
  intro log
  unfold log
  rcases Nat.eq_zero_or_pos size with rfl | pos
  · have empty : s.queue = [] := List.eq_nil_of_length_eq_zero (by omega)
    rw [if_pos rfl]
    refine sent rfl (Statement.does_update _) ?_ ?_
    · rw [empty]
      rfl
    · rw [empty]
      rfl
  · rw [if_neg (Nat.ne_of_gt pos)]
    rw [Nat.max_eq_left pos] at room sent
    by_cases full : s.queue.length + 1 = size
    · rw [if_pos full]
      refine sent rfl ((Statement.does_queue _).append (Statement.does_flush _)) ?_ ?_
      · exact List.append_nil _
      · rw [full, Nat.mod_self]
        rfl
    · rw [if_neg full]
      refine sent rfl (Statement.does_queue _) rfl ?_
      rw [Nat.mod_eq_of_lt (by omega), List.length_append, List.length_singleton]

/-- A batch ends at the first refused element, behind the entries before it. -/
theorem ends_runEntries_refused (places : m.Places) {before rest : List Bindable}
    {fills : List (List FilledParameter)}
    (each : List.Forall₂ (fun item es => m.encode args (some item) = .ok es) before fills)
    (refused : m.encode args (some item) = .error e) : ∀ (state : σ) (s : Statement), m.Owns s →
      s.queue.length < max size 1 →
      Ends respond (m.runEntries size args s.queue.length (before ++ item :: rest)) state
        fun r log _ => r = .error e ∧ Sends size s fills log := by
  -- the counter of the loop is the length of the queue, which always has room for one more
  induction each with
  | nil =>
    intro state s _ room
    rw [List.nil_append, runEntries_refused refused]
    intro _
    exact ⟨rfl, .nil room⟩
  | @cons first es before fills filled _ ih =>
    intro state s owns room
    have known : m.bindEntry args first = bindParameters es := by
      unfold bindEntry
      rw [filled]
      rfl
    rw [List.cons_append, runEntries_cons room, known]
    refine (yields_bindParameters places filled).bind fun _ binds _ hb => ?_
    obtain ⟨only, pairs⟩ := hb
    refine (yields_sendEntry _ _).bind fun counts sent behind hs => ?_
    obtain ⟨sends, owned⟩ := places.sends filled owns room only pairs
    rw [← hs] at sends owned
    have less : (s.after (binds ++ sent)).queue.length < max size 1 := by
      rw [sends.queue]
      exact Nat.mod_lt _ (by omega)
    have rest := ih behind (s.after (binds ++ sent)) owned less
    rw [sends.queue, List.length_singleton] at rest
    refine Ends.mono (Ends.bind_error rest) fun r log _ h => ?_
    obtain ⟨rfl, sends'⟩ := h
    refine ⟨rfl, ?_⟩
    rw [← List.append_assoc]
    exact sends.append sends'

/-- A run of a batch sends the entries before the refused one, and nothing else. -/
theorem ends_batch_refused (places : m.Places) (mutation : m.kind ≠ .select) {position : Nat}
    (batch : m.batchPosition = some position) {before rest : List Bindable}
    (listed : m.batchItems args = .ok (before ++ item :: rest)) {fills : List (List FilledParameter)}
    (each : List.Forall₂ (fun item es => m.encode args (some item) = .ok es) before fills)
    (refused : m.encode args (some item) = .error e) (i : CallContext) (state : σ) :
    Ends respond (m.execute i args) state fun r log _ => r = .error e ∧
      ∃ work, log = m.session i.provider work ∧
        Sends i.settings.batchSize { sql := m.sql } fills work := by
  rw [execute_batch mutation batch listed]
  refine Ends.onPrepared fun _ _ => ?_
  have room : ({ sql := m.sql } : Statement).queue.length < max i.settings.batchSize 1 :=
    Nat.lt_of_lt_of_le Nat.one_pos (Nat.le_max_right _ _)
  refine Ends.mono (Ends.bind_error (ends_runEntries_refused places each refused _ _ m.owns_fresh
    room)) fun r log _ hr => ?_
  obtain ⟨rfl, sends⟩ := hr
  exact ⟨rfl, log, rfl, sends⟩

/-- A batch without elements only prepares its statement. -/
theorem ends_batch_empty (mutation : m.kind ≠ .select) {position : Nat}
    (batch : m.batchPosition = some position) (listed : m.batchItems args = .ok []) (i : CallContext)
    (state : σ) : Ends respond (m.execute i args) state fun r log _ =>
      (∃ output, r = .ok output) ∧ log = m.session i.provider [] := by
  rw [execute_batch mutation batch listed]
  refine Ends.onPrepared fun _ _ => ?_
  exact ends_done ⟨⟨_, rfl⟩, rfl⟩

end

end CompiledMethod

/-! ## Accepted methods -/

/-- Arguments that are not encoded. Take an accepted method and arguments as they are declared. A
method that runs once returns the refusal of the first refused element, and the database is not
asked for anything. A batch returns the refusal of the first refused element as well, but on a
database that serves its requests the entries before that one have been sent: those of full queues
are executed, or all where none is kept, the others are queued for nothing, and no other value has
been bound. A batch without elements does not look at its other arguments. Slots are 64-bit
words. -/
theorem MethodDeclaration.refused_arguments {d : MethodDeclaration} {catalog : Catalog}
    {adapters : AdapterTable} {interface : String} {m : CompiledMethod}
    (h : d.compile catalog adapters interface = .ok m) (words : m.bindCount < UInt64.size)
    {args : List Bindable} (shaped : d.signature.Shaped args) :
    (m.isBatched = false → ∀ e, m.refusal? args none = some e →
      ∀ (i : CallContext) {σ : Type} (respond : Responder σ) (state : σ),
        let run := (m.execute i args).run respond state
        run.outcome = .error (.conversion e) ∧ run.events = [] ∧ run.state = state) ∧
    (m.isBatched = true → ∃ items, m.batchItems args = .ok items ∧
      (∀ before item rest e, items = before ++ item :: rest →
        (∀ x ∈ before, m.refusal? args (some x) = none) → m.refusal? args (some item) = some e →
        ∃ fills, List.Forall₂ (fun x es => m.encode args (some x) = .ok es) before fills ∧
          ∀ (i : CallContext) {σ : Type} (respond : Responder σ) (state : σ),
            let run := (m.execute i args).run respond state
            let entries := fills.map FilledParameter.entry
            let full := max i.settings.batchSize 1
            Served run.steps → run.outcome = .error (.conversion e) ∧
              ∃ work, run.events = m.session i.provider work ∧
                work.filterMap Event.binding? = fills.flatMap (·.flatMap FilledParameter.placed) ∧
                ({ sql := m.sql } : Statement).executed work =
                  entries.take (before.length / full * full) ∧
                (({ sql := m.sql } : Statement).after work).queue =
                  entries.drop (before.length / full * full)) ∧
      (items = [] → ∀ (i : CallContext) {σ : Type} (respond : Responder σ) (state : σ),
        let run := (m.execute i args).run respond state
        Served run.steps → (∃ output, run.outcome = .ok output) ∧
          run.events = m.session i.provider [])) := by
  have compiled := mapError_eq_ok.1 h
  obtain ⟨t, resolved, -, source⟩ := MethodScope.compile_resolvedFrom compiled
  have complete : m.Complete d.signature := source.complete
  have refused {element : Option Bindable} {e : ConversionFailure}
      (found : m.refusal? args element = some e) :
      m.encode args element = .error (.conversion e) := by
    have encoded := complete.error?_encode shaped element
    rw [found] at encoded
    exact error?_eq_some.1 encoded
  have filled {element : Option Bindable} (found : m.refusal? args element = none) :
      ∃ es, m.encode args element = .ok es := by
    have encoded := complete.error?_encode shaped element
    rw [found] at encoded
    exact error?_eq_none.1 encoded
  refine ⟨fun once e found i σ respond state => ?_, fun batched => ?_⟩
  · have alone : m.batchPosition = none := Option.not_isSome_iff_eq_none.1 (by
      unfold CompiledMethod.isBatched at once
      rw [once]
      exact Bool.false_ne_true)
    rw [CompiledMethod.execute_refused alone (refused found)]
    exact ⟨rfl, rfl, rfl⟩
  · obtain ⟨items, listed, -⟩ := complete.batchItems shaped batched
    obtain ⟨position, position_eq⟩ := Option.isSome_iff_exists.1 batched
    have mutation : d.kind ≠ .select := fun select => by
      have none := (MethodScope.batchPosition_select select).symm.trans source.batch
      rw [position_eq] at none
      cases none
    have kind : m.kind ≠ .select := by
      rw [source.kind]
      exact mutation
    have places : m.Places := MethodScope.compile_places mutation compiled words
    refine ⟨items, listed, ?_, ?_⟩
    · rintro before item rest e rfl encoded found
      obtain ⟨fills, each⟩ := CompiledMethod.fills_of_encoded fun x hx => filled (encoded x hx)
      refine ⟨fills, each, fun i σ respond state => ?_⟩
      intro run entries full served
      obtain ⟨outcome, work, events, sends⟩ := CompiledMethod.ends_batch_refused places kind
        position_eq listed each (refused found) i state served
      obtain ⟨executed, queue⟩ := sends.executed rfl
      rw [← each.length_eq] at executed queue
      exact ⟨outcome, work, events, sends.bound, executed, queue⟩
    · rintro rfl i σ respond state
      exact CompiledMethod.ends_batch_empty kind position_eq listed i state

/-- A reading with a value that no slot can hold. -/
def Sample.wideReading : Bindable := (Content.unsigned 18446744073709551615).toBindable

/-- Readings are stored one by one. -/
def Sample.addReadings : MethodDeclaration :=
  { name := "add_readings"
    kind := .insert
    template := "INSERT INTO readings VALUES (\x7b%1\x7d)"
    signature := { arguments := [⟨none, .array, ⟨.scalar .long, false⟩⟩], returns := .unit } }

/-- Readings are looked up by their values. -/
def Sample.readingsAt : MethodDeclaration :=
  { name := "readings_at"
    kind := .select
    template := "SELECT \x7b%%\x7d FROM readings WHERE value IN (\x7b%1\x7d)"
    signature :=
      { arguments := [⟨none, .array, ⟨.scalar .long, false⟩⟩]
        returns := .many ⟨.scalar .long, false⟩ } }

/-- The lookup asks for nothing; of the four readings to store two are stored, with queues of two. -/
theorem Sample.readings_refused :
    let args : List Bindable := [.list [.value (.long 1), .value (.long 2), .value (.long 3),
      Sample.wideReading]]
    let i : CallContext := ⟨⟨fun _ => true, none⟩, { batchSize := 2 }, none⟩
    let refusal := .error (.conversion (.overflow "18446744073709551615" "i64"))
    (∃ m, Sample.readingsAt.compile ⟨[]⟩ ⟨[]⟩ "Readings" = .ok m ∧
      let run := (m.execute i args).run Sample.numbering ({ sql := "" }, 0)
      run.outcome = refusal ∧ run.events = []) ∧
    ∃ m, Sample.addReadings.compile ⟨[]⟩ ⟨[]⟩ "Readings" = .ok m ∧
      let run := (m.execute i args).run Sample.numbering ({ sql := "" }, 0)
      run.outcome = refusal ∧ ∃ work, run.events = m.session i.provider work ∧
        (({ sql := m.sql } : Statement).executed work).length = 2 := by
  intro args i refusal
  have shaped (d : MethodDeclaration)
      (one : d.signature.arguments = [⟨none, .array, ⟨.scalar .long, false⟩⟩]) :
      d.signature.Shaped args := by
    refine ⟨by rw [one]; rfl, fun {position a} ha _ => ?_⟩
    rw [one] at ha
    cases position with
    | zero => exact .inr ⟨_, rfl⟩
    | succ n => cases ha
  have checked : (Sample.readingsAt.compile ⟨[]⟩ ⟨[]⟩ "Readings").toOption.any (fun m =>
      decide (m.bindCount < UInt64.size ∧ m.isBatched = false ∧
        m.refusal? args none = some (.overflow "18446744073709551615" "i64"))) = true := by
    decide +kernel
  have checked' : (Sample.addReadings.compile ⟨[]⟩ ⟨[]⟩ "Readings").toOption.any (fun m =>
      decide (m.bindCount < UInt64.size ∧ m.isBatched = true ∧
        m.refusal? args (some (.value (.long 1))) = none ∧
        m.refusal? args (some (.value (.long 2))) = none ∧
        m.refusal? args (some (.value (.long 3))) = none ∧
        m.refusal? args (some Sample.wideReading) =
          some (.overflow "18446744073709551615" "i64")) &&
      decide (m.batchPosition = some 0)) = true := by
    decide +kernel
  obtain ⟨m, h, checks⟩ := exists_of_any checked
  obtain ⟨m', h', checks'⟩ := exists_of_any checked'
  obtain ⟨words, once, found⟩ := of_decide_eq_true checks
  obtain ⟨shape, position⟩ := Bool.and_eq_true_iff.1 checks'
  obtain ⟨words', batched, first, second, third, last⟩ := of_decide_eq_true shape
  refine ⟨⟨m, h, ?_⟩, m', h', ?_⟩
  · obtain ⟨single, -⟩ := MethodDeclaration.refused_arguments h words (shaped _ rfl)
    obtain ⟨outcome, events, -⟩ := single once _ found i Sample.numbering ({ sql := "" }, 0)
    exact ⟨outcome, events⟩
  · obtain ⟨-, many⟩ := MethodDeclaration.refused_arguments h' words' (shaped _ rfl)
    obtain ⟨items, listed, refused, -⟩ := many batched
    have all : items = [.value (.long 1), .value (.long 2), .value (.long 3)] ++
        [Sample.wideReading] := by
      unfold CompiledMethod.batchItems at listed
      rw [of_decide_eq_true position] at listed
      exact (Except.ok.inj listed).symm
    have encoded : ∀ x ∈ [Bindable.value (.long 1), .value (.long 2), .value (.long 3)],
        m'.refusal? args (some x) = none :=
      List.forall_mem_cons.2 ⟨first, List.forall_mem_cons.2 ⟨second,
        List.forall_mem_singleton.2 third⟩⟩
    obtain ⟨fills, each, runs⟩ := refused _ _ _ _ all encoded last
    have answers (event state) : ∃ reply, (Sample.numbering event state).1 = .ok reply := by
      cases event <;> exact ⟨_, rfl⟩
    have served := served_run answers (m'.execute i args) ({ sql := "" }, 0)
    obtain ⟨outcome, work, events, -, executed, -⟩ :=
      runs i Sample.numbering ({ sql := "" }, 0) served
    refine ⟨outcome, work, events, ?_⟩
    rw [executed, List.length_take, List.length_map, ← each.length_eq]
    show min (3 / max 2 1 * max 2 1) 3 = 2
    rfl

/-- Whether the outcome is the refusal of a number that does not fit. -/
def Sample.overflows (number type : String) : Except QueryFailure Output → Bool
  | .error (.conversion e) => decide (e = .overflow number type)
  | _ => false

theorem Sample.overflows_iff {number type : String} {outcome : Except QueryFailure Output} :
    overflows number type outcome = true ↔
      outcome = .error (.conversion (.overflow number type)) := by
  constructor
  · intro h
    match outcome, h with
    | .error (.conversion e), h => rw [of_decide_eq_true h]
  · rintro rfl
    exact decide_eq_true rfl

/-- A batch whose second element is refused has run its first one by then. -/
theorem Sample.addReadings_half_stored :
    let args : List Bindable := [.list [.value (.long 1), Sample.wideReading]]
    let i : CallContext := ⟨⟨fun _ => true, none⟩, { batchSize := 0 }, none⟩
    ∃ m, Sample.addReadings.compile ⟨[]⟩ ⟨[]⟩ "Readings" = .ok m ∧
      m.refusal? args (some Sample.wideReading) =
        some (.overflow "18446744073709551615" "i64") ∧
      let run := (m.execute i args).run Sample.numbering ({ sql := "" }, 0)
      run.outcome = .error (.conversion (.overflow "18446744073709551615" "i64")) ∧
      run.events = [.acquire, .onAcquire, .prepare "INSERT INTO readings VALUES (?)",
        .bind 1 (.long 1), .executeUpdate, .closeStatement, .release] := by
  intro args i
  have checked : (Sample.addReadings.compile ⟨[]⟩ ⟨[]⟩ "Readings").toOption.any (fun m =>
      let run := (m.execute i args).run Sample.numbering ({ sql := "" }, 0)
      decide (m.refusal? args (some Sample.wideReading) =
        some (.overflow "18446744073709551615" "i64")) &&
      Sample.overflows "18446744073709551615" "i64" run.outcome &&
      decide (run.events = [.acquire, .onAcquire, .prepare "INSERT INTO readings VALUES (?)",
        .bind 1 (.long 1), .executeUpdate, .closeStatement, .release])) = true := by
    decide +kernel
  obtain ⟨m, h, checks⟩ := exists_of_any checked
  simp only [Bool.and_eq_true, decide_eq_true_eq] at checks
  obtain ⟨⟨refused, failed⟩, events⟩ := checks
  exact ⟨m, h, refused, Sample.overflows_iff.1 failed, events⟩

end QueryMethods
