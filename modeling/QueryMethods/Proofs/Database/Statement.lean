/-
A prepared statement, as the requests on it leave it. What is bound to a slot stays bound until it
is bound again; an entry is what the slots hold when it is queued or executed; a flush runs the
queued entries in order. The law of a database that works like this is `RunsEntries`.
-/
import QueryMethods.Proofs.Database.Served

namespace QueryMethods

open Dialogue

/-! ## Slots -/

/-- What a slot holds: a value, or a null of some type. -/
inductive SlotContent where
  | value (value : Value)
  | null (type : SlotType)
  deriving DecidableEq, Repr

namespace SlotContent

/-- The request that binds it. -/
def request (slot : Nat) : SlotContent → Event
  | value v => .bind slot v
  | null type => .bindNull slot type

/-- Requests that bind consecutive slots. -/
def requests : Nat → List SlotContent → List Event
  | _, [] => []
  | slot, c :: rest => c.request slot :: requests (slot + 1) rest

end SlotContent

/-- The slot that a request binds, and what to. -/
def Event.binding? : Event → Option (Nat × SlotContent)
  | bind slot v => some (slot, .value v)
  | bindNull slot type => some (slot, .null type)
  | _ => none

theorem SlotContent.binding_request (slot : Nat) (c : SlotContent) :
    (c.request slot).binding? = some (slot, c) := by
  cases c <;> rfl

theorem SlotContent.requests_append (b : List SlotContent) : ∀ (slot : Nat) (a : List SlotContent),
    requests slot (a ++ b) = requests slot a ++ requests (slot + a.length) b
  | _, [] => rfl
  | slot, c :: rest => by
    have ih := requests_append b (slot + 1) rest
    have behind : slot + (rest.length + 1) = slot + 1 + rest.length := by omega
    rw [List.cons_append, requests, requests, List.length_cons, behind, ih, List.cons_append]

/-- Consecutive slots are bound in order, each once. -/
theorem SlotContent.bindings_requests : ∀ (slot : Nat) (contents : List SlotContent),
    (requests slot contents).filterMap Event.binding? =
      (List.range' slot contents.length).zip contents
  | _, [] => rfl
  | slot, c :: rest => by
    have ih := bindings_requests (slot + 1) rest
    rw [requests, List.filterMap_cons, binding_request, ih]
    rfl

/-- Requests that only bind. -/
def OnlyBinds (log : List Event) : Prop := ∀ event ∈ log, (Event.binding? event).isSome = true

theorem OnlyBinds.append {log log' : List Event} (h : OnlyBinds log) (h' : OnlyBinds log') :
    OnlyBinds (log ++ log') := List.forall_mem_append.2 ⟨h, h'⟩

theorem OnlyBinds.not_mem {log : List Event} (h : OnlyBinds log) {event : Event}
    (other : event.binding? = none) : event ∉ log := by
  intro mem
  have binds := h event mem
  rw [other] at binds
  cases binds

theorem SlotContent.onlyBinds_requests : ∀ (slot : Nat) (contents : List SlotContent),
    OnlyBinds (requests slot contents)
  | _, [] => List.forall_mem_nil _
  | slot, c :: rest => List.forall_mem_cons.2
    ⟨by rw [binding_request]; rfl, onlyBinds_requests (slot + 1) rest⟩

/-! ## Statements -/

/-- What the slots of a statement hold. -/
abbrev Bindings := Nat → Option SlotContent

/-- A prepared statement: its text, what its slots hold, and the entries that are queued. -/
structure Statement where
  sql : String
  bindings : Bindings := fun _ => none
  queue : List Bindings := []

namespace Statement

/-- Bind a slot. -/
def hold (s : Statement) (slot : Nat) (c : SlotContent) : Statement :=
  { s with bindings := Function.update s.bindings slot (some c) }

/-- What a request makes of the statement. -/
def step (s : Statement) : Event → Statement
  | .prepare sql => { sql }
  | .prepareCall sql => { sql }
  | .bind slot v => s.hold slot (.value v)
  | .bindNull slot type => s.hold slot (.null type)
  | .addBatch => { s with queue := s.queue ++ [s.bindings] }
  | .executeBatch => { s with queue := [] }
  | _ => s

/-- The entries that a request executes. -/
def runs (s : Statement) : Event → List Bindings
  | .executeUpdate => [s.bindings]
  | .execute => [s.bindings]
  | .executeBatch => s.queue
  | _ => []

/-- What requests make of the statement. -/
def after (s : Statement) (log : List Event) : Statement := log.foldl step s

/-- The entries that requests execute, in order. -/
def executed (s : Statement) : List Event → List Bindings
  | [] => []
  | event :: rest => s.runs event ++ (s.step event).executed rest

/-- The number of entries of each flush. -/
def flushes (s : Statement) : List Event → List Nat
  | [] => []
  | event :: rest =>
    (if event = .executeBatch then [s.queue.length] else []) ++ (s.step event).flushes rest

variable (s : Statement)

/-- Preparing starts from a fresh statement. -/
theorem step_prepareEvent (p : Provider) (isCall : Bool) (sql : String) :
    s.step (p.prepareEvent isCall sql) = { sql } := by
  unfold Provider.prepareEvent
  split <;> rfl

@[simp] theorem after_nil : s.after [] = s := rfl

@[simp] theorem after_cons (event : Event) (log : List Event) :
    s.after (event :: log) = (s.step event).after log := rfl

theorem after_append (log log' : List Event) : s.after (log ++ log') = (s.after log).after log' :=
  List.foldl_append

theorem executed_append (log' : List Event) : ∀ (s : Statement) (log : List Event),
    s.executed (log ++ log') = s.executed log ++ (s.after log).executed log'
  | _, [] => rfl
  | s, event :: log => by
    have ih := executed_append log' (s.step event) log
    rw [List.cons_append, executed, executed, after_cons, ih, List.append_assoc]

theorem flushes_append (log' : List Event) : ∀ (s : Statement) (log : List Event),
    s.flushes (log ++ log') = s.flushes log ++ (s.after log).flushes log'
  | _, [] => rfl
  | s, event :: log => by
    have ih := flushes_append log' (s.step event) log
    rw [List.cons_append, flushes, flushes, after_cons, ih, List.append_assoc]

/-! ## Binding -/

/-- Bind slots, one after the other. -/
def holdAll (b : Bindings) (pairs : List (Nat × SlotContent)) : Bindings :=
  pairs.foldl (fun b pair => Function.update b pair.1 (some pair.2)) b

/-- What was bound before does not matter to the slots that are bound again. -/
theorem holdAll_congr {slots : List (Nat × SlotContent)} : ∀ {b b' : Bindings},
    (∀ slot, slot ∉ slots.map (·.1) → b slot = b' slot) → holdAll b slots = holdAll b' slots := by
  induction slots with
  | nil =>
    intro b b' same
    exact funext fun slot => same slot List.not_mem_nil
  | cons first rest ih =>
    intro b b' same
    refine ih fun slot fresh => ?_
    -- the slot that is bound first holds the same in both
    show Function.update b first.1 _ slot = Function.update b' first.1 _ slot
    by_cases here : slot = first.1
    · rw [here, Function.update_self, Function.update_self]
    · rw [Function.update_of_ne here, Function.update_of_ne here]
      exact same slot (List.not_mem_cons_of_ne_of_not_mem here fresh)

/-- A slot that is not bound keeps what it holds. -/
theorem holdAll_of_not_mem {slots : List (Nat × SlotContent)} {slot : Nat} :
    ∀ {b : Bindings}, slot ∉ slots.map (·.1) → holdAll b slots slot = b slot := by
  induction slots with
  | nil => intro b _; rfl
  | cons first rest ih =>
    intro b fresh
    obtain ⟨here, there⟩ := not_or.1 (mt List.mem_cons.2 fresh)
    exact (ih there).trans (Function.update_of_ne here ..)

/-- Binding leaves the queue alone and executes nothing. -/
theorem after_binds {log : List Event} : ∀ {s : Statement}, OnlyBinds log →
    s.after log = { s with bindings := holdAll s.bindings (log.filterMap Event.binding?) } ∧
      s.executed log = [] ∧ s.flushes log = [] := by
  induction log with
  | nil => intro s _; exact ⟨rfl, rfl, rfl⟩
  | cons event rest ih =>
    intro s binds
    obtain ⟨first, others⟩ := List.forall_mem_cons.1 binds
    cases event
    case bind slot v => exact ih (s := s.hold slot (.value v)) others
    case bindNull slot type => exact ih (s := s.hold slot (.null type)) others
    all_goals cases first

/-! ## What requests do -/

/-- From one statement to another, requests execute these entries and flush queues of these
sizes. -/
structure Does (s : Statement) (log : List Event) (s' : Statement) (entries : List Bindings)
    (sizes : List Nat) : Prop where
  after : s.after log = s'
  executed : s.executed log = entries
  flushes : s.flushes log = sizes

theorem Does.append {s s' s'' : Statement} {log log' : List Event}
    {entries entries' : List Bindings} {sizes sizes' : List Nat}
    (h : s.Does log s' entries sizes) (h' : s'.Does log' s'' entries' sizes') :
    s.Does (log ++ log') s'' (entries ++ entries') (sizes ++ sizes') := by
  refine ⟨?_, ?_, ?_⟩
  · rw [after_append, h.after, h'.after]
  · rw [executed_append, h.executed, h.after, h'.executed]
  · rw [flushes_append, h.flushes, h.after, h'.flushes]

theorem does_nil : s.Does [] s [] [] := ⟨rfl, rfl, rfl⟩

theorem does_update : s.Does [.executeUpdate] s [s.bindings] [] := ⟨rfl, rfl, rfl⟩

theorem does_queue : s.Does [.addBatch] { s with queue := s.queue ++ [s.bindings] } [] [] :=
  ⟨rfl, rfl, rfl⟩

theorem does_flush : s.Does [.executeBatch] { s with queue := [] } s.queue [s.queue.length] :=
  ⟨rfl, List.append_nil _, rfl⟩

theorem does_binds {log : List Event} (h : OnlyBinds log) :
    s.Does log { s with bindings := holdAll s.bindings (log.filterMap Event.binding?) } [] [] := by
  obtain ⟨after, executed, flushes⟩ := after_binds (s := s) h
  exact ⟨after, executed, flushes⟩

theorem length_flushes : ∀ (s : Statement) (log : List Event),
    (s.flushes log).length = log.count .executeBatch
  | _, [] => rfl
  | s, event :: log => by
    have ih := length_flushes (s.step event) log
    rw [flushes, List.length_append, ih, List.count_cons, Nat.add_comm]
    by_cases flush : event = .executeBatch
    · rw [if_pos flush, if_pos (beq_iff_eq.2 flush)]
      rfl
    · rw [if_neg flush, if_neg (mt beq_iff_eq.1 flush)]
      rfl

end Statement

/-! ## Sizes of queues -/

/-- The sizes of the queues when so many entries are queued and `size` of them flushed at a time. -/
def flushSizes (size count : Nat) : List Nat :=
  List.replicate (count / size) size ++ if count % size = 0 then [] else [count % size]

theorem flushSizes_of_lt {size count : Nat} (h : count < size) :
    flushSizes size count = if count = 0 then [] else [count] := by
  unfold flushSizes
  rw [Nat.div_eq_of_lt h, Nat.mod_eq_of_lt h]
  rfl

theorem flushSizes_add {size : Nat} (pos : 0 < size) (count : Nat) :
    flushSizes size (size + count) = size :: flushSizes size count := by
  unfold flushSizes
  rw [Nat.add_div_left count pos, Nat.add_mod_left, List.replicate_succ, List.cons_append]

/-- Queues are flushed as often as it takes for all entries. -/
theorem length_flushSizes {size : Nat} (pos : 0 < size) (count : Nat) :
    (flushSizes size count).length = (count + size - 1) / size := by
  have split := Nat.div_add_mod count size
  have less := Nat.mod_lt count pos
  unfold flushSizes
  rw [List.length_append, List.length_replicate]
  split
  · next whole =>
    have rest : count + size - 1 = size * (count / size) + (size - 1) := by omega
    rw [rest, Nat.mul_add_div pos, Nat.div_eq_of_lt (Nat.sub_lt pos Nat.one_pos)]
    rfl
  · next more =>
    have rest : count + size - 1 = size * (count / size + 1) + (count % size - 1) := by
      rw [Nat.mul_add_one]
      omega
    have last : (count % size - 1) / size = 0 := Nat.div_eq_of_lt (by omega)
    rw [rest, Nat.mul_add_div pos, last]
    rfl

/-! ## Databases that run entries -/

/-- Run entries in order, each with its effect; gives the counts. -/
def runAll {World : Type} (effect : Bindings → World → UInt64 × World) :
    List Bindings → World → List UInt64 × World
  | [], world => ([], world)
  | entry :: rest, world =>
    let first := effect entry world
    let others := runAll effect rest first.2
    (first.1 :: others.1, others.2)

theorem runAll_append {World : Type} (effect : Bindings → World → UInt64 × World)
    (b : List Bindings) : ∀ (a : List Bindings) (world : World), runAll effect (a ++ b) world =
      ((runAll effect a world).1 ++ (runAll effect b (runAll effect a world).2).1,
        (runAll effect b (runAll effect a world).2).2)
  | [], _ => rfl
  | entry :: rest, world => by
    have ih := runAll_append effect b rest (effect entry world).2
    rw [List.cons_append, runAll, runAll, ih]
    rfl

/-- A database that keeps a statement, and runs entries with an effect on its world: an update runs
what the slots hold, a flush runs the queued entries in order, each like an update. Binding and
queueing leave the world alone. All this is said of requests that do not fail. -/
structure RunsEntries {σ World : Type} (respond : Responder σ) (statement : σ → Statement)
    (world : σ → World) (effect : String → Bindings → World → UInt64 × World) : Prop where
  step : ∀ event state reply, (respond event state).1 = .ok reply →
    statement (respond event state).2 = (statement state).step event
  still : ∀ event state reply, (respond event state).1 = .ok reply →
    event.binding?.isSome = true ∨ event = .addBatch → world (respond event state).2 = world state
  update : ∀ state reply, (respond .executeUpdate state).1 = .ok reply →
    (reply, world (respond .executeUpdate state).2) =
      effect (statement state).sql (statement state).bindings (world state)
  flush : ∀ state reply, (respond .executeBatch state).1 = .ok reply →
    (reply, world (respond .executeBatch state).2) =
      runAll (effect (statement state).sql) (statement state).queue (world state)

section

variable {σ World α : Type} {respond : Responder σ} {statement : σ → Statement} {world : σ → World}
  {effect : String → Bindings → World → UInt64 × World}

/-- The statement behind a run is what the requests made of it. -/
theorem RunsEntries.ends (law : RunsEntries respond statement world effect) :
    ∀ (d : Dialogue α) (state : σ), Ends respond d state fun _ log behind =>
      statement behind = (statement state).after log ∧
        (OnlyBinds log → world behind = world state)
  | .done _, _ => ends_done ⟨rfl, fun _ => rfl⟩
  | .fault _ rest, state => fun served => law.ends rest state ((served_cons _ _).1 served).2
  | .ask event next, state => by
    refine ends_ask fun reply hr => (law.ends (next (.ok reply)) _).mono fun _ log behind h => ?_
    obtain ⟨after, still⟩ := h
    refine ⟨?_, fun binds => ?_⟩
    · rw [after, law.step event state reply hr, Statement.after_cons]
    · obtain ⟨first, others⟩ := List.forall_mem_cons.1 binds
      rw [still others, law.still event state reply hr (.inl first)]

variable {state : σ}

theorem RunsEntries.yields_update (law : RunsEntries respond statement world effect) :
    Yields respond (request .executeUpdate) state fun rows log behind => log = [.executeUpdate] ∧
      statement behind = statement state ∧
      (rows, world behind) =
        effect (statement state).sql (statement state).bindings (world state) :=
  yields_request fun reply hr => ⟨rfl, law.step _ state reply hr, law.update state reply hr⟩

theorem RunsEntries.yields_queue (law : RunsEntries respond statement world effect) :
    Yields respond (request .addBatch) state fun _ log behind => log = [.addBatch] ∧
      statement behind = { statement state with
        queue := (statement state).queue ++ [(statement state).bindings] } ∧
      world behind = world state :=
  yields_request fun reply hr =>
    ⟨rfl, law.step _ state reply hr, law.still _ state reply hr (.inr rfl)⟩

theorem RunsEntries.yields_flush (law : RunsEntries respond statement world effect) :
    Yields respond (request .executeBatch) state fun counts log behind => log = [.executeBatch] ∧
      statement behind = { statement state with queue := [] } ∧
      (counts, world behind) =
        runAll (effect (statement state).sql) (statement state).queue (world state) :=
  yields_request fun reply hr => ⟨rfl, law.step _ state reply hr, law.flush state reply hr⟩

end

end QueryMethods
