/-
What a call leaves behind, whatever the database does: the connection is released, the statement
and the cursor are closed, and no entry is executed twice.
-/
import QueryMethods.Proofs.Execution.Cases

namespace QueryMethods.CompiledMethod

open Dialogue

/-! ## Executions -/

/-- How many entries are executed, `queued` of them being in the queue already. A flush executes
what is in the queue, and counts as an execution even if nothing is. -/
def executed : Nat → List Event → Nat
  | _, [] => 0
  | queued, event :: rest =>
    match event with
    | .query | .executeUpdate | .execute => 1 + executed queued rest
    | .addBatch => executed (queued + 1) rest
    | .executeBatch => max 1 queued + executed 0 rest
    | _ => executed queued rest

/-- Requests that neither execute nor queue. -/
def quiet : Event → Bool
  | .query | .executeUpdate | .execute | .addBatch | .executeBatch => false
  | _ => true

/-- Requests that neither execute nor queue. -/
abbrev Quiet (event : Event) : Prop := quiet event = true

theorem executed_cons_quiet {event : Event} (h : Quiet event) (queued : Nat) (log : List Event) :
    executed queued (event :: log) = executed queued log := by
  cases event <;> first | rfl | exact absurd h (by decide)

theorem executed_append_quiet {a : List Event} (h : ∀ event ∈ a, Quiet event) (queued : Nat)
    (log : List Event) : executed queued (a ++ log) = executed queued log := by
  induction a with
  | nil => rfl
  | cons event rest ih =>
    obtain ⟨he, hr⟩ := List.forall_mem_cons.1 h
    rw [List.cons_append, executed_cons_quiet he, ih hr]

theorem executed_quiet_append {b : List Event} (h : ∀ event ∈ b, Quiet event) :
    ∀ (queued : Nat) (log : List Event), executed queued (log ++ b) = executed queued log
  | queued, [] => by
    have := executed_append_quiet h queued []
    rwa [List.append_nil] at this
  | queued, event :: rest => by
    rw [List.cons_append]
    unfold executed
    cases event <;> simp only [executed_quiet_append h]

/-- The number of times a method may be executed: once, or once for each entry. -/
def entryCount (m : CompiledMethod) (args : List Bindable) : Nat :=
  if m.kind = .select ∨ m.isBatched = false then 1
  else
    match m.batchItems args with
    | .ok items => items.length
    | .error _ => 0

section

variable {α β : Type}

/-- What is quiet does not count. -/
theorem executed_bind {d : Dialogue α} {f : α → Dialogue β} {queued n : Nat}
    (h : Sequential Quiet d)
    (hf : ∀ a, (f a).Always fun s _ => executed queued (events s) ≤ n) :
    (d >>= f).Always fun s _ => executed queued (events s) ≤ n := by
  refine h.within.bind (fun s a hs => (hf a).mono fun s' _ hs' => ?_) fun s _ hs => ?_
  · rwa [events_append, executed_append_quiet hs]
  · have := executed_append_quiet hs queued []
    rw [List.append_nil] at this
    rw [this]
    exact Nat.zero_le n

end

variable (m : CompiledMethod)

theorem executed_runEntries (size : Nat) (args : List Bindable) :
    ∀ (pending : Nat) (items : List Bindable), (m.runEntries size args pending items).Always
      fun s _ => executed pending (events s) ≤ pending + items.length
  | pending, [] => by
    unfold runEntries
    split
    · next hp =>
      have flush : executed pending [.executeBatch] = max 1 pending := rfl
      rintro (e | reply) <;> simp [flush] <;> omega
    · exact Nat.zero_le _
  | pending, item :: rest => by
    have ih := fun pending => executed_runEntries size args pending rest
    have binds := m.sequential_bindEntry (A := Quiet) (fun _ _ => rfl) (fun _ _ => rfl) args item
    unfold runEntries
    refine executed_bind binds fun _ => ?_
    split
    · -- the entry runs at once
      have update (log : List Event) :
          executed pending (.executeUpdate :: log) = 1 + executed pending log := rfl
      refine always_request_bind (fun e => ?_) fun reply => ?_
      · have : executed pending [] = 0 := rfl
        simp [update, this]; omega
      · refine (ih pending).bind (fun s _ hs => ?_) fun s _ hs => ?_ <;> simp [update] <;> omega
    · -- the entry is queued, and the queue flushed if it is full
      have add (log : List Event) :
          executed pending (.addBatch :: log) = executed (pending + 1) log := rfl
      have flush (log : List Event) : executed (pending + 1) (.executeBatch :: log) =
          max 1 (pending + 1) + executed 0 log := rfl
      have nil (queued : Nat) : executed queued [] = 0 := rfl
      refine always_request_bind (fun e => by simp [add, nil]) fun reply => ?_
      split
      · refine always_request_bind (fun e => by simp [add, flush, nil]) fun flushed => ?_
        refine (ih 0).bind (fun s _ hs => ?_) fun s _ hs => ?_ <;> simp [add, flush] <;> omega
      · refine (ih (pending + 1)).mono fun s _ hs => ?_
        simp [add]; omega

/-! ## Entries -/

/-- What a batch asks of its statement: each entry in turn is bound and then sent, once, to run
at once or to the queue; the queue is flushed in between. It may stop anywhere. -/
inductive EntryLog (m : CompiledMethod) (args : List Bindable) : List Bindable → List Event → Prop
  | stop (items : List Bindable) : EntryLog m args items []
  | unbound {item : Bindable} {rest : List Bindable} {s : List Step} {e : QueryFailure}
      (bound : (m.bindEntry args item).Path s (.error e)) : EntryLog m args (item :: rest) (events s)
  | sent {item : Bindable} {rest : List Bindable} {s : List Step} {send : Event} {log : List Event}
      (bound : (m.bindEntry args item).Path s (.ok ()))
      (sends : send = .executeUpdate ∨ send = .addBatch)
      (others : EntryLog m args rest log) : EntryLog m args (item :: rest) (events s ++ send :: log)
  | flush {items : List Bindable} {log : List Event} (others : EntryLog m args items log) :
      EntryLog m args items (.executeBatch :: log)

theorem entryLog_runEntries (size : Nat) (args : List Bindable) :
    ∀ (pending : Nat) (items : List Bindable), (m.runEntries size args pending items).Always
      fun s _ => m.EntryLog args items (events s)
  | pending, [] => by
    unfold runEntries
    split
    · rintro (e | reply) <;> exact EntryLog.flush (.stop _)
    · exact .stop _
  | pending, item :: rest => by
    have ih := fun pending => entryLog_runEntries size args pending rest
    unfold runEntries
    refine (always_path _).bind (fun s u bound => ?_) fun s e bound => .unbound bound
    have sent {send : Event} {reply : Except DatabaseFailure send.Reply} {s' : List Step}
        (sends : send = .executeUpdate ∨ send = .addBatch)
        (others : m.EntryLog args rest (events s')) :
        m.EntryLog args (item :: rest) (events (s ++ .asked send reply :: s')) := by
      rw [events_append, events_asked]
      exact .sent bound sends others
    split
    · refine always_request_bind (fun e => sent (.inl rfl) (.stop _)) fun reply => ?_
      refine (ih pending).bind (fun s' _ hs' => ?_) fun s' _ hs' => sent (.inl rfl) hs'
      rw [always_pure, List.append_nil]
      exact sent (.inl rfl) hs'
    · refine always_request_bind (fun e => sent (.inr rfl) (.stop _)) fun reply => ?_
      split
      · refine always_request_bind (fun e => sent (.inr rfl) (.flush (.stop _))) fun flushed => ?_
        refine (ih 0).bind (fun s' _ hs' => ?_) fun s' _ hs' => sent (.inr rfl) (.flush hs')
        rw [always_pure, List.append_nil]
        exact sent (.inr rfl) (.flush hs')
      · exact (ih (pending + 1)).mono fun s' _ hs' => sent (.inr rfl) hs'

/-! ## The use of a statement -/

section

variable {m : CompiledMethod} {i : CallContext} {args : List Bindable} {isCall : Bool}
  {sql : String} {body : Dialogue Output}

theorem executed_update (m : CompiledMethod) (encoded : List FilledParameter) : (do
      bindParameters encoded
      let rows ← Dialogue.request .executeUpdate
      pure (m.countOutput rows)).Always fun s _ => executed 0 (events s) ≤ 1 := by
  refine executed_bind (sequential_bindParameters (fun _ _ => rfl) (fun _ _ => rfl) encoded) fun _ => ?_
  exact always_request_bind (fun e => Nat.le_refl 1) fun rows => Nat.le_refl 1

/-- Reading the rows of a query executes nothing more. -/
theorem executed_readRows (m : CompiledMethod) (i : CallContext) :
    (m.readRowsAs i).Always fun s _ => executed 0 (events s) ≤ 1 := by
  obtain ⟨n, read, hr, he⟩ := m.readRowsAs_eq i
  rw [he]
  refine executed_bind (i.provider.sequential_fetchSize (fun _ => rfl) n) fun _ => ?_
  have rows : ∀ event, ReadsRow event → Quiet event := by
    intro event he
    cases event <;> first | rfl | exact absurd he (by decide)
  have inside (reply : Event.query.Reply) : (read reply).Always fun s _ => Within Quiet s :=
    ((hr reply).mono rows).within
  refine (always_bracket inside).mono fun s r hs => ?_
  rcases hs with ⟨e, rfl, -⟩ | ⟨reply, used, inner, closed, hin, rfl, -⟩
  · exact Nat.le_refl 1
  · have query (log : List Event) : executed 0 (.query :: log) = 1 + executed 0 log := rfl
    rw [events_asked, query, events_append, executed_append_quiet hin]
    exact Nat.le_refl 1

/-- A call is one execution, whatever is read from its OUT parameters. -/
theorem executed_execute (provider : Provider) {f : Unit → Dialogue Output}
    (rest : Sequential Quiet (f ())) :
    (provider.execute >>= f).Always fun s _ => executed 0 (events s) ≤ 1 := by
  have once : provider.execute.Always fun s _ =>
      ∀ log, (∀ event ∈ log, Quiet event) → executed 0 (events s ++ log) ≤ 1 := by
    unfold Provider.execute
    split
    all_goals
      rintro (e | reply) log hl
      all_goals exact Nat.le_of_eq (executed_quiet_append hl 0 _)
  refine once.bind (fun s _ hs => rest.within.mono fun s' _ hs' => ?_) fun s _ hs => ?_
  · rw [events_append]
    exact hs _ hs'
  · have := hs [] nofun
    rwa [List.append_nil] at this

theorem StatementUse.executed (h : m.StatementUse i args isCall sql body) :
    body.Always fun s _ => executed 0 (events s) ≤ m.entryCount args := by
  have bind : ∀ slot v, Quiet (.bind slot v) := fun _ _ => rfl
  have bindNull : ∀ slot type, Quiet (.bindNull slot type) := fun _ _ => rfl
  cases h with
  | @select ready kind _ =>
    rw [show m.entryCount args = 1 from if_pos (.inl kind)]
    exact executed_bind (ready.sequential_bind bind bindNull) fun _ => m.executed_readRows i
  | update single _ _ =>
    rw [show m.entryCount args = 1 from if_pos (.inr single.2)]
    exact m.executed_update _
  | count single _ _ _ =>
    rw [show m.entryCount args = 1 from if_pos (.inr single.2)]
    exact m.executed_update _
  | out single _ _ _ =>
    rw [show m.entryCount args = 1 from if_pos (.inr single.2)]
    refine executed_bind (sequential_bindParameters bind bindNull _) fun _ => ?_
    refine executed_bind (sequential_registerResults i.provider (fun _ _ => rfl) _) fun _ => ?_
    refine executed_execute i.provider ?_
    have read := m.sequential_readResult fun slot type =>
      i.provider.sequential_outValue (A := Quiet) (fun _ _ => rfl) slot type
    exact read.bind fun datum => sequential_pure (Output.one datum)
  | @batch items batched listed =>
    have many : m.entryCount args = items.length := by
      unfold entryCount
      rw [listed, if_neg (by simp [batched.1, batched.2])]
    rw [many]
    have runs := m.executed_runEntries i.settings.batchSize args 0 items
    rw [Nat.zero_add] at runs
    refine runs.bind (fun s _ hs => ?_) fun s _ hs => hs
    rwa [always_pure, List.append_nil]

theorem StatementUse.entryLog (h : m.StatementUse i args isCall sql body)
    (batched : m.kind ≠ .select ∧ m.isBatched = true) {items : List Bindable}
    (listed : m.batchItems args = .ok items) :
    body.Always fun s _ => m.EntryLog args items (events s) := by
  cases h with
  | select kind _ => exact absurd kind batched.1
  | update single _ _ | count single _ _ _ | out single _ _ _ =>
    exact absurd single.2 (by rw [batched.2]; nofun)
  | batch _ listed' =>
    obtain rfl := Except.ok.inj (listed.symm.trans listed')
    refine (m.entryLog_runEntries _ args 0 items).bind (fun s _ hs => ?_) fun s _ hs => hs
    rwa [always_pure, List.append_nil]

end

/-! ## Whole calls -/

/-- What a call leaves behind: every handle is closed, and nothing is done twice. -/
structure LeavesNothingOpen (m : CompiledMethod) (args : List Bindable) (steps : List Step) :
    Prop where
  connection : ConnectionLife steps
  /-- Requests on the statement include those on its cursor, and the closing of the cursor. -/
  statement : HandleLife Prepares onPrepared .closeStatement steps
  cursor : HandleLife (· = .query) readsRow .closeRows steps
  executions : executed 0 (events steps) ≤ m.entryCount args
  entries : m.kind ≠ .select ∧ m.isBatched = true → ∀ items, m.batchItems args = .ok items →
    m.EntryLog args items ((events steps).filter onPrepared)
  /-- Behind a failure there is nothing but closing. -/
  stops : Stops steps

/-- Requests around the use of a statement. -/
abbrev Outer (event : Event) : Prop := onPrepared event = false

section

variable {m : CompiledMethod} {i : CallContext} {args : List Bindable} {isCall : Bool}
  {sql : String} {body : Dialogue Output}

theorem outer_prepareEvent (p : Provider) (isCall : Bool) (sql : String) :
    Outer (p.prepareEvent isCall sql) := by
  unfold Provider.prepareEvent
  split <;> rfl

theorem prepares_prepareEvent (p : Provider) (isCall : Bool) (sql : String) :
    Prepares (p.prepareEvent isCall sql) := by
  unfold Provider.prepareEvent
  split
  · exact .inr ⟨_, rfl⟩
  · exact .inl ⟨_, rfl⟩

/-- What holds of the use of a statement and does not depend on what is around it holds of the
whole call. -/
theorem always_of_use {Q : List Step → Prop} (nil : Q [])
    (pad : ∀ a s b, Within Outer a → Within Outer b → Q s → Q (a ++ s ++ b))
    (h : body.Always fun s _ => Q s) :
    (onConnection i.provider (onStatement i.provider isCall sql body)).Always fun s _ => Q s := by
  refine always_onConnection_of_pad pad nil rfl rfl rfl ?_
  exact always_onStatement_of_pad pad nil (outer_prepareEvent _ _ _) rfl h

theorem StatementUse.statementLife (h : m.StatementUse i args isCall sql body) :
    (onConnection i.provider (onStatement i.provider isCall sql body)).Always fun s _ =>
      HandleLife Prepares onPrepared .closeStatement s := by
  have alone {event : Event} (hp : ¬ Prepares event) (ho : Outer event)
      (hc : event ≠ .closeStatement) : LeavesAlone Prepares onPrepared .closeStatement event :=
    ⟨hp, ho, hc⟩
  refine always_onConnection_of_pad (fun a s b ha hb hs => hs.pad ha hb)
    (.untouched within_nil) (alone ?_ rfl nofun) (alone ?_ rfl nofun) (alone ?_ rfl nofun) ?_
  iterate 3 rintro (⟨sql, h⟩ | ⟨sql, h⟩) <;> cases h
  have opened := prepares_prepareEvent i.provider isCall sql
  refine handleLife_bracket opened (outer_prepareEvent _ _ _) ?_ fun _ => ?_
  · intro hc
    rw [hc] at opened
    rcases opened with ⟨sql, h⟩ | ⟨sql, h⟩ <;> cases h
  · refine h.within.mono fun s _ hs => hs.mono fun event he => ⟨?_, ?_⟩
    · rintro (⟨sql, rfl⟩ | ⟨sql, rfl⟩) <;> exact absurd he (by simp [onPrepared])
    · rintro rfl
      exact absurd he (by decide)

theorem StatementUse.cursorLife (h : m.StatementUse i args isCall sql body) :
    (onConnection i.provider (onStatement i.provider isCall sql body)).Always fun s _ =>
      HandleLife (· = .query) readsRow .closeRows s := by
  have outer {event : Event} (ho : Outer event) :
      LeavesAlone (· = .query) readsRow .closeRows event := by
    refine ⟨?_, Bool.eq_false_iff.2 fun reads => ?_, ?_⟩
    · rintro rfl
      exact absurd ho (by decide)
    · exact Bool.false_ne_true (ho.symm.trans (onPrepared_of_readsRow reads))
    · rintro rfl
      exact absurd ho (by decide)
  have off {event : Event} (ho : OffCursor event) :
      LeavesAlone (· = .query) readsRow .closeRows event := by
    simp only [OffCursor, offCursor, Bool.and_eq_true, decide_eq_true_eq, Bool.not_eq_true'] at ho
    obtain ⟨⟨⟨-, reads⟩, query⟩, close⟩ := ho
    exact ⟨query, reads, close⟩
  refine always_of_use (.untouched within_nil) (fun a s b ha hb hs => ?_) ?_
  · exact hs.pad (ha.mono fun _ => outer) (hb.mono fun _ => outer)
  rcases h.parts with hd | ⟨before, rows, hb, hr, rfl⟩
  · exact (hd.mono fun _ => off).within.mono fun s _ hs => .untouched hs
  · refine (hb.mono fun _ => off).within.bind (fun s _ hs => ?_) fun s _ hs => .untouched hs
    have inside (reply : Event.query.Reply) : (rows reply).Always fun s _ =>
        Within (fun event => ¬ event = .query ∧ event ≠ .closeRows) s := by
      refine ((hr reply).mono fun event he => ?_).within
      constructor <;> rintro rfl <;> exact absurd he (by decide)
    have life : (onRows rows).Always fun s _ => HandleLife (· = .query) readsRow .closeRows s :=
      handleLife_bracket rfl rfl (by decide) inside
    refine life.mono fun s' _ hs' => ?_
    have := hs'.pad hs within_nil
    rwa [List.append_nil] at this

theorem StatementUse.executed_call (h : m.StatementUse i args isCall sql body) :
    (onConnection i.provider (onStatement i.provider isCall sql body)).Always fun s _ =>
      CompiledMethod.executed 0 (events s) ≤ m.entryCount args := by
  refine always_of_use (Nat.zero_le _) (fun a s b ha hb hs => ?_) h.executed
  have quiet {event : Event} (ho : Outer event) : Quiet event := by
    cases event <;> first | rfl | exact absurd ho (by simp [onPrepared])
  rw [events_append, events_append, executed_quiet_append (hb.mono fun _ => quiet),
    executed_append_quiet (ha.mono fun _ => quiet)]
  exact hs

theorem StatementUse.entryLog_call (h : m.StatementUse i args isCall sql body)
    (batched : m.kind ≠ .select ∧ m.isBatched = true) {items : List Bindable}
    (listed : m.batchItems args = .ok items) :
    (onConnection i.provider (onStatement i.provider isCall sql body)).Always fun s _ =>
      m.EntryLog args items ((events s).filter onPrepared) := by
  refine always_of_use (.stop _) (fun a s b ha hb hs => ?_) ?_
  · have none {c : List Step} (hc : Within Outer c) : (events c).filter onPrepared = [] :=
      List.filter_eq_nil_iff.2 fun event he => by rw [hc event he]; nofun
    rw [events_append, events_append, List.filter_append, List.filter_append, none ha, none hb,
      List.nil_append, List.append_nil]
    exact hs
  · refine ((h.entryLog batched listed).and h.within).mono fun s _ hs => ?_
    rw [List.filter_eq_self.2 hs.2]
    exact hs.1

end

/-- Whatever the database answers, a call releases its connection, closes its statement and its
cursor, and executes each entry at most once. -/
theorem execute_leaves_nothing_open {σ : Type} (m : CompiledMethod) (i : CallContext)
    (args : List Bindable) (respond : Responder σ) (state : σ) :
    m.LeavesNothingOpen args ((m.execute i args).run respond state).steps := by
  rcases m.execute_cases i args with ⟨e, -, he⟩ | ⟨isCall, sql, body, h, he⟩
  · rw [he]
    have none : Within (fun _ => False) [.failed e] := within_nil
    exact
      { connection := .unopened rfl
        statement := .untouched (none.mono nofun)
        cursor := .untouched (none.mono nofun)
        executions := Nat.zero_le _
        entries := fun _ items _ => .stop items
        stops := List.pairwise_singleton _ _ }
  · rw [he]
    have inside := h.orderly_inside
    exact
      { connection := (connectionLife_onConnection (inside.mono fun _ _ hs => hs.2)).run respond state
        statement := h.statementLife.run respond state
        cursor := h.cursorLife.run respond state
        executions := h.executed_call.run respond state
        entries := fun batched items listed => (h.entryLog_call batched listed).run respond state
        stops := (stops_onConnection (inside.mono fun _ _ hs => hs.1)).run respond state }

end QueryMethods.CompiledMethod
