/-
What a call does: it fails before it asks for a connection, or it uses one statement of one
connection. Between preparing and closing the statement a select binds and reads rows, a mutation
or a call binds, executes and reads OUT parameters, and a batch does the like for every entry.
-/
import QueryMethods.Proofs.Database.Handles
import QueryMethods.Proofs.Execution.Parts

namespace QueryMethods.CompiledMethod

open Dialogue

/-- What is done with the statement, for every kind of call. -/
inductive StatementUse (m : CompiledMethod) (i : CallContext) (args : List Bindable) :
    Bool → String → Dialogue Output → Prop
  | select {ready : ReadySelect} (kind : m.kind = .select)
      (prepared : m.readySelect i args = .ok ready) :
      StatementUse m i args false ready.sql (do ready.bind; m.readRowsAs i)
  | update {encoded : List FilledParameter} (single : m.kind ≠ .select ∧ m.isBatched = false)
      (kind : m.kind ≠ .call) (filled : m.encode args none = .ok encoded) :
      StatementUse m i args false m.sql (do
        bindParameters encoded
        let rows ← Dialogue.request .executeUpdate
        pure (m.countOutput rows))
  | count {encoded : List FilledParameter} (single : m.kind ≠ .select ∧ m.isBatched = false)
      (kind : m.kind = .call) (filled : m.encode args none = .ok encoded)
      (plan : m.rowPlan = .none) :
      StatementUse m i args true m.sql (do
        bindParameters encoded
        let rows ← Dialogue.request .executeUpdate
        pure (m.countOutput rows))
  | out {encoded : List FilledParameter} (single : m.kind ≠ .select ∧ m.isBatched = false)
      (kind : m.kind = .call) (filled : m.encode args none = .ok encoded)
      (plan : m.rowPlan ≠ .none) :
      StatementUse m i args true m.sql (do
        bindParameters encoded
        registerResults i.provider m.results
        i.provider.execute
        let datum ← m.readResult i.provider.outValue
        pure (.one datum))
  | batch {items : List Bindable} (batched : m.kind ≠ .select ∧ m.isBatched = true)
      (listed : m.batchItems args = .ok items) :
      StatementUse m i args (m.kind = .call) m.sql (do
        let counts ← m.runEntries i.settings.batchSize args 0 items
        pure (match m.returns with
          | .counts => .counts counts
          | _ => .unit))

/-- Why a call fails before it asks for a connection. -/
inductive Refused (m : CompiledMethod) (i : CallContext) (args : List Bindable) (e : QueryFailure) :
    Prop
  | select (kind : m.kind = .select) (refused : m.readySelect i args = .error e)
  | arguments (single : m.kind ≠ .select ∧ m.isBatched = false)
      (refused : m.encode args none = .error e)
  | items (batched : m.kind ≠ .select ∧ m.isBatched = true) (refused : m.batchItems args = .error e)

/-- Requests that read rows of an open cursor. -/
abbrev ReadsRow (event : Event) : Prop := readsRow event = true

/-- Requests on a statement away from its cursor. -/
abbrev OffCursor (event : Event) : Prop := offCursor event = true

/-- A select reads its rows through one cursor, after the hint for their number. -/
theorem readRowsAs_eq (m : CompiledMethod) (i : CallContext) :
    ∃ (rows : Nat) (read : Nat → Dialogue Output), (∀ n, Sequential ReadsRow (read n)) ∧
      m.readRowsAs i = i.provider.fetchSize rows >>= fun _ => onRows read := by
  have next : ReadsRow .next := rfl
  have get : ∀ slot type, ReadsRow (.get slot type) := fun _ _ => rfl
  have listed := sequential_readRows next (m.sequential_readResult (sequential_column get))
  have mapped := sequential_readRows next (m.sequential_readEntry get)
  unfold readRowsAs
  cases m.returns with
  | one nullable => exact ⟨_, _, m.sequential_readSingle next get nullable, rfl⟩
  | map => exact ⟨_, _, fun n => (mapped n).bind fun entries => sequential_pure (Output.map entries), rfl⟩
  | unit | count | counts | many =>
    exact ⟨_, _, fun n => (listed n).bind fun data => sequential_pure (Output.many data), rfl⟩

/-- A statement is used by requests one after the other, of which only a select's last one opens
a cursor, to read from it. -/
theorem StatementUse.parts {m : CompiledMethod} {i : CallContext} {args : List Bindable}
    {isCall : Bool} {sql : String} {body : Dialogue Output}
    (h : m.StatementUse i args isCall sql body) :
    Sequential OffCursor body ∨
    ∃ (before : Dialogue Unit) (rows : Nat → Dialogue Output),
      Sequential OffCursor before ∧ (∀ n, Sequential ReadsRow (rows n)) ∧
      body = before >>= fun _ => onRows rows := by
  have bind : ∀ slot v, OffCursor (.bind slot v) := fun _ _ => rfl
  have bindNull : ∀ slot type, OffCursor (.bindNull slot type) := fun _ _ => rfl
  have fetch : ∀ n, OffCursor (.fetchSize n) := fun _ => rfl
  have update : OffCursor .executeUpdate := rfl
  have execute : OffCursor .execute := rfl
  have out : ∀ slot type, OffCursor (.outValue slot type) := fun _ _ => rfl
  have register : ∀ slot type, OffCursor (.registerOut slot type) := fun _ _ => rfl
  have add : OffCursor .addBatch := rfl
  have flush : OffCursor .executeBatch := rfl
  have binds := sequential_bindParameters bind bindNull
  have counted := fun encoded : List FilledParameter => (binds encoded).bind fun _ =>
    (sequential_request update).bind fun rows => sequential_pure (m.countOutput rows)
  cases h with
  | @select ready _ _ =>
    obtain ⟨n, read, hr, he⟩ := m.readRowsAs_eq i
    refine .inr ⟨ready.bind >>= fun _ => i.provider.fetchSize n, read, ?_, hr, ?_⟩
    · exact (ready.sequential_bind bind bindNull).bind fun _ => i.provider.sequential_fetchSize fetch n
    · rw [he, bind_assoc]
  | update _ _ _ => exact .inl (counted _)
  | count _ _ _ _ => exact .inl (counted _)
  | out _ _ _ _ =>
    have read := m.sequential_readResult fun slot type => i.provider.sequential_outValue out slot type
    refine .inl ((binds _).bind fun _ => ?_)
    refine (sequential_registerResults i.provider register _).bind fun _ => ?_
    exact (i.provider.sequential_execute execute update).bind fun _ =>
      read.bind fun datum => sequential_pure (Output.one datum)
  | batch _ _ =>
    exact .inl ((m.sequential_runEntries bind bindNull update add flush _ _ _ _).bind fun _ =>
      sequential_pure _)

section

variable {m : CompiledMethod} {i : CallContext} {args : List Bindable} {isCall : Bool}
  {sql : String} {body : Dialogue Output}

theorem inside_of_onPrepared {event : Event} (h : onPrepared event = true) : Inside event := by
  refine ⟨?_, ?_⟩ <;> rintro rfl <;> exact absurd h (by decide)

theorem onPrepared_of_offCursor {event : Event} (h : OffCursor event) : onPrepared event = true := by
  cases event <;> first | rfl | exact absurd h (by simp [OffCursor, offCursor, onPrepared])

theorem onPrepared_of_readsRow {event : Event} (h : ReadsRow event) : onPrepared event = true := by
  cases event <;> first | rfl | exact absurd h (by simp [ReadsRow, readsRow])

/-- A statement is used by requests on it only. -/
theorem StatementUse.within (h : m.StatementUse i args isCall sql body) :
    body.Always fun s _ => Within (fun event => onPrepared event = true) s := by
  rcases h.parts with hd | ⟨before, rows, hb, hr, rfl⟩
  · exact (hd.mono fun _ => onPrepared_of_offCursor).within
  · refine (hb.mono fun _ => onPrepared_of_offCursor).within.within_bind fun _ => ?_
    have inside (reply : Event.query.Reply) : (rows reply).Always fun s _ =>
        Within (fun event => onPrepared event = true) s :=
      ((hr reply).mono fun _ => onPrepared_of_readsRow).within
    refine (always_bracket inside).mono fun s r hs => ?_
    rcases hs with ⟨e, rfl, -⟩ | ⟨reply, used, inner, closed, hin, rfl, -⟩
    · exact within_asked.2 ⟨rfl, within_nil⟩
    · exact within_asked.2 ⟨rfl, within_append.2 ⟨hin, within_asked.2 ⟨rfl, within_nil⟩⟩⟩

/-- The use of a statement reports its first failure and stops at it. -/
theorem StatementUse.orderly (h : m.StatementUse i args isCall sql body) : body.Always Orderly := by
  have off {event : Event} (he : OffCursor event) := inside_of_onPrepared (onPrepared_of_offCursor he)
  have reads {event : Event} (he : ReadsRow event) := inside_of_onPrepared (onPrepared_of_readsRow he)
  rcases h.parts with hd | ⟨before, rows, hb, hr, rfl⟩
  · exact (hd.mono fun _ => off).orderly
  · refine (hb.mono fun _ => off).orderly.orderly_bind fun _ => ?_
    refine orderly_bracket ⟨nofun, nofun⟩ ⟨nofun, nofun⟩ rfl fun reply => ?_
    exact ((hr reply).mono fun _ => reads).orderly

theorem inside_prepareEvent (p : Provider) (isCall : Bool) (sql : String) :
    Inside (p.prepareEvent isCall sql) := by
  unfold Provider.prepareEvent
  split <;> exact ⟨nofun, nofun⟩

/-- What is done with the connection, from behind the acquiring to the releasing. -/
theorem StatementUse.orderly_inside (h : m.StatementUse i args isCall sql body) :
    (i.provider.onAcquire >>= fun _ => onStatement i.provider isCall sql body).Always
      fun s r => Orderly s r ∧ Within Inside s := by
  have acquired : Inside .onAcquire := ⟨nofun, nofun⟩
  have close : Inside .closeStatement := ⟨nofun, nofun⟩
  have prepare := inside_prepareEvent i.provider isCall sql
  refine Always.and ?_ ?_
  · refine (i.provider.sequential_onAcquire acquired).orderly.orderly_bind fun _ => ?_
    exact orderly_bracket prepare close rfl fun _ => h.orderly
  · refine (i.provider.sequential_onAcquire acquired).within.within_bind fun _ => ?_
    have inside := h.within.mono fun s _ hs => hs.mono fun _ => inside_of_onPrepared
    refine always_onStatement_of_pad ?_ within_nil prepare close inside
    intro a s b ha hb hs
    exact within_append.2 ⟨within_append.2 ⟨ha, hs⟩, hb⟩

end

theorem execute_mutation {m : CompiledMethod} (mutation : m.kind ≠ .select) (i : CallContext)
    (args : List Bindable) : m.execute i args = if m.isBatched then m.batch i args
      else if m.kind = .call then m.call i args else m.update i args := by
  unfold execute
  cases kind : m.kind <;> first | exact absurd kind mutation | rfl

/-- A call fails at once, or uses a statement of a connection. -/
theorem execute_cases (m : CompiledMethod) (i : CallContext) (args : List Bindable) :
    (∃ e, m.Refused i args e ∧ m.execute i args = .fail e) ∨
    ∃ isCall sql body, m.StatementUse i args isCall sql body ∧
      m.execute i args = onConnection i.provider (onStatement i.provider isCall sql body) := by
  have one : m.isBatched = false → m.kind ≠ .select →
      (∃ e, m.Refused i args e ∧
        (if m.kind = .call then m.call i args else m.update i args) = .fail e) ∨
      ∃ isCall sql body, m.StatementUse i args isCall sql body ∧
        (if m.kind = .call then m.call i args else m.update i args) =
          onConnection i.provider (onStatement i.provider isCall sql body) := by
    intro hb hk
    cases hf : m.encode args none with
    | error e =>
      refine .inl ⟨e, .arguments ⟨hk, hb⟩ hf, ?_⟩
      unfold call update
      rw [hf]
      split <;> rfl
    | ok encoded =>
      refine .inr ?_
      unfold call update
      rw [hf]
      split
      · next call =>
        cases hp : m.rowPlan with
        | none => exact ⟨_, _, _, .count ⟨hk, hb⟩ call hf hp, rfl⟩
        | atomic index => exact ⟨_, _, _, .out ⟨hk, hb⟩ call hf (by rw [hp]; simp), rfl⟩
        | bean type origin => exact ⟨_, _, _, .out ⟨hk, hb⟩ call hf (by rw [hp]; simp), rfl⟩
      · next call => exact ⟨_, _, _, .update ⟨hk, hb⟩ call hf, rfl⟩
  by_cases hk : m.kind = .select
  · have hs : m.execute i args = m.select i args := by unfold execute; rw [hk]
    rw [hs]
    unfold select
    cases hp : m.readySelect i args with
    | error e => exact .inl ⟨e, .select hk hp, rfl⟩
    | ok ready => exact .inr ⟨_, _, _, .select hk hp, rfl⟩
  · rw [execute_mutation hk]
    cases hb : m.isBatched with
    | false => exact one hb hk
    | true =>
      simp only [if_true]
      unfold batch
      cases hl : m.batchItems args with
      | error e => exact .inl ⟨e, .items ⟨hk, hb⟩ hl, rfl⟩
      | ok items => exact .inr ⟨_, _, _, .batch ⟨hk, hb⟩ hl, rfl⟩

end QueryMethods.CompiledMethod
