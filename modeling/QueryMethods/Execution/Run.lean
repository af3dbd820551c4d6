/-
Running a compiled method: a dialogue with the database for every kind of statement. Arguments are
encoded before a connection is asked for, except those of a batch, whose entries are encoded one
by one as they are queued.
-/
import QueryMethods.Execution.Assemble
import QueryMethods.Execution.Binding
import QueryMethods.Settings

namespace QueryMethods

/-- What a method produced, before it is converted to the type that the caller asks for. -/
inductive Output where
  | unit
  | count (rows : UInt64)
  | counts (rows : List UInt64)
  | one (datum : Datum)
  | many (data : List Datum)
  | map (entries : List (Datum × Datum))
  deriving Inhabited

/-- Where a method runs: a provider, the settings, and the page bounds if it is paged. -/
structure CallContext where
  provider : Provider
  settings : ExecutionSettings
  page : Option Page

namespace CompiledMethod

/-! ## Selects -/

/-- A select once it is ready to run: its text, its values, and the values of its page. -/
structure ReadySelect where
  sql : String
  encoded : List FilledParameter
  paging : List Value
  pagingFirst : Bool

/-- Encode the arguments and add the page. -/
def readySelect (m : CompiledMethod) (i : CallContext) (args : List Bindable) :
    Except QueryFailure ReadySelect := do
  let encoded ← m.encode args none
  let sql ← FilledParameter.expand m.sql encoded
  match i.page.filter fun b => !b.isWhole with
  | none => pure ⟨sql, encoded, [], false⟩
  | some bounds =>
    match i.provider.paging with
    | none => .error (m.reject .noPaging)
    | some s =>
      pure ⟨s.paginate sql bounds.skips, encoded, bounds.bindValues s, s.bindBeforeQuery⟩

/-- Bind the values of the query and of the page. -/
def ReadySelect.bind (r : ReadySelect) : Dialogue Unit :=
  if r.pagingFirst then do
    FilledParameter.bindValues 1 r.paging
    let _ ← FilledParameter.bindFrom r.paging.length r.encoded
    pure ()
  else do
    let bound ← FilledParameter.bindFrom 0 r.encoded
    FilledParameter.bindValues (bound + 1) r.paging

/-- Read a column of the current row. -/
def column : ColumnReader := fun slot type => Dialogue.request (.get slot type)

/-- Read so many rows, and find that there are no more. -/
def readRows {α : Type} (row : Dialogue α) : Nat → Dialogue (List α)
  | 0 => do
    Dialogue.request .next
    pure []
  | n + 1 => do
    Dialogue.request .next
    let first ← row
    let rest ← readRows row n
    pure (first :: rest)

/-- Read the only row. The second one is not read, only found. -/
def readSingle (m : CompiledMethod) (nullable : Bool) (rows : Nat) : Dialogue Output := do
  Dialogue.request .next
  if rows = 0 then
    if nullable then pure (.one (.value .null)) else .fail .emptyResult
  else do
    let datum ← m.readResult column
    Dialogue.request .next
    if 1 < rows then .fail .multipleResults else pure (.one datum)

/-- Read a map entry from the current row. -/
def readEntry (m : CompiledMethod) : Dialogue (Datum × Datum) := do
  let key ← m.readMapKey column
  let value ← m.readResult column
  pure (key, value)

/-- The fetch size of selects that expect one row. -/
def singleRowFetchSize : Nat := 2

/-- Run the query and read what the method returns. -/
def readRowsAs (m : CompiledMethod) (i : CallContext) : Dialogue Output :=
  match m.returns with
  | .one nullable => do
    i.provider.fetchSize singleRowFetchSize
    Dialogue.onRows (m.readSingle nullable)
  | .map => do
    i.provider.fetchSize i.settings.fetchSize
    Dialogue.onRows fun rows => do
      let entries ← readRows m.readEntry rows
      pure (.map entries)
  | _ => do
    i.provider.fetchSize i.settings.fetchSize
    Dialogue.onRows fun rows => do
      let data ← readRows (m.readResult column) rows
      pure (.many data)

/-- Run a select. -/
def select (m : CompiledMethod) (i : CallContext) (args : List Bindable) : Dialogue Output :=
  match m.readySelect i args with
  | .error e => .fail e
  | .ok ready =>
    Dialogue.onConnection i.provider <|
      Dialogue.onStatement i.provider false ready.sql do
        ready.bind
        m.readRowsAs i

/-! ## Mutations and calls -/

/-- A count of affected rows, if the method returns it. -/
def countOutput (m : CompiledMethod) (rows : UInt64) : Output :=
  match m.returns with
  | .count => .count rows
  | _ => .unit

/-- Bind every parameter to its slots. -/
def bindParameters (encoded : List FilledParameter) : Dialogue Unit := do
  let _ ← FilledParameter.bindFrom 0 encoded
  pure ()

/-- Run a mutation. -/
def update (m : CompiledMethod) (i : CallContext) (args : List Bindable) : Dialogue Output :=
  match m.encode args none with
  | .error e => .fail e
  | .ok encoded =>
    Dialogue.onConnection i.provider <|
      Dialogue.onStatement i.provider false m.sql do
        bindParameters encoded
        let rows ← Dialogue.request .executeUpdate
        pure (m.countOutput rows)

/-- Announce every OUT parameter. -/
def registerResults (p : Provider) : List ResultReading → Dialogue Unit
  | [] => pure ()
  | r :: rest => do
    (r.mapping.slots.zip r.mapping.conversion.slotTypes).forM fun (slot, type) =>
      p.registerOut slot type
    registerResults p rest

/-- Run a procedure call: without results like a mutation, else reading its OUT parameters. -/
def call (m : CompiledMethod) (i : CallContext) (args : List Bindable) : Dialogue Output :=
  match m.encode args none with
  | .error e => .fail e
  | .ok encoded =>
    Dialogue.onConnection i.provider <|
      Dialogue.onStatement i.provider true m.sql do
        bindParameters encoded
        match m.rowPlan with
        | .none => do
          let rows ← Dialogue.request .executeUpdate
          pure (m.countOutput rows)
        | _ => do
          registerResults i.provider m.results
          i.provider.execute
          let datum ← m.readResult i.provider.outValue
          pure (.one datum)

/-! ## Batches -/

/-- The elements of the batch argument. A null list is an empty one. -/
def batchItems (m : CompiledMethod) (args : List Bindable) : Except QueryFailure (List Bindable) :=
  match m.batchPosition.bind (args[·]?) with
  | some (.list items) => .ok items
  | some (.value .null) => .ok []
  | some (.invalid e) => .error (.conversion e)
  | _ => .error (m.reject .batchNotList)

/-- Encode and bind one entry. -/
def bindEntry (m : CompiledMethod) (args : List Bindable) (item : Bindable) : Dialogue Unit := do
  let encoded ← Dialogue.ofExcept (m.encode args (some item))
  bindParameters encoded

/-- Run entries one by one, or queue them and flush whenever `batchSize` are pending; gives the
counts in order. -/
def runEntries (m : CompiledMethod) (batchSize : Nat) (args : List Bindable) :
    Nat → List Bindable → Dialogue (List UInt64)
  | pending, [] => if 0 < pending then Dialogue.request .executeBatch else pure []
  | pending, item :: rest => do
    m.bindEntry args item
    if batchSize = 0 then do
      let rows ← Dialogue.request .executeUpdate
      let counts ← m.runEntries batchSize args pending rest
      pure (rows :: counts)
    else do
      Dialogue.request .addBatch
      if pending + 1 = batchSize then do
        let flushed ← Dialogue.request .executeBatch
        let counts ← m.runEntries batchSize args 0 rest
        pure (flushed ++ counts)
      else m.runEntries batchSize args (pending + 1) rest

/-- Run a mutation or call once per element of its batch argument. -/
def batch (m : CompiledMethod) (i : CallContext) (args : List Bindable) : Dialogue Output :=
  match m.batchItems args with
  | .error e => .fail e
  | .ok items =>
    Dialogue.onConnection i.provider <|
      Dialogue.onStatement i.provider (m.kind = .call) m.sql do
        let counts ← m.runEntries i.settings.batchSize args 0 items
        pure (match m.returns with
          | .counts => .counts counts
          | _ => .unit)

/-! ## Any method -/

/-- Run a compiled method. -/
def execute (m : CompiledMethod) (i : CallContext) (args : List Bindable) : Dialogue Output :=
  match m.kind with
  | .select => m.select i args
  | kind =>
    if m.isBatched then m.batch i args
    else if kind = .call then m.call i args
    else m.update i args

end CompiledMethod

end QueryMethods
