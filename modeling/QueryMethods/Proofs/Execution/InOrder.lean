/-
The steps of a call in order. `CompiledMethod.inOrder` says what a call does as long as nothing
fails, each step with the way in which it may fail: encoding, writing out lists, asking for a page,
the requests to the database, decoding columns, making and filling beans, and counting rows. There
is no cleaning up in it; the first step that fails ends it. A call comes to what these steps come
to (`Performs`): whatever it closes behind a failure does not show.
-/
import QueryMethods.Proofs.Database.Attempt
import QueryMethods.Proofs.Execution.Cases
import QueryMethods.Proofs.Execution.Selects

namespace QueryMethods

open Dialogue Attempt

section

variable {σ : Type} (respond : Responder σ)

/-! ## Steps for a row -/

/-- Fetch the columns of a mapping, then decode them. -/
def SlotMapping.steps (column : Nat → SlotType → Attempt σ Value) (m : SlotMapping) :
    Attempt σ Value := do
  let columns ← (m.slots.zip m.conversion.slotTypes).mapM fun (slot, type) => column slot type
  convert (m.decode columns)

/-- Write a value that is for a field. -/
def Destination.writeSteps (b : Bean) (part : Destination × Value) : Attempt σ Bean :=
  match part.1 with
  | .field path => convert (path.write b (.value part.2))
  | _ => pure b

/-- Make an instance, then write its fields one by one. -/
def BeanClass.steps (c : BeanClass) (origin : InstanceOrigin) (parts : List (Destination × Value)) :
    Attempt σ Bean := do
  let fresh ← convert (c.construct origin parts)
  parts.foldlM Destination.writeSteps fresh

namespace CompiledMethod

variable (m : CompiledMethod) (i : CallContext) (args : List Bindable)

/-- Read one result: a value, or the parts of a bean in order and then the bean. -/
def resultSteps (column : Nat → SlotType → Attempt σ Value) : Attempt σ Datum :=
  match m.rowPlan with
  | .none => pure (.value .null)
  | .atomic index =>
    match m.results[index]? with
    | none => throw (.conversion (.beanMismatch "result column"))
    | some r => do
      let v ← r.mapping.steps column
      return .value v
  | .bean c origin => do
    let parts ← (m.results.filter (·.isPart)).mapM fun r => do
      let v ← r.mapping.steps column
      return (r.target, v)
    let b ← c.steps origin parts
    return .bean b

/-- Read the key of a map entry. -/
def keySteps (column : Nat → SlotType → Attempt σ Value) : Attempt σ Datum :=
  match m.key.bind (m.results[·]?) with
  | none => throw (.conversion (.beanMismatch "map key"))
  | some r => do
    let v ← r.mapping.steps column
    return .value v

/-! ## Steps for rows -/

/-- Read so many rows, and find that there are no more. -/
def rowsSteps {α : Type} (row : Attempt σ α) (rows : Nat) : Attempt σ (List α) := do
  let read ← (List.replicate rows row).mapM fun row => do
    send respond .next
    row
  send respond .next
  return read

/-- Read the only row: none is a failure unless the result may be missing, a second one always. -/
def singleSteps (nullable : Bool) (rows : Nat) : Attempt σ Output := do
  send respond .next
  if rows = 0 then
    if nullable then return .one (.value .null) else throw .emptyResult
  else
    let datum ← m.resultSteps fun slot type => send respond (.get slot type)
    send respond .next
    if 1 < rows then throw .multipleResults else return .one datum

/-- Read what the method returns from so many rows. -/
def takeSteps (rows : Nat) : Attempt σ Output :=
  let column (slot : Nat) (type : SlotType) : Attempt σ Value := send respond (.get slot type)
  match m.returns with
  | .one nullable => m.singleSteps respond nullable rows
  | .map => do
    let entries ← rowsSteps respond
      (do return (← m.keySteps column, ← m.resultSteps column)) rows
    return .map entries
  | _ => do
    let data ← rowsSteps respond (m.resultSteps column) rows
    return .many data

/-- Open the cursor, read and close it. -/
def outputSteps : Attempt σ Output := do
  let hint := match m.returns with
    | .one _ => singleRowFetchSize
    | _ => i.settings.fetchSize
  ifSupported (i.provider.supports .fetchSize) (send respond (.fetchSize hint))
  let rows ← send respond .query
  let output ← m.takeSteps respond rows
  send respond .closeRows
  return output

/-! ## Steps for arguments -/

/-- Encode the arguments, one parameter after the other; the element of a batch stands in for the
list it is from. -/
def encodeSteps (element : Option Bindable) : Attempt σ (List FilledParameter) :=
  m.parameters.mapM fun p =>
    match m.source? args element p.argument with
    | none => throw (m.reject (.missingArgument (p.argument + 1)))
    | some source => do
      let values ← convert (p.encode source)
      return ⟨p, values⟩

/-- Bind a value, the one with that number behind the first slot. -/
def valueSteps (types : List SlotType) (first : Nat) (value : Value × Nat) : Attempt σ Unit :=
  let slot := (first + value.2) % UInt64.size
  if value.1.isNull then send respond (.bindNull slot (FilledParameter.nullType types value.2))
  else send respond (.bind slot value.1)

/-- Bind the values of a parameter from its first slot on. -/
def fillSteps (shift : Int) (e : FilledParameter) : Attempt σ Unit := do
  let first ← own (e.parameter.movedSlot shift)
  e.values.zipIdx.forM (valueSteps respond e.parameter.mapping.conversion.slotTypes first)

/-- Bind every parameter, each moved by what those before it grew. -/
def bindSteps (base : Int) (es : List FilledParameter) : Attempt σ Unit := do
  let _ ← es.foldlM (fun shift e => do
    fillSteps respond shift e
    return shift + e.growth) base

/-- Bind the bounds of a page from a slot on. -/
def boundsSteps (first : Nat) (bounds : List Value) : Attempt σ Unit :=
  bounds.zipIdx.forM fun bound => send respond (.bind (first + bound.2) bound.1)

/-! ## Steps of calls -/

/-- Prepare a statement, use it and close it. -/
def preparedSteps (isCall : Bool) (sql : String) (use : Attempt σ Output) : Attempt σ Output := do
  ifSupported (i.provider.supports .onAcquire) (send respond .onAcquire)
  let _ ← send respond (i.provider.prepareEvent isCall sql)
  let output ← use
  send respond .closeStatement
  return output

/-- Get a connection for a statement. -/
def statementSteps (isCall : Bool) (sql : String) (use : Attempt σ Output) : Attempt σ Output := do
  send respond .acquire
  preparedSteps respond i isCall sql use

/-- Bind the values of a query and of its page. -/
def pageSteps (es : List FilledParameter) (page : List Value) (pageFirst : Bool) : Attempt σ Unit :=
  if pageFirst then do
    boundsSteps respond 1 page
    bindSteps respond page.length es
  else do
    bindSteps respond 0 es
    boundsSteps respond (FilledParameter.total es + 1) page

/-- Run a query, with the page that is asked for. -/
def runSteps (es : List FilledParameter) (sql : String) : Attempt σ Output :=
  match i.page.filter fun bounds => !bounds.isWhole with
  | none =>
    statementSteps respond i false sql do
      pageSteps respond es [] false
      m.outputSteps respond i
  | some bounds =>
    match i.provider.paging with
    | none => throw (m.reject .noPaging)
    | some s =>
      statementSteps respond i false (s.paginate sql bounds.skips) do
        pageSteps respond es (bounds.bindValues s) s.bindBeforeQuery
        m.outputSteps respond i

/-- Run a select: encode, write out lists, then ask for the page. -/
def selectSteps : Attempt σ Output := do
  let es ← m.encodeSteps args none
  let sql ← own (FilledParameter.expand m.sql es)
  m.runSteps respond i es sql

/-- Run the statement once, for a count. -/
def countSteps : Attempt σ Output := do
  let rows ← send respond .executeUpdate
  return m.countOutput rows

/-- Announce the OUT parameters of a result. -/
def registerSteps (p : Provider) (r : ResultReading) : Attempt σ Unit :=
  (r.mapping.slots.zip r.mapping.conversion.slotTypes).forM fun (slot, type) =>
    if p.supports .registerOut then send respond (.registerOut slot type)
    else throw (.statement Provider.noOutParameters)

/-- Announce the OUT parameters, run the call and read the result from them. -/
def outSteps : Attempt σ Output := do
  m.results.forM (registerSteps respond i.provider)
  let _ ← send respond (if i.provider.supports .execute then .execute else .executeUpdate)
  let datum ← m.resultSteps fun slot type =>
    if i.provider.supports .outValue then send respond (.outValue slot type)
    else throw (.statement Provider.noOutParameters)
  return .one datum

/-- Run a mutation or a call whose values are bound. A call with results reads OUT parameters. -/
def executeSteps : Attempt σ Output :=
  match m.kind, m.rowPlan with
  | .call, .atomic _ | .call, .bean _ _ => m.outSteps respond i
  | _, _ => m.countSteps respond

/-- Run a mutation or a call once. -/
def onceSteps : Attempt σ Output := do
  let es ← m.encodeSteps args none
  statementSteps respond i (m.kind = .call) m.sql do
    bindSteps respond 0 es
    m.executeSteps respond i

/-- Run an entry of a batch, given with its number, or queue it and flush a full queue. -/
def entrySteps (size : Nat) (entry : Bindable × Nat) : Attempt σ (List UInt64) := do
  let es ← m.encodeSteps args (some entry.1)
  bindSteps respond 0 es
  if size = 0 then
    let rows ← send respond .executeUpdate
    return [rows]
  else
    send respond .addBatch
    if (entry.2 + 1) % size = 0 then send respond .executeBatch else return []

/-- Flush what is left in the queue behind so many entries. -/
def flushSteps (size number : Nat) : Attempt σ (List UInt64) :=
  if 0 < size ∧ number % size ≠ 0 then send respond .executeBatch else pure []

/-- The counts of the entries, if the method returns them. -/
def countsOutput (counts : List UInt64) : Output :=
  match m.returns with
  | .counts => .counts counts
  | _ => .unit

/-- Run a mutation or a call for every element of its batch argument. -/
def batchSteps : Attempt σ Output := do
  let items ← own (m.batchItems args)
  statementSteps respond i (m.kind = .call) m.sql do
    let size := i.settings.batchSize
    let counts ← items.zipIdx.mapM (m.entrySteps respond args size)
    let last ← flushSteps respond size items.length
    return m.countsOutput (counts.flatten ++ last)

/-- What a call does if nothing fails, in order. -/
def inOrder : Attempt σ Output :=
  match m.kind with
  | .select => m.selectSteps respond i args
  | _ => if m.isBatched then m.batchSteps respond i args else m.onceSteps respond i args

end CompiledMethod

/-! ## What is performed -/

variable {respond}

theorem Destination.writeSteps_eq : ∀ (parts : List (Destination × Value)) (b : Bean),
    (parts.foldlM writeSteps b : Attempt σ Bean) = convert (writeFields b parts)
  | [], _ => rfl
  | (.field path, v) :: rest, b => by
    rw [List.foldlM_cons]
    unfold writeFields writeSteps
    dsimp only
    cases path.write b (.value v) with
    | error e => rfl
    | ok b' => exact writeSteps_eq rest b'
  | (.whole, _) :: rest, b | (.mapKey, _) :: rest, b | (.constructorSlot _, _) :: rest, b =>
    writeSteps_eq rest b

/-- Making a bean asks nothing of the database. -/
theorem BeanClass.steps_eq (c : BeanClass) (origin : InstanceOrigin)
    (parts : List (Destination × Value)) :
    (c.steps origin parts : Attempt σ Bean) = convert (c.assemble origin parts) := by
  unfold steps assemble
  cases c.construct origin parts with
  | error e => rfl
  | ok b => exact Destination.writeSteps_eq parts b

section

variable {column : ColumnReader} {steps : Nat → SlotType → Attempt σ Value}
  (each : ∀ slot type, Performs respond (column slot type) (steps slot type))

include each

theorem SlotMapping.performs_read (m : SlotMapping) :
    Performs respond (m.read column) (m.steps steps) := by
  refine (performs_mapM (fun x : Nat × SlotType => each x.1 x.2) _).bind fun columns => ?_
  cases m.decode columns with
  | ok v => exact performs_pure v
  | error e => exact performs_fail _

theorem ResultReading.performs_readParts : ∀ rs : List ResultReading,
    Performs respond (readParts column rs) ((rs.filter (·.isPart)).mapM fun r => do
      let v ← r.mapping.steps steps
      return (r.target, v))
  | [] => performs_pure []
  | r :: rest => by
    have ih := performs_readParts rest
    have read := r.mapping.performs_read each
    unfold readParts
    rw [List.filter_cons]
    unfold isPart
    cases target : r.target with
    | field path | constructorSlot number =>
      rw [if_pos rfl, List.mapM_cons]
      simp only [bind_assoc, pure_bind, target]
      exact read.bind fun v => ih.bind fun parts => performs_pure _
    | whole | mapKey => exact ih

theorem CompiledMethod.performs_readMapKey (m : CompiledMethod) :
    Performs respond (m.readMapKey column) (m.keySteps steps) := by
  unfold readMapKey keySteps
  cases m.key.bind (m.results[·]?) with
  | none => exact performs_fail _
  | some r => exact (r.mapping.performs_read each).bind fun v => performs_pure _

theorem CompiledMethod.performs_readResult (m : CompiledMethod) :
    Performs respond (m.readResult column) (m.resultSteps steps) := by
  unfold readResult resultSteps
  cases m.rowPlan with
  | none => exact performs_pure _
  | atomic index =>
    dsimp only
    cases m.results[index]? with
    | none => exact performs_fail _
    | some r => exact (r.mapping.performs_read each).bind fun v => performs_pure _
  | bean c origin =>
    refine (ResultReading.performs_readParts each m.results).bind fun parts => ?_
    rw [c.steps_eq]
    cases c.assemble origin parts with
    | ok b => exact performs_pure (Datum.bean b)
    | error e => exact performs_fail _

end

namespace CompiledMethod

/-! ### Rows -/

theorem performs_column (slot : Nat) (type : SlotType) :
    Performs respond (column slot type) (send respond (.get slot type)) :=
  performs_request (.get slot type) fun _ => rfl

theorem performs_readRows {α : Type} {row : Dialogue α} {steps : Attempt σ α}
    (h : Performs respond row steps) : ∀ n : Nat,
      Performs respond (readRows row n) (rowsSteps respond steps n)
  | 0 => performs_request_bind .next (fun _ => rfl) fun _ => performs_pure []
  | n + 1 => by
    have more : rowsSteps respond steps (n + 1) = (do
        send respond .next
        let first ← steps
        let rest ← rowsSteps respond steps n
        return first :: rest) := by
      simp only [rowsSteps, List.replicate_succ, List.mapM_cons, bind_assoc, pure_bind]
    rw [more]
    exact performs_request_bind .next (fun _ => rfl) fun _ => h.bind fun first =>
      (performs_readRows h n).bind fun rest => performs_pure (first :: rest)

variable (m : CompiledMethod)

theorem performs_readSingle (nullable : Bool) (rows : Nat) :
    Performs respond (m.readSingle nullable rows) (m.singleSteps respond nullable rows) := by
  refine performs_request_bind .next (fun _ => rfl) fun _ => ?_
  split
  · cases nullable with
    | true => exact performs_pure _
    | false => exact performs_fail _
  · refine (m.performs_readResult performs_column).bind fun datum => ?_
    refine performs_request_bind .next (fun _ => rfl) fun _ => ?_
    split
    · exact performs_fail _
    · exact performs_pure _

theorem performs_readEntry : Performs respond m.readEntry (do
    return (← m.keySteps fun slot type => send respond (.get slot type),
      ← m.resultSteps fun slot type => send respond (.get slot type))) :=
  (m.performs_readMapKey performs_column).bind fun key =>
    (m.performs_readResult performs_column).bind fun value => performs_pure (key, value)

theorem performs_readRowsAs (i : CallContext) :
    Performs respond (m.readRowsAs i) (m.outputSteps respond i) := by
  have hint (n : Nat) : Performs respond (i.provider.fetchSize n)
      (ifSupported (i.provider.supports .fetchSize) (send respond (.fetchSize n))) :=
    (performs_request (.fetchSize n) (fun _ => rfl)).ifSupported _
  have rows {read : Nat → Dialogue Output} {steps : Nat → Attempt σ Output}
      (h : ∀ n, Performs respond (read n) (steps n)) : Performs respond (onRows read) (do
        let rows ← send respond .query
        let output ← steps rows
        send respond .closeRows
        return output) := performs_bracket (fun _ => rfl) (fun _ => rfl) h
  unfold readRowsAs outputSteps takeSteps
  cases m.returns with
  | one nullable => exact (hint _).bind fun _ => rows (m.performs_readSingle nullable)
  | map =>
    exact (hint _).bind fun _ => rows fun n =>
      (performs_readRows m.performs_readEntry n).bind fun entries => performs_pure (Output.map entries)
  | unit | count | counts | many =>
    exact (hint _).bind fun _ => rows fun n =>
      (performs_readRows (m.performs_readResult performs_column) n).bind fun data =>
        performs_pure (Output.many data)

/-! ### Arguments -/

/-- Nor does encoding. -/
theorem encodeSteps_eq (args : List Bindable) (element : Option Bindable) :
    (m.encodeSteps args element : Attempt σ _) = own (m.encode args element) := by
  unfold encodeSteps encode
  rw [own_mapM]
  refine congrArg (m.parameters.mapM ·) (funext fun p => ?_)
  cases stands : m.source? args element p.argument with
  | none =>
    rw [encodeParameter_missing stands]
    rfl
  | some source =>
    rw [encodeParameter_eq stands]
    dsimp only
    cases p.encode source <;> rfl

theorem performs_bindSlots (types : List SlotType) : ∀ (vs : List Value) (first index : Nat),
    Performs respond (FilledParameter.bindSlots types ((first + index) % UInt64.size) index vs)
      ((vs.zipIdx index).forM (valueSteps respond types first))
  | [], _, _ => performs_pure ()
  | v :: rest, first, index => by
    have ih := performs_bindSlots types rest first (index + 1)
    have next : FilledParameter.nextSlot ((first + index) % UInt64.size) =
        (first + (index + 1)) % UInt64.size := Nat.mod_add_mod _ _ _
    unfold FilledParameter.bindSlots
    rw [List.zipIdx_cons, next]
    show Performs respond _ (valueSteps respond types first (v, index) >>= fun _ => _)
    unfold valueSteps
    dsimp only
    split
    · exact performs_request_bind (.bindNull _ _) (fun _ => rfl) fun _ => ih
    · exact performs_request_bind (.bind _ _) (fun _ => rfl) fun _ => ih

theorem performs_bindFrom : ∀ (es : List FilledParameter) (shift : Int),
    Performs respond (FilledParameter.bindFrom shift es) (do
      bindSteps respond shift es
      return FilledParameter.total es)
  | [], _ => performs_pure 0
  | e :: rest, shift => by
    have split : bindSteps respond shift (e :: rest) = (do
        fillSteps respond shift e
        bindSteps respond (shift + e.growth) rest) := by
      simp only [bindSteps, List.foldlM_cons, bind_assoc, pure_bind]
    rw [split, FilledParameter.total_cons]
    unfold FilledParameter.bindFrom fillSteps
    cases moved : e.parameter.movedSlot shift with
    | error failure => exact performs_fail failure
    | ok first =>
      have word : (first + 0) % UInt64.size = first :=
        Nat.mod_eq_of_lt (ParameterBinding.movedSlot_eq_ok.1 moved).2.2
      have values : Performs respond _ _ := performs_bindSlots
        e.parameter.mapping.conversion.slotTypes e.values first 0
      have others : Performs respond _ _ := (performs_bindFrom rest (shift + e.growth)).bind
        fun bound => performs_pure (e.values.length + bound)
      rw [word] at values
      simp only [own_ok, bind_assoc, pure_bind] at others ⊢
      exact values.bind fun _ => others

theorem performs_bindValues : ∀ (vs : List Value) (first index : Nat),
    Performs respond (FilledParameter.bindValues (first + index) vs)
      ((vs.zipIdx index).forM fun bound => send respond (.bind (first + bound.2) bound.1))
  | [], _, _ => performs_pure ()
  | v :: rest, first, index => by
    rw [List.zipIdx_cons]
    exact performs_request_bind (.bind _ v) (fun _ => rfl) fun _ =>
      performs_bindValues rest first (index + 1)

theorem performs_bindFrom_bind {α : Type} {f : Nat → Dialogue α} {g : Nat → Attempt σ α}
    (es : List FilledParameter) (base : Int) (h : ∀ bound, Performs respond (f bound) (g bound)) :
    Performs respond (FilledParameter.bindFrom base es >>= f) (do
      bindSteps respond base es
      g (FilledParameter.total es)) := by
  simpa only [bind_assoc, pure_bind] using (performs_bindFrom es base).bind h

theorem performs_bindParameters (es : List FilledParameter) :
    Performs respond (bindParameters es) (bindSteps respond 0 es) := by
  have bound : Performs respond _ _ := performs_bindFrom_bind es 0 fun _ => performs_pure ()
  unfold bindParameters
  simpa only [bind_pure_unit] using bound

theorem performs_bind (sql : String) (es : List FilledParameter) (page : List Value) (first : Bool) :
    Performs respond (ReadySelect.mk sql es page first).bind (pageSteps respond es page first) := by
  cases first with
  | true =>
    refine (performs_bindValues page 1 0).bind fun _ => ?_
    have bound : Performs respond _ _ := performs_bindFrom_bind es page.length fun _ =>
      performs_pure ()
    simpa only [bind_pure_unit] using bound
  | false => exact performs_bindFrom_bind es 0 fun bound => performs_bindValues page (bound + 1) 0

/-! ### OUT parameters -/

section

variable (p : Provider)

theorem performs_registerResults : ∀ rs : List ResultReading,
    Performs respond (registerResults p rs) (rs.forM (registerSteps respond p))
  | [] => performs_pure ()
  | r :: rest => by
    refine (performs_forM (fun x : Nat × SlotType => ?_) _).bind fun _ =>
      performs_registerResults rest
    unfold Provider.registerOut
    dsimp only
    split
    · exact performs_request (.registerOut _ _) fun _ => rfl
    · exact performs_fail _

theorem performs_outValue (slot : Nat) (type : SlotType) :
    Performs respond (p.outValue slot type)
      (if p.supports .outValue then send respond (.outValue slot type)
        else throw (.statement Provider.noOutParameters)) := by
  unfold Provider.outValue
  split
  · exact performs_request (.outValue slot type) fun _ => rfl
  · exact performs_fail _

end

theorem performs_out (i : CallContext) : Performs respond (do
      registerResults i.provider m.results
      i.provider.execute
      let datum ← m.readResult i.provider.outValue
      pure (.one datum)) (m.outSteps respond i) := by
  refine (performs_registerResults i.provider m.results).bind fun _ => ?_
  have read : Performs respond _ _ := (m.performs_readResult (performs_outValue i.provider)).bind
    fun datum => performs_pure (Output.one datum)
  unfold Provider.execute
  cases i.provider.supports .execute with
  | true => exact performs_request_bind .execute (fun _ => rfl) fun _ => read
  | false =>
    rw [if_neg Bool.false_ne_true, bind_assoc]
    exact performs_request_bind .executeUpdate (fun _ => rfl) fun _ => read

theorem performs_count (encoded : List FilledParameter) : Performs respond (do
      bindParameters encoded
      let rows ← Dialogue.request .executeUpdate
      pure (m.countOutput rows)) (do bindSteps respond 0 encoded; m.countSteps respond) :=
  (performs_bindParameters encoded).bind fun _ =>
    performs_request_bind .executeUpdate (fun _ => rfl) fun rows => performs_pure (m.countOutput rows)

/-! ### Batches -/

/-- The number of entries in the queue behind so many of them. -/
def queued (size number : Nat) : Nat := if size = 0 then 0 else number % size

/-- One more entry fills the queue or waits in it. -/
theorem queued_succ {size : Nat} (pos : size ≠ 0) (number : Nat) :
    queued size (number + 1) = if queued size number + 1 = size then 0 else queued size number + 1 := by
  unfold queued
  rw [if_neg pos, if_neg pos, ← Nat.mod_add_mod]
  have below := Nat.mod_lt number (Nat.pos_of_ne_zero pos)
  split
  · next full => rw [full, Nat.mod_self]
  · next more => exact Nat.mod_eq_of_lt (by omega)

theorem full_iff {size : Nat} (pos : size ≠ 0) (number : Nat) :
    (number + 1) % size = 0 ↔ queued size number + 1 = size := by
  have next := queued_succ pos number
  have here : queued size (number + 1) = (number + 1) % size := if_neg pos
  rw [← here, next]
  split
  · next full => exact ⟨fun _ => full, fun _ => rfl⟩
  · next more => exact ⟨nofun, fun full => absurd full more⟩

theorem performs_flush (size number : Nat) :
    Performs respond (if 0 < queued size number then Dialogue.request .executeBatch else pure [])
      (flushSteps respond size number) := by
  have same : 0 < queued size number ↔ 0 < size ∧ number % size ≠ 0 := by
    unfold queued
    split <;> omega
  unfold flushSteps
  by_cases left : 0 < queued size number
  · rw [if_pos left, if_pos (same.1 left)]
    exact performs_request .executeBatch fun _ => rfl
  · rw [if_neg left, if_neg (left ∘ same.2)]
    exact performs_pure []

theorem performs_runEntries (size : Nat) (args : List Bindable) :
    ∀ (items : List Bindable) (number : Nat),
      Performs respond (m.runEntries size args (queued size number) items) (do
        let counts ← (items.zipIdx number).mapM (m.entrySteps respond args size)
        let last ← flushSteps respond size (number + items.length)
        return counts.flatten ++ last)
  | [], number => by
    rw [List.zipIdx_nil, List.mapM_nil]
    simp only [pure_bind, List.flatten_nil, List.nil_append, bind_pure]
    exact performs_flush size number
  | item :: rest, number => by
    have more (counted : List UInt64) : Performs respond _ _ :=
      (performs_runEntries size args rest (number + 1)).bind fun counts =>
        performs_pure (counted ++ counts)
    have behind : number + (item :: rest).length = number + 1 + rest.length := by
      rw [List.length_cons]
      omega
    rw [List.zipIdx_cons, List.mapM_cons, behind]
    generalize (rest.zipIdx (number + 1)).mapM (m.entrySteps respond args size) = others at more ⊢
    unfold runEntries bindEntry entrySteps
    simp only [encodeSteps_eq, bind_assoc, pure_bind, List.flatten_cons, List.append_assoc] at more ⊢
    refine (performs_ofExcept _).bind fun es => (performs_bindParameters es).bind fun _ => ?_
    by_cases single : size = 0
    · have none (number : Nat) : queued size number = 0 := if_pos single
      rw [none] at more ⊢
      simp only [if_pos single, bind_assoc, pure_bind]
      exact performs_request_bind .executeUpdate (fun _ => rfl) fun rows => more [rows]
    · rw [queued_succ single] at more
      simp only [if_neg single, full_iff single, bind_assoc]
      refine performs_request_bind .addBatch (fun _ => rfl) fun _ => ?_
      split at more
      · next full =>
        rw [if_pos full, if_pos full]
        exact performs_request_bind .executeBatch (fun _ => rfl) more
      · next waits =>
        rw [if_neg waits, if_neg waits]
        simpa only [List.nil_append, bind_pure, pure_bind] using more []

/-! ### Whole calls -/

theorem performs_onStatement (i : CallContext) (isCall : Bool) (sql : String)
    {body : Dialogue Output} {use : Attempt σ Output} (h : Performs respond body use) :
    Performs respond (i.provider.onAcquire >>= fun _ => onStatement i.provider isCall sql body)
      (preparedSteps respond i isCall sql use) := by
  have acquired : Performs respond i.provider.onAcquire
      (ifSupported (i.provider.supports .onAcquire) (send respond .onAcquire)) :=
    (performs_request .onAcquire (fun _ => rfl)).ifSupported _
  have opens (e : DatabaseFailure) :
      (i.provider.prepareEvent isCall sql).refusal e = .statement e := by
    unfold Provider.prepareEvent
    split <;> rfl
  exact acquired.bind fun _ => performs_bracket opens (fun _ => rfl) fun _ => h

theorem inOrder_mutation {m : CompiledMethod} (mutation : m.kind ≠ .select) (i : CallContext)
    (args : List Bindable) : m.inOrder respond i args =
      if m.isBatched then m.batchSteps respond i args else m.onceSteps respond i args := by
  unfold inOrder
  split
  · next kind => exact absurd kind mutation
  · rfl

section

variable {m : CompiledMethod} {i : CallContext} {args : List Bindable}

theorem selectSteps_of_filled {es : List FilledParameter} (filled : m.encode args none = .ok es) :
    m.selectSteps respond i args = (do
      let sql ← own (FilledParameter.expand m.sql es)
      m.runSteps respond i es sql) := by
  unfold selectSteps
  rw [encodeSteps_eq, filled, own_ok, pure_bind]

theorem onceSteps_of_filled {es : List FilledParameter} (filled : m.encode args none = .ok es) :
    m.onceSteps respond i args = statementSteps respond i (m.kind = .call) m.sql (do
      bindSteps respond 0 es
      m.executeSteps respond i) := by
  unfold onceSteps
  rw [encodeSteps_eq, filled, own_ok, pure_bind]

/-- What a call is refused for before it asks for a connection is its first failing step. -/
theorem Refused.inOrder_eq {e : QueryFailure} (h : m.Refused i args e) :
    m.inOrder respond i args = throw e := by
  cases h with
  | select kind refused =>
    have steps : m.inOrder respond i args = m.selectSteps respond i args := by
      unfold inOrder
      rw [kind]
    rw [steps]
    rcases readySelect_eq_error refused with failed | ⟨es, filled, failed⟩ |
      ⟨es, sql, bounds, filled, expanded, asked, none, rfl⟩
    · unfold selectSteps
      rw [encodeSteps_eq, failed]
      rfl
    · rw [selectSteps_of_filled filled, failed]
      rfl
    · rw [selectSteps_of_filled filled, expanded, own_ok, pure_bind]
      unfold runSteps
      rw [asked, none]
  | arguments single refused =>
    rw [inOrder_mutation single.1, single.2]
    show m.onceSteps respond i args = _
    unfold onceSteps
    rw [encodeSteps_eq, refused]
    rfl
  | items batched refused =>
    rw [inOrder_mutation batched.1, batched.2]
    show m.batchSteps respond i args = _
    unfold batchSteps
    rw [refused]
    rfl

/-- What is done with the statement is performed between preparing and closing it. -/
theorem StatementUse.performs {isCall : Bool} {sql : String} {body : Dialogue Output}
    (h : m.StatementUse i args isCall sql body) (respond : Responder σ) : ∃ use,
      Performs respond body use ∧
        m.inOrder respond i args = statementSteps respond i isCall sql use := by
  cases h with
  | @select ready kind prepared =>
    obtain ⟨es, written, filled, expanded, readied⟩ := readySelect_eq_ok.1 prepared
    have steps : m.inOrder respond i args = m.runSteps respond i es written := by
      unfold inOrder
      rw [kind]
      show m.selectSteps respond i args = _
      rw [selectSteps_of_filled filled, expanded, own_ok, pure_bind]
    rw [steps]
    unfold runSteps
    cases readied with
    | whole unpaged =>
      rw [unpaged]
      exact ⟨_, (performs_bind _ _ _ _).bind fun _ => m.performs_readRowsAs i, rfl⟩
    | page asked given =>
      rw [asked, given]
      exact ⟨_, (performs_bind _ _ _ _).bind fun _ => m.performs_readRowsAs i, rfl⟩
  | @update encoded single kind filled =>
    have steps : m.executeSteps respond i = m.countSteps respond := by
      unfold executeSteps
      split
      · next call _ => exact absurd call kind
      · next call _ => exact absurd call kind
      · rfl
    rw [inOrder_mutation single.1, single.2, if_neg Bool.false_ne_true, onceSteps_of_filled filled,
      decide_eq_false kind, steps]
    exact ⟨_, m.performs_count encoded, rfl⟩
  | @count encoded single kind filled plan =>
    have steps : m.executeSteps respond i = m.countSteps respond := by
      unfold executeSteps
      rw [kind, plan]
    rw [inOrder_mutation single.1, single.2, if_neg Bool.false_ne_true, onceSteps_of_filled filled,
      decide_eq_true kind, steps]
    exact ⟨_, m.performs_count encoded, rfl⟩
  | @out encoded single kind filled plan =>
    have steps : m.executeSteps respond i = m.outSteps respond i := by
      unfold executeSteps
      rw [kind]
      cases hp : m.rowPlan with
      | none => exact absurd hp plan
      | atomic index | bean type origin => rfl
    rw [inOrder_mutation single.1, single.2, if_neg Bool.false_ne_true, onceSteps_of_filled filled,
      decide_eq_true kind, steps]
    exact ⟨_, (performs_bindParameters encoded).bind fun _ => m.performs_out i, rfl⟩
  | @batch items batched listed =>
    have steps : m.inOrder respond i args = m.batchSteps respond i args := by
      rw [inOrder_mutation batched.1, batched.2]
      rfl
    have empty : queued i.settings.batchSize 0 = 0 := by
      unfold queued
      split
      · rfl
      · exact Nat.zero_mod _
    have entries : Performs respond _ _ := m.performs_runEntries i.settings.batchSize args items 0
    rw [empty, Nat.zero_add] at entries
    rw [steps]
    unfold batchSteps
    rw [listed, own_ok, pure_bind]
    have counted : Performs respond _ _ := entries.bind fun counts =>
      performs_pure (m.countsOutput counts)
    simp only [bind_assoc, pure_bind] at counted
    exact ⟨_, counted, rfl⟩

end

end CompiledMethod

end

end QueryMethods
