/-
What is inserted reads back. An insert binds fields of a bean; a select whose only row holds in its
columns what was bound to the slots of the same numbers returns a bean with the same in these fields
and, in all others, what a fresh instance holds.
-/
import QueryMethods.Proofs.Database.Answers
import QueryMethods.Proofs.Execution.Restoring
import QueryMethods.Proofs.Execution.Rows
import QueryMethods.Sample.Adapters
import QueryMethods.Scripted

namespace QueryMethods

open Dialogue

/-! ## Rows of bound values -/

/-- The column that a database serves for what was bound to a slot. -/
def SlotContent.column : SlotContent → Value
  | .value v => v
  | .null _ => .null

/-- One row, which holds in its columns what was bound to the slots of the same numbers. -/
def servesBound (bound : List (Nat × SlotContent)) : Expectation
  | .query, rows => rows = (1 : Nat)
  | .get slot _, v => ∀ content, (slot, content) ∈ bound → v = content.column
  | _, _ => True

namespace FilledParameter

theorem column_typed (types : List SlotType) : ∀ (index : Nat) (vs : List Value),
    ((typed types index vs).map SlotContent.ofTyped).map SlotContent.column = vs
  | _, [] => rfl
  | index, v :: rest => by
    have first : (SlotContent.ofTyped (v, nullType types index)).column = v := by
      unfold SlotContent.ofTyped
      cases v <;> rfl
    unfold typed
    rw [List.map_cons, List.map_cons, first, column_typed types (index + 1) rest]

/-- Served as columns, what a parameter is bound as are its values. -/
theorem column_contents (e : FilledParameter) : e.contents.map SlotContent.column = e.values :=
  column_typed _ 0 e.values

end FilledParameter

/-! ## Reading -/

section

variable {bound : List (Nat × SlotContent)}

theorem succeeds_columns : ∀ {slots : List Nat} {types : List SlotType} {contents : List SlotContent},
    slots.length = types.length → slots.length = contents.length →
    (∀ x ∈ slots.zip contents, x ∈ bound) →
    ((slots.zip types).mapM fun x => CompiledMethod.column x.1 x.2).Succeeds (servesBound bound)
      fun columns => columns = contents.map SlotContent.column
  | [], _, [], _, _, _ => by
    rw [List.zip_nil_left, List.mapM_nil]
    exact succeeds_pure rfl
  | slot :: slots, type :: types, content :: contents, same, same', held => by
    obtain ⟨first, others⟩ := List.forall_mem_cons.1 held
    have rest := succeeds_columns (Nat.succ.inj same) (Nat.succ.inj same') others
    rw [List.zip_cons_cons, List.mapM_cons]
    refine succeeds_request_bind fun v hv => rest.bind fun columns hc => succeeds_pure ?_
    rw [hc, hv content first]
    rfl

/-- The value of a result is one that the contents of its slots decode to. -/
structure ResultReading.Gives (bound : List (Nat × SlotContent)) (r : ResultReading)
    (part : Destination × Value) : Prop where
  target : r.target = part.1
  field : ∃ path, part.1 = .field path
  columns : ∃ contents : List SlotContent,
    r.mapping.slots.length = r.mapping.conversion.slotTypes.length ∧
    r.mapping.slots.length = contents.length ∧ (∀ x ∈ r.mapping.slots.zip contents, x ∈ bound) ∧
    r.mapping.decode (contents.map SlotContent.column) = .ok part.2

theorem ResultReading.Gives.read {r : ResultReading} {part : Destination × Value}
    (h : r.Gives bound part) : (r.mapping.read CompiledMethod.column).Succeeds (servesBound bound)
      fun v => v = part.2 := by
  obtain ⟨contents, same, same', held, decoded⟩ := h.columns
  unfold SlotMapping.read
  refine (succeeds_columns same same' held).bind fun columns hc => ?_
  rw [hc, decoded]
  exact succeeds_pure rfl

theorem succeeds_readParts {rs : List ResultReading} {parts : List (Destination × Value)}
    (each : List.Forall₂ (ResultReading.Gives bound) rs parts) :
    (ResultReading.readParts CompiledMethod.column rs).Succeeds (servesBound bound)
      fun read => read = parts := by
  induction each with
  | nil => exact succeeds_pure rfl
  | @cons r part rs parts first _ ih =>
    obtain ⟨path, field⟩ := first.field
    have target : r.target = .field path := first.target.trans field
    unfold ResultReading.readParts
    rw [target]
    refine first.read.bind fun v hv => ih.bind fun read hr => succeeds_pure ?_
    rw [hv, hr, ← field]

end

namespace CompiledMethod

variable {m : CompiledMethod} {i : CallContext} {args : List Bindable}
  {bound : List (Nat × SlotContent)} {c : BeanClass} {parts : List (Destination × Value)} {b : Bean}

/-- The row is read into an instance that was fresh. -/
theorem succeeds_readResult (plan : m.rowPlan = .bean c .fresh) (fresh : c.hasDefault = true)
    (each : List.Forall₂ (ResultReading.Gives bound) m.results parts)
    (written : Destination.writeFields ⟨c.shape, c.blank⟩ parts = .ok b) :
    (m.readResult column).Succeeds (servesBound bound) fun d => d = .bean b := by
  have assembled : c.assemble .fresh parts = .ok b := by
    unfold BeanClass.assemble BeanClass.construct BeanClass.fresh?
    rw [if_pos fresh]
    exact written
  unfold readResult
  rw [plan]
  refine (succeeds_readParts each).bind fun read hr => ?_
  rw [hr, assembled]
  exact succeeds_pure rfl

theorem succeeds_readRowsAs {nullable : Bool} (returns : m.returns = .one nullable) {d : Datum}
    (row : (m.readResult column).Succeeds (servesBound bound) fun d' => d' = d) :
    (m.readRowsAs i).Succeeds (servesBound bound) fun o => o = .one d := by
  have fetch : (i.provider.fetchSize singleRowFetchSize).Succeeds (servesBound bound)
      fun _ => True := by
    unfold Provider.fetchSize
    split
    · exact succeeds_request fun _ _ => trivial
    · exact succeeds_pure trivial
  unfold readRowsAs
  rw [returns]
  refine fetch.bind fun _ _ => Succeeds.onRows fun rows one => ?_
  have one : rows = 1 := one
  subst one
  unfold readSingle
  refine succeeds_request_bind fun _ _ => ?_
  rw [if_neg Nat.one_ne_zero]
  refine row.bind fun d' same => succeeds_request_bind fun _ _ => ?_
  rw [if_neg (Nat.lt_irrefl 1), same]
  exact succeeds_pure rfl

theorem succeeds_bindAll : ∀ (slot : Nat) (xs : List (Value × SlotType)),
    (FilledParameter.bindAll slot xs).Succeeds (servesBound bound) fun _ => True
  | _, [] => succeeds_pure trivial
  | slot, x :: rest => by
    have one : (FilledParameter.bindOne slot x).Succeeds (servesBound bound) fun _ => True := by
      unfold FilledParameter.bindOne
      split <;> exact succeeds_request fun _ _ => trivial
    exact one.bind fun _ _ => succeeds_bindAll (slot + 1) rest

theorem succeeds_bindValues : ∀ (slot : Nat) (vs : List Value),
    (FilledParameter.bindValues slot vs).Succeeds (servesBound bound) fun _ => True
  | _, [] => succeeds_pure trivial
  | slot, _ :: rest => succeeds_request_bind fun _ _ => succeeds_bindValues (slot + 1) rest

/-- A select that is ready to run hands back its only row. -/
theorem succeeds_select {nullable : Bool} (returns : m.returns = .one nullable)
    (consecutive : SlotMapping.Consecutive 1 (m.parameters.map (·.mapping)))
    (widths : ∀ p ∈ m.parameters, p.mapping.slots.length =
      if p.mapping.iteration = .single then p.mapping.conversion.width else 1)
    {ready : ReadySelect} (prepared : m.readySelect i args = .ok ready)
    (small : FilledParameter.total ready.encoded < 2 ^ 63) {d : Datum}
    (row : (m.readResult column).Succeeds (servesBound bound) fun d' => d' = d) :
    (m.select i args).Succeeds (servesBound bound) fun o => o = .one d := by
  have filled := encode_of_ready prepared
  have binds : ready.bind.Succeeds (servesBound bound) fun _ => True := by
    rw [ready_bind prepared consecutive (fits_of_widths widths filled) small]
    unfold bindPaged
    split
    · exact (succeeds_bindValues _ _).bind fun _ _ => succeeds_bindAll _ _
    · exact (succeeds_bindAll _ _).bind fun _ _ => succeeds_bindValues _ _
  unfold select
  rw [prepared]
  refine Succeeds.onConnection (Succeeds.onStatement ?_)
  exact binds.bind fun _ _ => succeeds_readRowsAs returns row

end CompiledMethod

/-! ## Fields that were bound -/

/-- A field that was bound in a row is restored from the columns with the numbers of its slots. -/
theorem MethodScope.Mirrors.restored {s : MethodScope} {c : BeanClass} {position : Nat}
    {names : List String} {p : ParameterBinding} {r : ResultReading} {b : Bean}
    {e : FilledParameter} {bound : List (Nat × SlotContent)} (h : s.Mirrors c position names p r)
    (typed : b.IsOf s.catalog c) (restores : ∀ codec, p.mapping.conversion = .adapter codec →
      codec.Restores fun v => p.path.read (.bean b) = .ok (.value v))
    (single : p.mapping.iteration = .single)
    (width : p.mapping.slots.length = p.mapping.conversion.width) (own : e.parameter = p)
    (encoded : p.encode (.bean b) = .ok e.values) (held : ∀ x ∈ e.placed, x ∈ bound) :
    ∃ part, b.Refills s.catalog c names part ∧ r.Gives bound part := by
  obtain ⟨t, leads, converts, nullable⟩ := h.field
  obtain ⟨x, here, fits, read⟩ := leads.read typed
  obtain ⟨step, rest, path⟩ := leads.path_cons
  unfold ParameterBinding.encode at encoded
  rw [if_pos single] at encoded
  have read : p.path.read (.bean b) = .ok x.toBindable := by
    rw [path] at read ⊢
    exact read
  obtain ⟨leaf, v, decoded, null, converted⟩ := fits.restored converts restores read encoded
  have slots : r.mapping.slots.length = e.values.length := by
    rw [h.slots, width, ParameterBinding.encodeElement_length encoded]
  refine ⟨(.field p.path, v), ⟨p.path, t, x, rfl, leads, here, fits, leaf, converted⟩,
    h.target, ⟨p.path, rfl⟩, e.contents, ?_, ?_, ?_, ?_⟩
  · rw [h.slots, h.conversion, width, Conversion.width_eq]
  · rw [slots, e.contents_length]
  · rw [h.slots, ← own]
    exact held
  · unfold SlotMapping.decode
    rw [e.column_contents, h.conversion, decoded, nullable]
    show (if v.isNull && !t.optional then _ else _) = _
    refine if_neg fun missing => ?_
    obtain ⟨absent, required⟩ := Bool.and_eq_true_iff.1 missing
    rw [null absent] at required
    cases required

/-! ## Accepted inserts and selects -/

namespace MethodDeclaration

/-- The parameters are the fields at the paths of an argument, without tags. -/
def BindsFields (d : MethodDeclaration) (selector : ArgumentSelector) (paths : List (List String)) :
    Prop :=
  ∃ t, Template.read (MethodScope.form d.kind) d.template = .ok t ∧ t.BindsFields selector paths

/-- The results are the fields at the paths, without tags. -/
def ReadsFields (d : MethodDeclaration) (paths : List (List String)) : Prop :=
  ∃ t, Template.read (MethodScope.form d.kind) d.template = .ok t ∧ t.ReadsFields paths

/-- What is inserted reads back. An accepted insert binds fields of an argument, and an accepted
select of one row reads the same fields; the paths are distinct and lead only through beans that can
be descended into, and codecs restore what the bean holds. Whatever the databases answer, if a row
of the insert has been sent for a bean, and the select finds one row with the values that were bound
to slots in the columns of the same numbers, then it returns a bean that holds in these fields what
the bean holds, and in all others what a fresh instance holds. Slots are 64-bit words, and there are
fewer than 2 ^ 63 values. -/
theorem inserted_reads_back {catalog : Catalog} {adapters : AdapterTable}
    {interface interface' : String} {insert select : MethodDeclaration} {mi ms : CompiledMethod}
    (inserts : insert.kind = .insert) (selects : select.kind = .select)
    (hi : insert.compile catalog adapters interface = .ok mi)
    (hs : select.compile catalog adapters interface' = .ok ms) (words : mi.bindCount < UInt64.size)
    {selector : ArgumentSelector} {position : Nat} {a : Argument} {row : ValueType} {c : BeanClass}
    (argument : (MethodScope.mk catalog adapters insert.kind insert.signature).argument selector =
      .ok (position, a))
    (inserted : catalog.classOf? a.element = some c)
    (returns : select.signature.returns = .single row) (selected : catalog.classOf? row = some c)
    {paths : List (List String)} (distinct : paths.Nodup)
    (fields : ∀ names ∈ paths, names ≠ [] ∧ catalog.descends c names = true)
    (binds : insert.BindsFields selector paths) (reads : select.ReadsFields paths) {b : Bean}
    (typed : b.IsOf catalog c) (blank : Bean.IsOf catalog c ⟨c.shape, c.blank⟩)
    (restores : ∀ p ∈ mi.parameters, ∀ codec, p.mapping.conversion = .adapter codec →
      codec.Restores fun v => p.path.read (.bean b) = .ok (.value v))
    {i i' : CallContext} {args args' : List Bindable} {σ σ' : Type} {respond : Responder σ}
    {respond' : Responder σ'} {state : σ} {state' : σ'} {k : Nat} {bound : List (Nat × SlotContent)}
    (source : mi.rowSource args position k = some (.bean b))
    (sent : (Event.rows [] ((mi.execute i args).run respond state).events)[k]? = some bound)
    {ready : CompiledMethod.ReadySelect} (prepared : ms.readySelect i' args' = .ok ready)
    (small : FilledParameter.total ready.encoded < 2 ^ 63)
    (answered : ∀ x ∈ ((ms.execute i' args').run respond' state').steps,
      x.Answered (servesBound bound)) :
    ∃ b' : Bean, ((ms.execute i' args').run respond' state').outcome = .ok (.one (.bean b')) ∧
      b'.IsOf catalog c ∧ (∀ names ∈ paths, b'.at? names = b.at? names) ∧
      ∀ other, (∀ names ∈ paths, Apart names other) →
        b'.at? other = Bean.at? ⟨c.shape, c.blank⟩ other := by
  have mutation : insert.kind ≠ .select := by rw [inserts]; decide
  have noCall : insert.kind ≠ .call := by rw [inserts]; decide
  have noCall' : select.kind ≠ .call := by rw [selects]; decide
  have compiled := mapError_eq_ok.1 hi
  have compiled' := mapError_eq_ok.1 hs
  obtain ⟨t, resolved, read, origin⟩ := MethodScope.compile_resolvedFrom compiled
  obtain ⟨t', resolved', read', origin'⟩ := MethodScope.compile_resolvedFrom compiled'
  obtain ⟨_, same, binds⟩ := binds
  cases read.symm.trans same
  obtain ⟨_, same', reads⟩ := reads
  cases read'.symm.trans same'
  obtain ⟨plan, form, fresh, readings⟩ := origin'.reads selects reads returns selected fields
  have bindings := origin.binds binds argument
  -- slots and columns
  obtain ⟨consecutive, -⟩ := MethodScope.compile_consecutive_plain noCall compiled
  obtain ⟨consecutive', widths'⟩ := MethodScope.compile_consecutive selects compiled'
  have shape := MethodScope.compile_slotShape mutation compiled
  have width (p : ParameterBinding) (hp : p ∈ mi.parameters) :
      p.mapping.slots.length = p.mapping.conversion.width := by
    rw [(shape.parameters p hp).2, List.length_range']
  have columns := MethodScope.compile_columns noCall' compiled'
  have kind : row.kind = a.element.kind := by
    rw [(Catalog.bean_of_classOf selected).1, (Catalog.bean_of_classOf inserted).1]
  have mirrors := MethodScope.mirrors bindings readings rfl rfl kind consecutive width columns
  -- each field is bound in the row and restored from it
  have places : mi.Places := MethodScope.compile_places mutation compiled words
  have restored := mirrors.imp fun names r h => by
    obtain ⟨p, hp, h⟩ := h
    have stands := h.argument ▸ source
    obtain ⟨e, own, encoded, held⟩ := CompiledMethod.row_placed places (origin.kind ▸ mutation)
      (origin.kind ▸ noCall) sent hp stands
    exact h.restored typed (restores p hp) (shape.parameters p hp).1 (width p hp) own encoded held
  obtain ⟨parts, refills, gives⟩ := forall₂_comp.1 restored
  obtain ⟨b', written, typed', same, others⟩ := Bean.writeFields_refills distinct refills blank
  have row := CompiledMethod.succeeds_readResult plan fresh gives.flip written
  have select := CompiledMethod.succeeds_select form consecutive' widths' prepared small row
  rw [← CompiledMethod.execute_select (origin'.kind.trans selects)] at select
  obtain ⟨o, outcome, rfl⟩ := select.run respond' state' answered
  exact ⟨b', outcome, typed', same, others⟩

end MethodDeclaration

/-! ## Orders that are inserted -/

namespace Sample

/-- Orders are inserted, some of their fields each. -/
def insertOrders : MethodDeclaration :=
  { name := "insert_orders"
    kind := .insert
    template := "INSERT INTO orders VALUES (\x7b%o.total\x7d, \x7b%o.id\x7d, \x7b%o.customer.address.zip\x7d)"
    signature :=
      { arguments := [⟨some "o", .array, ⟨.bean "Order", false⟩⟩], returns := .unit } }

/-- The same fields of an order are read. -/
def readOrder : MethodDeclaration :=
  { name := "read_order"
    kind := .select
    template := "SELECT \x7b%%.total\x7d, \x7b%%.id\x7d, \x7b%%.customer.address.zip\x7d FROM orders"
    signature := { arguments := [], returns := .single ⟨.bean "Order", false⟩ } }

/-- The fields, in the order of both templates. -/
def orderPaths : List (List String) := [["total"], ["id"], ["customer", "address", "zip"]]

theorem insertOrders_binds : insertOrders.BindsFields (.name "o") orderPaths := by
  have checked : (match Template.read .plain insertOrders.template with
      | .ok t => decide (t.BindsFields (.name "o") orderPaths)
      | .error _ => false) = true := by decide +kernel
  unfold MethodDeclaration.BindsFields
  split at checked
  · next t read => exact ⟨t, read, of_decide_eq_true checked⟩
  · cases checked

theorem readOrder_reads : readOrder.ReadsFields orderPaths := by
  have checked : (match Template.read .plain readOrder.template with
      | .ok t => decide (t.ReadsFields orderPaths)
      | .error _ => false) = true := by decide +kernel
  unfold MethodDeclaration.ReadsFields
  split at checked
  · next t read => exact ⟨t, read, of_decide_eq_true checked⟩
  · cases checked

/-- An order of some customer. -/
def someOrder : Bean :=
  let home : Content := .bean address.shape [.value (.string "Paris"), .value (.int 75001)]
  ⟨order.shape,
    [.value (.int 7), .bean customer.shape [.value (.string "Ada"), home, home, .absent],
      .value (.custom (money 250 "EUR")), .value (.custom (settings "dark" 12))]⟩

/-- A fresh order. -/
def freshOrder : Bean := ⟨order.shape, order.blank⟩

theorem someOrder_isOf : someOrder.IsOf catalog order := by
  have home : (Content.bean address.shape [.value (.string "Paris"), .value (.int 75001)]).HasType
      catalog addressType :=
    .bean rfl (.cons (.scalar rfl) (.cons (.scalar rfl) .nil))
  have owner : (Content.bean customer.shape [.value (.string "Ada"), _, _, .absent]).HasType
      catalog ⟨.bean "Customer", false⟩ :=
    .bean rfl (.cons (.scalar rfl) (.cons home (.cons home (.cons (.absent rfl) .nil))))
  exact ⟨rfl, .cons (.scalar rfl) (.cons owner (.cons (.custom rfl) (.cons (.custom rfl) .nil)))⟩

theorem freshOrder_isOf : freshOrder.IsOf catalog order := by
  have home : (freshContent address).HasType catalog addressType :=
    .bean rfl (.cons (.scalar rfl) (.cons (.absent rfl) .nil))
  have owner : (freshContent customer).HasType catalog ⟨.bean "Customer", false⟩ :=
    .bean rfl (.cons (.scalar rfl) (.cons home (.cons home (.cons (.absent rfl) .nil))))
  exact ⟨rfl, .cons (.scalar rfl) (.cons owner (.cons (.absent rfl) (.cons (.custom rfl) .nil)))⟩

/-- A database that finds one row. -/
def serving (row : List Value) : Responder Unit := fun event state =>
  match event with
  | .query => (.ok (1 : Nat), state)
  | .get column _ => (.ok ((row[column - 1]?).getD .null), state)
  | event => (.ok (blank event), state)

/-- It serves contents as the columns with the numbers of their slots. -/
theorem serving_serves (contents : List SlotContent) (event : Event) (state : Unit) : ∃ reply,
    (serving (contents.map SlotContent.column) event state).1 = .ok reply ∧
      servesBound ((List.range' 1 contents.length).zip contents) event reply := by
  cases event
  case get column type =>
    refine ⟨_, rfl, fun content mem => ?_⟩
    obtain ⟨k, found⟩ := List.mem_iff_getElem?.1 mem
    obtain ⟨slot, held⟩ := List.getElem?_zip_eq_some.1 found
    obtain ⟨inside, rfl⟩ := List.getElem?_eq_some_iff.1 slot
    rw [List.getElem_range', show 1 + 1 * k - 1 = k by omega, List.getElem?_map, held]
    rfl
  case query => exact ⟨_, rfl, rfl⟩
  all_goals exact ⟨_, rfl, trivial⟩

/-- Whether a codec gives back nulls, and the value that is found. -/
def restores (codec : Codec) (found : Except ConversionFailure Bindable) : Bool :=
  decide (codec.decode (List.replicate codec.width .null) = .ok .null) &&
    match found with
    | .ok (.value v) =>
      match codec.encode v with
      | .ok values => decide (codec.decode values = .ok v)
      | .error _ => true
    | _ => true

theorem restores_codec {codec : Codec} {found : Except ConversionFailure Bindable}
    (h : restores codec found = true) : codec.Restores fun v => found = .ok (.value v) := by
  obtain ⟨null, value⟩ := Bool.and_eq_true_iff.1 h
  refine ⟨?_, of_decide_eq_true null⟩
  rintro v values rfl - encoded
  dsimp only at value
  rw [encoded] at value
  exact of_decide_eq_true value

theorem readOrder_reads_back :
    let adapters : AdapterTable := ⟨[("money", moneyAdapter)]⟩
    let i : CallContext := ⟨⟨fun _ => true, none⟩, { batchSize := 10 }, none⟩
    let row : List Value := [.long 250, .string "EUR", .int 7, .int 75001]
    ∃ ms b', readOrder.compile catalog adapters "Shop" = .ok ms ∧
      ((ms.execute i []).run (serving row) ()).outcome = .ok (.one (.bean b')) ∧
      b'.at? ["total"] = someOrder.at? ["total"] ∧
      b'.at? ["customer", "address", "zip"] = someOrder.at? ["customer", "address", "zip"] ∧
      b'.at? ["customer", "name"] = freshOrder.at? ["customer", "name"] := by
  intro adapters i row
  let args : List Bindable := [.list [.bean freshOrder, .bean someOrder]]
  let contents : List SlotContent := row.map .value
  have inserted : (match insertOrders.compile catalog adapters "Shop" with
      | .ok m => decide (m.bindCount < UInt64.size ∧ m.batchPosition = some 0 ∧
          (Event.rows [] ((m.execute i args).run ScriptedDatabase.respond {}).events)[1]? =
            some ((List.range' 1 contents.length).zip contents)) &&
          m.parameters.all fun p => match p.mapping.conversion with
            | .adapter codec => restores codec (p.path.read (.bean someOrder))
            | .scalar _ => true
      | .error _ => false) = true := by decide +kernel
  have selected : (match readOrder.compile catalog adapters "Shop" with
      | .ok m => match m.readySelect i [] with
        | .ok ready => decide (FilledParameter.total ready.encoded < 2 ^ 63)
        | .error _ => false
      | .error _ => false) = true := by decide +kernel
  cases hi : insertOrders.compile catalog adapters "Shop" with
  | error e => rw [hi] at inserted; cases inserted
  | ok mi =>
    cases hs : readOrder.compile catalog adapters "Shop" with
    | error e => rw [hs] at selected; cases selected
    | ok ms =>
      rw [hi] at inserted
      rw [hs] at selected
      obtain ⟨shape, restored⟩ := Bool.and_eq_true_iff.1 inserted
      obtain ⟨words, batched, sent⟩ := of_decide_eq_true shape
      have codecs : ∀ p ∈ mi.parameters, ∀ codec, p.mapping.conversion = .adapter codec →
          codec.Restores fun v => p.path.read (.bean someOrder) = .ok (.value v) := by
        intro p hp codec conversion
        have ok := List.all_eq_true.1 restored p hp
        rw [conversion] at ok
        exact restores_codec ok
      have source : mi.rowSource args 0 1 = some (.bean someOrder) := by
        unfold CompiledMethod.rowSource CompiledMethod.batchItems
        rw [batched]
        rfl
      cases prepared : ms.readySelect i [] with
      | error e => dsimp only at selected; rw [prepared] at selected; cases selected
      | ok ready =>
        dsimp only at selected
        rw [prepared] at selected
        obtain ⟨b', outcome, -, same, others⟩ := MethodDeclaration.inserted_reads_back rfl rfl hi hs
          words (a := ⟨some "o", .array, ⟨.bean "Order", false⟩⟩) rfl rfl rfl rfl (by decide)
          (by decide +kernel) insertOrders_binds readOrder_reads someOrder_isOf freshOrder_isOf
          codecs source sent prepared (of_decide_eq_true selected)
          (Dialogue.answered_run (serving_serves contents) (ms.execute i []) ())
        refine ⟨ms, b', rfl, outcome, same _ (by decide), same _ (by decide), others _ ?_⟩
        unfold Apart
        decide

end Sample

end QueryMethods
