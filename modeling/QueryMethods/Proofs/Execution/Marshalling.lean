/-
Rows of a cursor and what a select makes of them. Each row is decoded by itself, the key of an entry
before its value. The rows are decoded in the order of the cursor up to the first that does not
decode; of a method that returns one row no more than two are looked for.
-/
import QueryMethods.Proofs.Execution.Collecting
import QueryMethods.Proofs.Execution.Cursor

namespace QueryMethods

open Dialogue

/-! ## Decoding a row -/

namespace ResultReading

/-- The parts of a bean that a row holds, in order. -/
def partsIn (row : RowContent) (rs : List ResultReading) :
    Except ConversionFailure (List (Destination × Value)) :=
  (rs.filter isPart).mapM fun r => (r.mapping.valueIn row).map (Prod.mk r.target)

theorem partsIn_cons (row : RowContent) (r : ResultReading) (rest : List ResultReading) :
    partsIn row (r :: rest) = if r.isPart then
      r.mapping.valueIn row >>= fun v => (partsIn row rest).map ((r.target, v) :: ·)
      else partsIn row rest := by
  unfold partsIn
  by_cases part : r.isPart = true
  · rw [if_pos part, List.filter_cons_of_pos part, List.mapM_cons]
    cases r.mapping.valueIn row <;> rfl
  · rw [if_neg part, List.filter_cons_of_neg part]

end ResultReading

namespace CompiledMethod

/-- The key of an entry, as a row holds it. -/
def keyIn (m : CompiledMethod) (row : RowContent) : Except ConversionFailure Datum :=
  match m.key.bind (m.results[·]?) with
  | none => .error (.beanMismatch "map key")
  | some r => (r.mapping.valueIn row).map .value

/-- The result that is put together of a row. -/
def resultIn (m : CompiledMethod) (row : RowContent) : Except ConversionFailure Datum :=
  match m.rowPlan with
  | .none => .ok (.value .null)
  | .atomic index =>
    match m.results[index]? with
    | none => .error (.beanMismatch "result column")
    | some r => (r.mapping.valueIn row).map .value
  | .bean c origin => ResultReading.partsIn row m.results >>= fun parts =>
    (c.assemble origin parts).map .bean

/-- The entry of a row, the key first. -/
def entryIn (m : CompiledMethod) (row : RowContent) : Except ConversionFailure (Datum × Datum) :=
  m.keyIn row >>= fun key => (m.resultIn row).map (Prod.mk key)

end CompiledMethod

/-! ## Reading a row -/

section

variable {rows : List RowContent} {place : Nat} {row : RowContent}

/-- The cursor stands at the row. -/
def StandsAt (rows : List RowContent) (place : Nat) (row : RowContent) : Prop :=
  place ≠ 0 ∧ rows[place - 1]? = some row

variable (at' : StandsAt rows place row)

include at'

theorem delivers_column (slot : Nat) (type : SlotType) :
    Delivers rows place (CompiledMethod.column slot type) (.ok (row slot type)) 0 :=
  delivers_request nofun fun _ held => held row at'.1 at'.2

theorem SlotMapping.delivers_read (o : SlotMapping) :
    Delivers rows place (o.read CompiledMethod.column) ((o.valueIn row).mapError .conversion) 0 := by
  have columns := delivers_mapM (fun x : Nat × SlotType => delivers_column at' x.1 x.2)
    (o.slots.zip o.conversion.slotTypes)
  unfold SlotMapping.read SlotMapping.valueIn
  refine columns.bind_still ?_
  cases o.decode _ with
  | ok v => exact delivers_pure v
  | error e => exact delivers_fail _

theorem ResultReading.delivers_parts : ∀ rs : List ResultReading,
    Delivers rows place (readParts CompiledMethod.column rs)
      ((partsIn row rs).mapError .conversion) 0
  | [] => delivers_pure _
  | r :: rest => by
    have ih := delivers_parts rest
    rw [readParts_cons, partsIn_cons]
    by_cases part : r.isPart = true
    · rw [if_pos part, if_pos part]
      exact (r.mapping.delivers_read at').then fun v => ih.map_conversion ((r.target, v) :: ·)
    · rw [if_neg part, if_neg part]
      exact ih

namespace CompiledMethod

variable (m : CompiledMethod)

theorem delivers_readMapKey :
    Delivers rows place (m.readMapKey column) ((m.keyIn row).mapError .conversion) 0 := by
  unfold readMapKey keyIn
  cases m.key.bind (m.results[·]?) with
  | none => exact delivers_fail _
  | some r => exact (r.mapping.delivers_read at').map_conversion Datum.value

theorem delivers_readResult :
    Delivers rows place (m.readResult column) ((m.resultIn row).mapError .conversion) 0 := by
  unfold readResult resultIn
  cases m.rowPlan with
  | none => exact delivers_pure _
  | atomic index =>
    dsimp only
    cases m.results[index]? with
    | none => exact delivers_fail _
    | some r => exact (r.mapping.delivers_read at').map_conversion Datum.value
  | bean c origin =>
    refine (ResultReading.delivers_parts at' m.results).then fun parts => ?_
    cases c.assemble origin parts with
    | ok b => exact delivers_pure _
    | error e => exact delivers_fail _

theorem delivers_readEntry :
    Delivers rows place m.readEntry ((m.entryIn row).mapError .conversion) 0 :=
  (m.delivers_readMapKey at').then fun key =>
    (m.delivers_readResult at').map_conversion (Prod.mk key)

end CompiledMethod

end

/-! ## Reading rows -/

/-- What comes of decoding rows in order, with the number of times that the cursor is moved: all
rows decode and there are no more, or the first that does not decode is the last one to be read. -/
inductive Scan {α : Type} (decode : RowContent → Except ConversionFailure α) (rows : List RowContent) :
    Except ConversionFailure (List α) → Nat → Prop
  | all {values : List α} (decoded : List.Forall₂ (fun row v => decode row = .ok v) rows values) :
      Scan decode rows (.ok values) (rows.length + 1)
  | refused {before after : List RowContent} {row : RowContent} {e : ConversionFailure}
      (split : rows = before ++ row :: after) (decoded : ∀ r ∈ before, ∃ v, decode r = .ok v)
      (refused : decode row = .error e) : Scan decode rows (.error e) (before.length + 1)

section

variable {α : Type} {decode : RowContent → Except ConversionFailure α}

theorem Scan.cons {row : RowContent} {v : α} (decoded : decode row = .ok v) {rest : List RowContent}
    {values : Except ConversionFailure (List α)} {count : Nat} (h : Scan decode rest values count) :
    Scan decode (row :: rest) (values.map (v :: ·)) (count + 1) := by
  cases h with
  | all others => exact .all (.cons decoded others)
  | @refused before after last e split others refused =>
    have first : ∀ r ∈ row :: before, ∃ v, decode r = .ok v :=
      List.forall_mem_cons.2 ⟨⟨v, decoded⟩, others⟩
    exact .refused (congrArg (row :: ·) split) first refused

variable {rows : List RowContent} {read : Dialogue α}
  (each : ∀ place row, StandsAt rows place row →
    Delivers rows place read ((decode row).mapError .conversion) 0)

include each

/-- The rows that the cursor has not come to are read. -/
theorem delivers_readRows : ∀ {before rest : List RowContent}, rows = before ++ rest →
    ∃ values count, Scan decode rest values count ∧
      Delivers rows before.length (CompiledMethod.readRows read rest.length)
        (values.mapError .conversion) count
  | before, [], _ => by
    refine ⟨.ok [], 1, .all .nil, ?_⟩
    show Delivers rows before.length (do request .next; pure []) (.ok []) (1 + 0)
    exact delivers_next.bind (delivers_pure [])
  | before, row :: rest, split => by
    have split' : rows = (before ++ [row]) ++ rest := by
      rw [split, List.append_assoc, List.singleton_append]
    -- as many rows as have been read stand before the one that is read next
    have here : StandsAt rows (before.length + 1) row := by
      refine ⟨Nat.succ_ne_zero _, ?_⟩
      rw [split, Nat.add_sub_cancel, List.getElem?_append_right le_rfl, Nat.sub_self]
      rfl
    have first := each _ _ here
    have step (values : Except QueryFailure (List α)) (count : Nat)
        (h : Delivers rows (before.length + 1) (do
          let first ← read
          let rest ← CompiledMethod.readRows read rest.length
          pure (first :: rest)) values count) :
        Delivers rows before.length (CompiledMethod.readRows read (row :: rest).length) values
          (count + 1) := by
      rw [Nat.add_comm]
      exact delivers_next.bind h
    cases decoded : decode row with
    | error e =>
      rw [decoded] at first
      refine ⟨.error e, 0 + 1, .refused (List.nil_append _).symm nofun decoded, step _ _ ?_⟩
      exact first.bind_error
    | ok v =>
      rw [decoded] at first
      obtain ⟨values, count, scan, others⟩ := delivers_readRows split'
      rw [List.length_append, List.length_singleton] at others
      refine ⟨_, _, scan.cons decoded, step _ _ ?_⟩
      exact first.bind_still (others.map_conversion (v :: ·))

end

namespace CompiledMethod

/-! ## What selects make of rows -/

/-- What a select hands back of the rows, by what it returns, with the number of times that the
cursor is moved. -/
inductive Marshals (m : CompiledMethod) (rows : List RowContent) :
    ReturnType → Except QueryFailure Output → Nat → Prop
  /-- Without a row there is no value, which an optional type takes for a null. -/
  | empty {t : ValueType} (none : rows = []) : Marshals m rows (.single t)
      (if t.nullable then .ok (.one (.value .null)) else .error .emptyResult) 1
  | only {t : ValueType} {row : RowContent} {d : Datum} (one : rows = [row])
      (decoded : m.resultIn row = .ok d) : Marshals m rows (.single t) (.ok (.one d)) 2
  /-- The second row is found, and not read. -/
  | several {t : ValueType} {row second : RowContent} {rest : List RowContent} {d : Datum}
      (more : rows = row :: second :: rest) (decoded : m.resultIn row = .ok d) :
      Marshals m rows (.single t) (.error .multipleResults) 2
  | refused {t : ValueType} {row : RowContent} {rest : List RowContent} {e : ConversionFailure}
      (first : rows = row :: rest) (failed : m.resultIn row = .error e) :
      Marshals m rows (.single t) (.error (.conversion e)) 1
  | many {t : ValueType} {data : Except ConversionFailure (List Datum)} {count : Nat}
      (scan : Scan m.resultIn rows data count) :
      Marshals m rows (.many t) ((data.map .many).mapError .conversion) count
  | map {k v : ValueType} {entries : Except ConversionFailure (List (Datum × Datum))} {count : Nat}
      (scan : Scan m.entryIn rows entries count) :
      Marshals m rows (.map k v) ((entries.map .map).mapError .conversion) count

variable {m : CompiledMethod} {rows : List RowContent}

/-- What is handed back is made of rows. -/
theorem Marshals.ofRows {declared : ReturnType} {outcome : Except QueryFailure Output} {count : Nat}
    (h : m.Marshals rows declared outcome count) {o : Output} (ok : outcome = .ok o) : o.OfRows := by
  cases h with
  | empty none =>
    split at ok
    · cases ok
      exact .one _
    · cases ok
  | only one decoded =>
    cases ok
    exact .one _
  | several more decoded | refused first failed => cases ok
  | many scan =>
    obtain ⟨data, -, rfl⟩ := map_eq_ok.1 (mapError_eq_ok.1 ok)
    exact .many data
  | map scan =>
    obtain ⟨entries, read, rfl⟩ := map_eq_ok.1 (mapError_eq_ok.1 ok)
    cases scan with
    | refused _ _ _ => cases read
    | all decoded =>
      cases read
      refine .map fun e he => ?_
      obtain ⟨row, -, made⟩ := exists_of_forall₂ decoded he
      obtain ⟨key, keyed, made⟩ := bind_eq_ok.1 made
      obtain ⟨value, -, rfl⟩ := map_eq_ok.1 made
      unfold keyIn at keyed
      split at keyed
      · cases keyed
      · obtain ⟨v, -, same⟩ := map_eq_ok.1 keyed
        exact ⟨v, same.symm⟩

theorem delivers_readSingle (m : CompiledMethod) (t : ValueType) (rows : List RowContent) :
    ∃ outcome count, m.Marshals rows (.single t) outcome count ∧
      Delivers rows 0 (m.readSingle t.nullable rows.length) outcome count := by
  unfold readSingle
  match rows with
  | [] =>
    refine ⟨_, 1 + 0, .empty rfl, delivers_next.bind ?_⟩
    rw [if_pos List.length_nil]
    split
    · exact delivers_pure _
    · exact delivers_fail _
  | row :: rest =>
    have here : StandsAt (row :: rest) 1 row := ⟨Nat.one_ne_zero, rfl⟩
    have first := m.delivers_readResult here
    have some : (row :: rest).length ≠ 0 := Nat.succ_ne_zero _
    cases decoded : m.resultIn row with
    | error e =>
      rw [decoded] at first
      refine ⟨_, 1 + 0, .refused rfl decoded, delivers_next.bind ?_⟩
      rw [if_neg some]
      exact first.bind_error
    | ok d =>
      rw [decoded] at first
      -- whether there is a second row is only asked once the first one is decoded
      match rest with
      | [] =>
        refine ⟨_, 1 + (1 + 0), .only rfl decoded, delivers_next.bind ?_⟩
        rw [if_neg some]
        exact first.bind_still (delivers_next.bind (delivers_pure _))
      | second :: rest =>
        refine ⟨_, 1 + (1 + 0), .several rfl decoded, delivers_next.bind ?_⟩
        rw [if_neg some]
        refine first.bind_still (delivers_next.bind ?_)
        rw [if_pos (by simp)]
        exact delivers_fail _

/-- The rows are read as the declared type wants them. -/
theorem answers_readRowsAs {declared : ReturnType} (select : m.kind = .select)
    (serves : ReturnForm.Serves m.kind m.isBatched m.key.isSome m.rowPlan declared m.returns)
    (rows : List RowContent) (i : CallContext) : ∃ outcome count,
      m.Marshals rows declared outcome count ∧
        (m.readRowsAs i).Always (Answers rows outcome count) := by
  have hint (size : Nat) : (i.provider.fetchSize size).Always fun s _ => Within OffRows s :=
    (i.provider.sequential_fetchSize (fun _ => ⟨nofun, nofun⟩) size).within
  unfold readRowsAs
  generalize m.returns = returns at serves ⊢
  cases serves with
  | row _ t =>
    obtain ⟨outcome, count, made, read⟩ := m.delivers_readSingle t rows
    exact ⟨outcome, count, made, answers_after (hint _) fun _ => answers_onRows read⟩
  | rows _ t =>
    obtain ⟨data, count, scan, read⟩ := delivers_readRows
      (fun _ _ here => m.delivers_readResult here) (List.nil_append rows).symm
    exact ⟨_, count, .many scan,
      answers_after (hint _) fun _ => answers_onRows (read.map_conversion Output.many)⟩
  | entries _ _ k v =>
    obtain ⟨entries, count, scan, read⟩ := delivers_readRows
      (fun _ _ here => m.delivers_readEntry here) (List.nil_append rows).symm
    exact ⟨_, count, .map scan,
      answers_after (hint _) fun _ => answers_onRows (read.map_conversion Output.map)⟩
  | out other _ _ _ | unit other _ | count other _ _ _ | counts other _ _ _ =>
    exact absurd select other

/-- Once its query is made, a select marshals the rows. -/
theorem answers_execute {declared : ReturnType} (select : m.kind = .select)
    (serves : ReturnForm.Serves m.kind m.isBatched m.key.isSome m.rowPlan declared m.returns)
    (rows : List RowContent) (i : CallContext) (args : List Bindable) : ∃ outcome count,
      m.Marshals rows declared outcome count ∧
        (m.execute i args).Always (Answers rows outcome count) := by
  obtain ⟨outcome, count, made, read⟩ := answers_readRowsAs select serves rows i
  refine ⟨outcome, count, made, ?_⟩
  rw [execute_select select]
  unfold CompiledMethod.select
  cases m.readySelect i args with
  | error e => exact answers_fail e
  | ok ready =>
    have binds : Sequential OffRows ready.bind :=
      ready.sequential_bind (fun _ _ => ⟨nofun, nofun⟩) fun _ _ => ⟨nofun, nofun⟩
    have body : (do ready.bind; m.readRowsAs i : Dialogue Output).Always
        (Answers rows outcome count) := answers_after binds.within fun _ => read
    have prepare : OffRows (i.provider.prepareEvent false ready.sql) := ⟨nofun, nofun⟩
    have close : OffRows .closeStatement := ⟨nofun, nofun⟩
    exact answers_onConnection (answers_bracket prepare close fun _ => body)

end CompiledMethod

/-! ## Accepted selects -/

/-- Selects marshal exactly the rows of the cursor. Let a database that fails no request serve some
rows to an accepted select. If the query is made, what is handed back is made of these rows, each
decoded by itself, in the order of the cursor, and the first that does not decode is the last one
to be read. Of what is handed back the first single value that does not convert to its type is the
failure, the key of an entry before its value; if all convert, a map has of each key the last value
and no other keys. The query is made unless the call fails before. -/
theorem MethodDeclaration.select_marshals_rows {d : MethodDeclaration} {catalog : Catalog}
    {adapters : AdapterTable} {interface : String} {m : CompiledMethod} (select : d.kind = .select)
    (h : d.compile catalog adapters interface = .ok m) {r : HostReturn}
    (declared : r.returnType = d.signature.returns) (rows : List RowContent) (i : CallContext)
    (args : List Bindable) {σ : Type} (respond : Responder σ) (state : σ) :
    let run := (m.execute i args).run respond state
    ServesRows rows 0 run.steps →
      (.query ∉ run.events → ∃ e, run.outcome = .error e) ∧
      (.query ∈ run.events →
        m.Marshals rows d.signature.returns run.outcome (run.events.count .next) ∧
        ∀ o, run.outcome = .ok o →
          error? (r.ofOutput o) =
            ((r.cells o).findSome? fun c => error? (c.2 >>= c.1.ofDatum)) ∧
          ∀ result, r.ofOutput o = .ok result → r.Collects o result) := by
  intro run served
  obtain ⟨t, resolved, -, source⟩ := MethodScope.compile_resolvedFrom (mapError_eq_ok.1 h)
  obtain ⟨outcome, count, marshals, answers⟩ :=
    CompiledMethod.answers_execute (source.kind.trans select) source.serves rows i args
  obtain ⟨queried, silent⟩ := answers.run respond state served
  refine ⟨silent, fun made => ?_⟩
  obtain ⟨same, moved⟩ := queried made
  have own : m.Marshals rows d.signature.returns run.outcome (run.events.count .next) := by
    rw [show run.outcome = outcome from same, show run.events.count .next = count from moved]
    exact marshals
  refine ⟨own, fun o ok => ?_⟩
  obtain ⟨takes, -⟩ := MethodDeclaration.output_has_declared_shape h declared i args respond state ok
  exact ⟨HostReturn.error?_ofOutput takes, fun result =>
    HostReturn.collects_of_ofOutput takes (own.ofRows ok)⟩

namespace Sample

/-- A database whose cursor keeps its place among some rows. -/
def cursorOver (rows : List RowContent) : Responder Nat := fun event place =>
  match event with
  | .query => (.ok rows.length, place)
  | .next => (.ok (), place + 1)
  | .get column type => (.ok ((rows[place - 1]?.map fun row => row column type).getD .null), place)
  | event => (.ok (blank event), place)

theorem cursorOver_serves (rows : List RowContent) {α : Type} (d : Dialogue α) :
    ServesRows rows 0 (d.run (cursorOver rows) 0).steps := by
  refine servesRows_run id (fun event place => ?_) d 0
  cases event
  case query => exact ⟨⟨_, rfl, rfl⟩, rfl⟩
  case next => exact ⟨⟨_, rfl, trivial⟩, rfl⟩
  case get column type =>
    refine ⟨⟨_, rfl, fun row _ stands => ?_⟩, rfl⟩
    rw [show rows[place - 1]? = some row from stands]
    rfl
  all_goals exact ⟨⟨_, rfl, trivial⟩, rfl⟩

/-- The owners of accounts by the numbers of the accounts. -/
def ownersById : MethodDeclaration :=
  { name := "owners_by_id"
    kind := .select
    template := "SELECT \x7b%%,%*\x7d id, \x7b%%\x7d owner FROM accounts"
    signature :=
      { arguments := [], returns := .map ⟨.scalar .long, false⟩ ⟨.scalar .string, true⟩ } }

/-- Three rows with two numbers among them. -/
def accountRows : List RowContent :=
  [[.long 7, .string "Ada"], [.long 8, .null], [.long 7, .string "Bea"]].map fun row column _ =>
    (row[column - 1]?).getD .null

/-- The owners in a map, in the order of their keys. -/
def ownersOf : Except ConversionFailure Returned → List (Option String)
  | .ok (.map entries) => entries.map fun entry =>
    match entry.2 with
    | .value (.string owner) => some owner
    | _ => none
  | _ => []

/-- Of the number that two rows have the last owner is kept. -/
theorem ownersById_marshalled :
    let i : CallContext := ⟨⟨fun _ => true, none⟩, {}, none⟩
    let r : HostReturn := .map ⟨.scalar .long, false⟩ ⟨.scalar .string, true⟩
    ∃ m o result, ownersById.compile catalog ⟨[]⟩ "Shop" = .ok m ∧
      let run := (m.execute i []).run (cursorOver accountRows) 0
      ServesRows accountRows 0 run.steps ∧ run.outcome = .ok o ∧
      m.Marshals accountRows ownersById.signature.returns run.outcome 4 ∧
      r.ofOutput o = .ok result ∧ r.Collects o result ∧
      ownersOf (r.ofOutput o) = [some "Bea", none] := by
  intro i r
  have checked : (ownersById.compile catalog ⟨[]⟩ "Shop").toOption.any (fun m =>
      let run := (m.execute i []).run (cursorOver accountRows) 0
      run.outcome.toOption.any (fun o => decide ((error? (r.ofOutput o)).isNone ∧
        .query ∈ run.events ∧ run.events.count .next = 4 ∧
        ownersOf (r.ofOutput o) = [some "Bea", none]))) = true := by
    decide +kernel
  obtain ⟨m, h, checks⟩ := exists_of_any checked
  obtain ⟨o, outcome, checks⟩ := exists_of_any checks
  obtain ⟨converts, made, moved, owners⟩ := of_decide_eq_true checks
  obtain ⟨result, converted⟩ := error?_eq_none.1 (Option.isNone_iff_eq_none.1 converts)
  have served := cursorOver_serves accountRows (m.execute i [])
  obtain ⟨-, queried⟩ := MethodDeclaration.select_marshals_rows rfl h (r := r) rfl accountRows i []
    (cursorOver accountRows) 0 served
  obtain ⟨marshals, collects⟩ := queried made
  rw [moved] at marshals
  exact ⟨m, o, result, h, served, outcome, marshals, converted, (collects o outcome).2 result converted,
    owners⟩

end Sample

end QueryMethods
