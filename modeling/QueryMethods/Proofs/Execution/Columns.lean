/-
Columns in the runs of selects. The columns of each row are fetched one after the other: those of
the key of its entry, then those of all results that are no keys, each with the type code of its
slot. What is fetched becomes the key or the value of the row: an argument of its constructor, a
field that is written and keeps what is written, or the value as a whole. Keys behind the first are
not fetched.
-/
import QueryMethods.Proofs.Database.Reads
import QueryMethods.Proofs.Execution.Assembly
import QueryMethods.Proofs.Execution.Constructors
import QueryMethods.Proofs.Execution.ReadBack
import QueryMethods.Proofs.Execution.Slots
import QueryMethods.Proofs.Method.Columns

namespace QueryMethods

open Dialogue

/-! ## Requests for columns -/

/-- The column that is fetched. -/
def Event.fetches? : Event → Option Nat
  | get column _ => some column
  | _ => none

/-- The requests for the columns of a mapping, each with the type code of its slot. -/
def SlotMapping.requests (o : SlotMapping) : List Event :=
  (o.slots.zip o.conversion.slotTypes).map fun x => .get x.1 x.2

namespace CompiledMethod

/-- The requests for the columns of results. -/
def requestsFor (rs : List ResultReading) : List Event := rs.flatMap (·.mapping.requests)

end CompiledMethod

theorem SlotMapping.forSlots_requests {o : SlotMapping}
    (length : o.slots.length = o.conversion.width) :
    ForSlots Event.fetches? o.slots o.requests := by
  have slots := List.map_fst_zip (length.trans (Conversion.width_eq _)).le
  unfold ForSlots requests
  rw [List.map_map]
  nth_rewrite 2 [← slots]
  rw [List.map_map]
  rfl

theorem CompiledMethod.forSlots_requestsFor : ∀ {rs : List ResultReading},
    (∀ r ∈ rs, r.mapping.slots.length = r.mapping.conversion.width) →
      ForSlots Event.fetches? (rs.flatMap (·.mapping.slots)) (requestsFor rs)
  | [], _ => forSlots_nil
  | r :: rest, lengths => by
    obtain ⟨first, others⟩ := List.forall_mem_cons.1 lengths
    exact (SlotMapping.forSlots_requests first).append (forSlots_requestsFor others)

/-! ## Reading -/

theorem SlotMapping.reads_columns (o : SlotMapping) :
    (o.read CompiledMethod.column).Reads o.requests := by
  have one (x : Nat × SlotType) : (CompiledMethod.column x.1 x.2).Reads [.get x.1 x.2] :=
    reads_request rfl
  have all := reads_mapM one (o.slots.zip o.conversion.slotTypes)
  rw [← List.map_eq_flatMap] at all
  refine all.then_convert fun columns => ?_
  cases o.decode columns with
  | ok v => exact reads_pure
  | error e => exact reads_fail _

theorem ResultReading.reads_parts : ∀ rs : List ResultReading,
    (readParts CompiledMethod.column rs).Reads (CompiledMethod.requestsFor (rs.filter isPart))
  | [] => reads_pure
  | r :: rest => by
    have ih := reads_parts rest
    rw [readParts_cons]
    by_cases part : r.isPart = true
    · rw [if_pos part, List.filter_cons_of_pos part]
      exact (SlotMapping.reads_columns _).bind fun v => ih.then_convert fun parts => reads_pure
    · rw [if_neg part, List.filter_cons_of_neg part]
      exact ih

namespace CompiledMethod

variable {m : CompiledMethod} {i : CallContext} {args : List Bindable}

/-- In a row that becomes a bean all results but keys are parts of it. -/
theorem RowShape.parts (shape : m.RowShape) {c : BeanClass} {origin : InstanceOrigin}
    (plan : m.rowPlan = .bean c origin) : m.results.filter ResultReading.isPart = m.values := by
  have covers := shape.plan
  rw [plan] at covers
  refine List.filter_congr fun r hr => ?_
  have some : r.target ≠ .whole := covers r hr
  unfold ResultReading.isPart
  cases target : r.target with
  | field path => rfl
  | constructorSlot n => rfl
  | whole => exact absurd target some
  | mapKey => rfl

theorem RowShape.reads_readResult (shape : m.RowShape) :
    (m.readResult column).Reads (requestsFor m.values) := by
  have covers := shape.plan
  unfold readResult
  cases plan : m.rowPlan with
  | none =>
    rw [plan] at covers
    cases covers
  | atomic index =>
    rw [plan] at covers
    obtain ⟨r, found, alone⟩ := covers
    have requests : requestsFor m.values = r.mapping.requests := by
      unfold requestsFor values
      rw [alone, List.flatMap_singleton]
    dsimp only
    rw [found, requests]
    exact (SlotMapping.reads_columns _).then_convert fun v => reads_pure
  | bean c origin =>
    rw [← shape.parts plan]
    refine (ResultReading.reads_parts _).then_convert fun parts => ?_
    split
    · exact reads_pure
    · exact reads_fail _

theorem RowShape.reads_readMapKey (shape : m.RowShape) :
    (m.readMapKey column).Reads (requestsFor (m.keys.take 1)) := by
  unfold readMapKey
  rw [shape.key]
  cases m.keys with
  | nil => exact reads_fail _
  | cons r others =>
    have first : requestsFor ((r :: others).take 1) = r.mapping.requests := List.flatMap_singleton _ _
    rw [first]
    exact (SlotMapping.reads_columns _).then_convert fun v => reads_pure

theorem RowShape.reads_readEntry (shape : m.RowShape) :
    m.readEntry.Reads (requestsFor m.fetched) := by
  have fetched : requestsFor m.fetched = requestsFor (m.keys.take 1) ++ requestsFor m.values :=
    List.flatMap_append
  rw [fetched]
  exact shape.reads_readMapKey.bind fun key => shape.reads_readResult.then_convert fun value => reads_pure

/-! ## Rows -/

/-- So many rows: each is moved to and its columns are fetched, then no more are found. -/
def rowRequests (m : CompiledMethod) (rows : Nat) : List Event :=
  (List.replicate rows (.next :: requestsFor m.fetched)).flatten ++ [.next]

theorem reads_next : (Dialogue.request .next).Reads [.next] := reads_request rfl

theorem reads_readRows {α : Type} {row : Dialogue α} (h : row.Reads (requestsFor m.fetched)) :
    ∀ rows, (readRows row rows).Reads (m.rowRequests rows)
  | 0 => reads_next.then_convert fun _ => reads_pure
  | rows + 1 => by
    have all : m.rowRequests (rows + 1) = [.next] ++ (requestsFor m.fetched ++ m.rowRequests rows) := by
      unfold rowRequests
      rw [List.replicate_succ, List.flatten_cons, List.append_assoc]
      rfl
    rw [all]
    exact reads_next.bind fun _ => h.bind fun first =>
      (reads_readRows h rows).then_convert fun rest => reads_pure

/-- Of a row that should be the only one it is found whether there is another. -/
theorem readsAny_readSingle (h : (m.readResult column).Reads (requestsFor m.fetched))
    (nullable : Bool) (rows : Nat) : (m.readSingle nullable rows).ReadsAny m.rowRequests := by
  unfold readSingle
  split
  · refine Reads.any 0 (reads_next.then_convert fun _ => ?_)
    split
    · exact reads_pure
    · exact reads_fail _
  · have one : m.rowRequests 1 = [.next] ++ (requestsFor m.fetched ++ [.next]) := by
      unfold rowRequests
      simp
    refine Reads.any 1 ?_
    rw [one]
    refine reads_next.bind fun _ => h.bind fun d => reads_next.then_convert fun _ => ?_
    split
    · exact reads_fail _
    · exact reads_pure

/-- Without keys there is nothing to read of a row but its value. -/
theorem RowShape.reads_value (shape : m.RowShape) (noMap : m.returns ≠ .map) :
    (m.readResult column).Reads (requestsFor m.fetched) := by
  have none : m.keys = [] := by
    by_contra some
    exact noMap (shape.keyed.2 some)
  have fetched : m.fetched = m.values := by
    unfold fetched
    rw [none]
    rfl
  rw [fetched]
  exact shape.reads_readResult

theorem RowShape.readsAny_readRowsAs (shape : m.RowShape) :
    (m.readRowsAs i).ReadsAny m.rowRequests := by
  have query {size : Nat} {body : Nat → Dialogue Output}
      (h : ∀ rows, (body rows).ReadsAny m.rowRequests) :
      (do i.provider.fetchSize size; onRows body : Dialogue Output).ReadsAny m.rowRequests :=
    ReadsAny.quiet_bind (Sequential.within (i.provider.sequential_fetchSize (fun _ => rfl) size))
      fun _ => ReadsAny.bracket rfl rfl h
  unfold readRowsAs
  cases returns : m.returns with
  | one nullable =>
    have value := shape.reads_value (by rw [returns]; exact nofun)
    exact query (readsAny_readSingle value nullable)
  | map =>
    exact query fun rows => Reads.any rows
      ((reads_readRows shape.reads_readEntry rows).then_convert fun _ => reads_pure)
  | unit | count | counts | many =>
    have value := shape.reads_value (by rw [returns]; exact nofun)
    exact query fun rows => Reads.any rows
      ((reads_readRows value rows).then_convert fun _ => reads_pure)

/-- Whatever the database answers, a select moves to row after row and fetches the columns of each,
until something fails. -/
theorem RowShape.readsAny_execute (shape : m.RowShape) (select : m.kind = .select) (i : CallContext)
    (args : List Bindable) : (m.execute i args).ReadsAny m.rowRequests := by
  rw [execute_select select]
  unfold CompiledMethod.select
  cases m.readySelect i args with
  | error e => exact Reads.any 0 (reads_fail e)
  | ok ready =>
    have binds : Sequential (fun event => readsRow event = false) ready.bind :=
      ready.sequential_bind (fun _ _ => rfl) fun _ _ => rfl
    have body : (do ready.bind; m.readRowsAs i : Dialogue Output).ReadsAny m.rowRequests :=
      ReadsAny.quiet_bind binds.within fun _ => shape.readsAny_readRowsAs
    exact ReadsAny.onConnection (ReadsAny.bracket rfl rfl fun _ => body)

end CompiledMethod

/-! ## What becomes of columns -/

namespace BeanClass

/-- A part of a row goes into the bean: it is an argument of the constructor, or it is written to
its field. -/
inductive Takes (c : BeanClass) (origin : InstanceOrigin) (parts : List (Destination × Value))
    (b : Bean) : Destination × Value → Prop
  | argument {index arity n : Nat} {v : Value} (made : origin = .constructor index arity)
      (low : 1 ≤ n) (value : (Destination.arguments arity parts)[n - 1]? = some v) :
      Takes c origin parts b (.constructorSlot n, v)
  | field {path : FieldPath} {v : Value} {before after : List (Destination × Value)}
      {start b₁ b₂ : Bean} (split : parts = before ++ (.field path, v) :: after)
      (made : c.construct origin parts = .ok start)
      (ahead : Destination.writeFields start before = .ok b₁)
      (written : path.write b₁ (.value v) = .ok b₂)
      (behind : Destination.writeFields b₂ after = .ok b) : Takes c origin parts b (.field path, v)

end BeanClass

theorem Destination.writeFields_append : ∀ (b : Bean) (before after : List (Destination × Value)),
    writeFields b (before ++ after) = writeFields b before >>= fun b' => writeFields b' after
  | _, [], _ => rfl
  | b, (.field path, v) :: rest, after => by
    show (path.write b (.value v) >>= fun b => writeFields b (rest ++ after)) =
      (path.write b (.value v) >>= fun b => writeFields b rest) >>= fun b => writeFields b after
    cases path.write b (.value v) with
    | error e => rfl
    | ok b' => exact writeFields_append b' rest after
  | b, (.whole, v) :: rest, after | b, (.constructorSlot _, v) :: rest, after
  | b, (.mapKey, v) :: rest, after => writeFields_append b rest after

/-- All parts go into the bean that is made of them, provided that constructor slots belong to the
constructor. -/
theorem BeanClass.takes_of_assemble {c : BeanClass} {origin : InstanceOrigin}
    {parts : List (Destination × Value)} {b : Bean} (h : c.assemble origin parts = .ok b)
    (slots : ∀ n v, (.constructorSlot n, v) ∈ parts → ∃ index arity,
      origin = .constructor index arity ∧ 1 ≤ n ∧ n ≤ arity ∧ Destination.slotValue parts n = v)
    (only : ∀ part ∈ parts, part.1 ≠ .whole ∧ part.1 ≠ .mapKey) :
    ∀ part ∈ parts, c.Takes origin parts b part := by
  obtain ⟨start, made, filled⟩ := bind_eq_ok.1 h
  rintro ⟨target, v⟩ mem
  obtain ⟨some, value⟩ := only _ mem
  cases target with
  | whole => exact absurd rfl some
  | mapKey => exact absurd rfl value
  | constructorSlot n =>
    obtain ⟨index, arity, built, low, high, rfl⟩ := slots n v mem
    exact .argument built low (Destination.arguments_getElem? low high)
  | field path =>
    obtain ⟨before, after, split⟩ := List.append_of_mem mem
    rw [split, Destination.writeFields_append] at filled
    obtain ⟨b₁, ahead, filled⟩ := bind_eq_ok.1 filled
    obtain ⟨b₂, written, behind⟩ := bind_eq_ok.1 (show (path.write b₁ (.value v) >>= fun b =>
      Destination.writeFields b after) = .ok b from filled)
    exact .field split made ahead written behind

/-- Fields that are written keep what is written to them, and nothing apart from them is changed. -/
theorem Destination.writeFields_holds {catalog : Catalog} {c : BeanClass} :
    ∀ {parts : List (Destination × Value)} {start b : Bean}, start.IsOf catalog c →
      (∀ path v, (.field path, v) ∈ parts → catalog.Writes c path) →
      (parts.filterMap (·.1.fieldNames?)).Nodup → writeFields start parts = .ok b →
        (∀ path v, (.field path, v) ∈ parts → ∃ x, catalog.Fills c path v x ∧
          b.at? (path.map (·.name)) = some x) ∧
        ∀ other, (∀ path v, (.field path, v) ∈ parts → Apart (path.map (·.name)) other) →
          b.at? other = start.at? other
  | [], _, _, _, _, _, h => by
    cases h
    exact ⟨nofun, fun _ _ => rfl⟩
  | (.field path, v) :: rest, start, b, typed, writes, distinct, h => by
    obtain ⟨b', written, h⟩ := bind_eq_ok.1 (show (path.write start (.value v) >>= fun b =>
      writeFields b rest) = .ok b from h)
    have written : start.writePath (.value v) path = .ok b' := written
    cases writes path v List.mem_cons_self with
    | never _ _ fails => cases (fails start (.value v) typed).symm.trans written
    | @leads names t leads =>
      obtain rfl := leads.step_names
      cases converted : t.ofDatum (.value v) with
      | error e => cases (leads.write_error converted typed).symm.trans written
      | ok x =>
        have own : catalog.Fills c path v x := ⟨t, leads, converted⟩
        obtain ⟨b'', written', typed', here, elsewhere⟩ :=
          leads.write converted (HostType.hasType_of_value catalog converted) typed
        cases written.symm.trans written'
        obtain ⟨fresh, distinct⟩ := List.nodup_cons.1 distinct
        obtain ⟨filled, unchanged⟩ := writeFields_holds typed'
          (fun path v mem => writes path v (List.mem_cons_of_mem _ mem)) distinct h
        refine ⟨fun path' v' mem => ?_, fun other away => ?_⟩
        · rcases List.mem_cons.1 mem with same | mem
          · -- what is written later is beside this field
            cases same
            refine ⟨x, own, (unchanged _ fun path' v' mem => ?_).trans here⟩
            obtain ⟨x', behind, -⟩ := filled path' v' mem
            refine behind.apart own fun same => fresh ?_
            exact List.mem_filterMap.2 ⟨_, mem, congrArg some same⟩
          · exact filled path' v' mem
        · rw [unchanged other fun path v mem => away path v (List.mem_cons_of_mem _ mem),
            elsewhere other (away path v List.mem_cons_self)]
  | (.whole, v) :: rest, start, b, typed, writes, distinct, h
  | (.constructorSlot _, v) :: rest, start, b, typed, writes, distinct, h
  | (.mapKey, v) :: rest, start, b, typed, writes, distinct, h => by
    obtain ⟨filled, unchanged⟩ := writeFields_holds typed
      (fun path v mem => writes path v (List.mem_cons_of_mem _ mem)) distinct
      (show writeFields start rest = .ok b from h)
    refine ⟨fun path' v' mem => ?_, fun other away => ?_⟩
    · rcases List.mem_cons.1 mem with same | mem
      · cases same
      · exact filled path' v' mem
    · exact unchanged other fun path v mem => away path v (List.mem_cons_of_mem _ mem)

/-- What is read for a row that holds these results: the only one, or a bean that takes them all. -/
inductive RowPlan.Makes (row : RowContent) (results : List ResultReading) : RowPlan → Datum → Prop
  | atomic {index : Nat} {r : ResultReading} {v : Value} (only : results = [r])
      (held : r.mapping.valueIn row = .ok v) : Makes row results (.atomic index) (.value v)
  | bean {c : BeanClass} {origin : InstanceOrigin} {parts : List (Destination × Value)} {b : Bean}
      (held : List.Forall₂ (ResultReading.HeldIn row) results parts)
      (assembled : c.assemble origin parts = .ok b)
      (takes : ∀ part ∈ parts, c.Takes origin parts b part) :
      Makes row results (.bean c origin) (.bean b)

section

variable {row : RowContent} {column : ColumnReader}

/-- What is fetched, if it is, is what the row holds. -/
theorem ensures_column (slot : Nat) (type : SlotType) :
    (CompiledMethod.column slot type).Ensures (servesRow row) fun v => v = row slot type :=
  ensures_request fun _ held => held

theorem SlotMapping.ensures_read (o : SlotMapping) :
    (o.read CompiledMethod.column).Ensures (servesRow row) fun v => o.valueIn row = .ok v := by
  unfold SlotMapping.read SlotMapping.valueIn
  refine (ensures_mapM (fun x : Nat × SlotType => ensures_column x.1 x.2) _).bind fun columns same => ?_
  rw [← same]
  cases o.decode columns with
  | ok v => exact ensures_pure rfl
  | error e => exact ensures_fail _

theorem ResultReading.ensures_parts : ∀ rs : List ResultReading,
    (readParts CompiledMethod.column rs).Ensures (servesRow row) fun parts =>
      List.Forall₂ (HeldIn row) (rs.filter isPart) parts
  | [] => ensures_pure .nil
  | r :: rest => by
    have ih := ensures_parts rest
    rw [readParts_cons]
    by_cases part : r.isPart = true
    · rw [if_pos part, List.filter_cons_of_pos part]
      refine (SlotMapping.ensures_read _).bind fun v held => ih.bind fun parts each => ?_
      exact ensures_pure (.cons ⟨rfl, held⟩ each)
    · rw [if_neg part, List.filter_cons_of_neg part]
      exact ih

namespace CompiledMethod

variable {m : CompiledMethod}

/-- The value of a row is made of all its results but keys. -/
theorem RowShape.ensures_readResult (shape : m.RowShape) :
    (m.readResult CompiledMethod.column).Ensures (servesRow row) fun value =>
      m.rowPlan.Makes row m.values value := by
  have covers := shape.plan
  unfold readResult
  cases plan : m.rowPlan with
  | none =>
    rw [plan] at covers
    cases covers
  | atomic index =>
    rw [plan] at covers
    obtain ⟨r, found, alone⟩ := covers
    dsimp only
    rw [found]
    exact (SlotMapping.ensures_read _).bind fun v held => ensures_pure (.atomic alone held)
  | bean c origin =>
    refine (ResultReading.ensures_parts _).bind fun parts held => ?_
    rw [shape.parts plan] at held
    cases assembled : c.assemble origin parts with
    | error e => exact ensures_fail _
    | ok b =>
      refine ensures_pure (.bean held assembled (BeanClass.takes_of_assemble assembled ?_ ?_))
      · intro n v mem
        obtain ⟨r, hr, target, value⟩ := exists_of_forall₂ held mem
        have inside := (List.mem_filter.1 hr).1
        obtain ⟨c', index, arity, plan', low, high⟩ := shape.numbered r inside n target.symm
        cases plan.symm.trans plan'
        -- no two columns are for one slot, so the slot has the value of this one
        have nodup : (m.values.filterMap (·.target.number?)).Nodup :=
          shape.numbers.sublist (List.filter_sublist.filterMap _)
        have own := ResultReading.slotValue_held nodup held hr target.symm
        exact ⟨index, arity, rfl, low, high, Except.ok.inj (own.symm.trans value)⟩
      · intro part mem
        obtain ⟨r, hr, target, -⟩ := exists_of_forall₂ held mem
        have inside := List.mem_filter.1 hr
        rw [plan] at covers
        exact target ▸ ⟨covers r inside.1, of_decide_eq_true inside.2⟩

/-- The key of an entry is the first one that its row holds. -/
theorem RowShape.ensures_readMapKey (shape : m.RowShape) :
    (m.readMapKey CompiledMethod.column).Ensures (servesRow row) fun key =>
      ∃ r v, m.keys.head? = some r ∧ r.mapping.valueIn row = .ok v ∧ key = .value v := by
  unfold readMapKey
  rw [shape.key]
  cases m.keys with
  | nil => exact ensures_fail _
  | cons r others =>
    exact (SlotMapping.ensures_read _).bind fun v held => ensures_pure ⟨r, v, rfl, held, rfl⟩

theorem RowShape.ensures_readEntry (shape : m.RowShape) :
    m.readEntry.Ensures (servesRow row) fun entry =>
      (∃ r v, m.keys.head? = some r ∧ r.mapping.valueIn row = .ok v ∧ entry.1 = .value v) ∧
        m.rowPlan.Makes row m.values entry.2 :=
  shape.ensures_readMapKey.bind fun _ hk => shape.ensures_readResult.bind fun _ hv =>
    ensures_pure ⟨hk, hv⟩

/-- What is written to the fields of a row is found there. -/
theorem RowShape.fields_held (shape : m.RowShape) {s : MethodScope} {t : Template}
    {resolved : MethodScope.ResolvedResults} (source : m.ResolvedFrom s t resolved) {c : BeanClass}
    {origin : InstanceOrigin} (plan : m.rowPlan = .bean c origin) (sound : c.Sound s.catalog)
    {parts : List (Destination × Value)} {b : Bean}
    (held : List.Forall₂ (ResultReading.HeldIn row) m.values parts)
    (assembled : c.assemble origin parts = .ok b) :
    ∀ path v, (.field path, v) ∈ parts → ∃ x, s.catalog.Fills c path v x ∧
      b.at? (path.map (·.name)) = some x := by
  obtain ⟨start, made, written⟩ := bind_eq_ok.1 assembled
  have writes (path : FieldPath) (v : Value) (mem : (.field path, v) ∈ parts) :
      s.catalog.Writes c path := by
    obtain ⟨r, hr, target, -⟩ := exists_of_forall₂ held mem
    exact source.writes plan (List.mem_filter.1 hr).1 target.symm
  have same : parts.filterMap (·.1.fieldNames?) = (m.values.filterMap (·.target.fieldNames?)).map id :=
    filterMap_of_forall₂ (held.imp fun r part each => by rw [each.1, Option.map_id, id])
  have distinct : (parts.filterMap (·.1.fieldNames?)).Nodup := by
    rw [same, List.map_id]
    exact shape.fields.sublist (List.filter_sublist.filterMap _)
  exact (Destination.writeFields_holds (sound.construct made) writes distinct written).1

end CompiledMethod

end

/-! ## Accepted selects -/

/-- No result of a select is ignored, except keys behind the first. The results of an accepted
select have the columns from 1 on, in the order of the placeholders, each as many in a row as its
codec has slots. With one key at most, what is fetched of a row are all of them, each once and with
the type of its slot; whatever the database answers, the rows are fetched so until something fails.
What is read without a failure is put together of all values that the row holds: the key is the
first one, and a value is the row as a whole, an argument of the constructor, or written to its
field, where a bean of a sound class holds it. -/
theorem MethodDeclaration.columns_read {d : MethodDeclaration} {catalog : Catalog}
    {adapters : AdapterTable} {interface : String} {m : CompiledMethod} (select : d.kind = .select)
    (h : d.compile catalog adapters interface = .ok m) :
    (∃ t, Template.read (MethodScope.form d.kind) d.template = .ok t ∧
      List.Forall₂ (fun placeholder r => MethodScope.conversionFor
          ⟨catalog, adapters, d.kind, d.signature⟩ placeholder.tag r.mapping.valueType =
            .ok r.mapping.conversion) t.results m.results) ∧
    (∀ before r after, m.results = before ++ r :: after → r.mapping.slots =
      List.range' (1 + ResultReading.columnCount before) r.mapping.conversion.width) ∧
    ForSlots Event.fetches? (List.range' 1 (ResultReading.columnCount m.results))
      (CompiledMethod.requestsFor m.results) ∧
    (m.keys.length ≤ 1 →
      (CompiledMethod.requestsFor m.fetched).Perm (CompiledMethod.requestsFor m.results)) ∧
    (∀ (i : CallContext) (args : List Bindable) {σ : Type} (respond : Responder σ) (state : σ),
      let run := (m.execute i args).run respond state
      ∃ rows, Along (m.rowRequests rows) run.steps run.outcome) ∧
    ∀ row : RowContent,
      ((m.readResult CompiledMethod.column).Always fun s r => (∀ x ∈ s, x.Answered (servesRow row)) →
        ∀ value, r = .ok value → rowEvents s = CompiledMethod.requestsFor m.values ∧
          m.rowPlan.Makes row m.values value) ∧
      (m.readEntry.Always fun s r => (∀ x ∈ s, x.Answered (servesRow row)) →
        ∀ entry, r = .ok entry → rowEvents s = CompiledMethod.requestsFor m.fetched ∧
          (∃ key v, m.keys.head? = some key ∧ key.mapping.valueIn row = .ok v ∧
            entry.1 = .value v) ∧ m.rowPlan.Makes row m.values entry.2) ∧
      ∀ c origin, m.rowPlan = .bean c origin → c.Sound catalog →
        ∀ parts b, List.Forall₂ (ResultReading.HeldIn row) m.values parts →
          c.assemble origin parts = .ok b → ∀ path v, (.field path, v) ∈ parts →
            ∃ x, catalog.Fills c path v x ∧ b.at? (path.map (·.name)) = some x := by
  let scope : MethodScope := ⟨catalog, adapters, d.kind, d.signature⟩
  have compiled : scope.compile interface d.name d.template = .ok m := mapError_eq_ok.1 h
  obtain ⟨t, resolved, read, source⟩ := MethodScope.compile_resolvedFrom compiled
  have shape := MethodScope.compile_rowShape select compiled
  have split {before after : List ResultReading} {r : ResultReading}
      (h : m.results = before ++ r :: after) : r.mapping.slots =
        List.range' (1 + ResultReading.columnCount before) r.mapping.conversion.width :=
    ResultReading.numberColumns_split (shape.columns.symm.trans h)
  refine ⟨⟨t, read, source.result_conversions⟩, fun _ _ _ h => split h, ?_, fun single => ?_,
    fun i args _ respond state => ?_, fun row => ⟨?_, ?_, ?_⟩⟩
  · have all : m.results.flatMap (·.mapping.slots) =
        List.range' 1 (ResultReading.columnCount m.results) := by
      conv_lhs => rw [shape.columns]
      exact ResultReading.numberColumns_all 1 m.results
    rw [← all]
    refine CompiledMethod.forSlots_requestsFor fun r hr => ?_
    obtain ⟨before, after, h⟩ := List.append_of_mem hr
    rw [split h, List.length_range']
  · exact (CompiledMethod.fetched_perm_results single).flatMap_right _
  · exact (shape.readsAny_execute (source.kind.trans select) i args).run respond state
  · exact shape.reads_readResult.ensures shape.ensures_readResult
  · exact shape.reads_readEntry.ensures shape.ensures_readEntry
  · exact fun c origin plan sound parts b held assembled =>
      shape.fields_held source plan sound held assembled

namespace Sample

/-- Amounts of money by the numbers of their accounts, which come last. -/
def amounts : MethodDeclaration :=
  { name := "amounts"
    kind := .select
    template := "SELECT \x7b%%\x7d, \x7b%%,%*\x7d FROM entries"
    signature :=
      { arguments := [], returns := .map ⟨.scalar .long, false⟩ ⟨.custom "money", false⟩ } }

/-- The two columns of an amount and the one of its account are fetched, that of the key first. -/
theorem amounts_columns_read :
    let i : CallContext := ⟨⟨fun _ => true, none⟩, {}, none⟩
    let answer : Responder Unit := serving [.long 250, .string "EUR", .long 7]
    ∃ m rows, amounts.compile catalog ⟨[("money", moneyAdapter)]⟩ "Shop" = .ok m ∧
      m.results.map (·.mapping.slots) = [[1, 2], [3]] ∧
      (CompiledMethod.requestsFor m.fetched).Perm
        [.get 1 .bigInt, .get 2 .char, .get 3 .bigInt] ∧
      Along (m.rowRequests rows) ((m.execute i []).run answer ()).steps
        ((m.execute i []).run answer ()).outcome ∧
      rowEvents ((m.execute i []).run answer ()).steps =
        [.next, .get 3 .bigInt, .get 1 .bigInt, .get 2 .char, .next] := by
  intro i answer
  have checked : (amounts.compile catalog ⟨[("money", moneyAdapter)]⟩ "Shop").toOption.any (fun m =>
      decide (m.results.map (·.mapping.slots) = [[1, 2], [3]] ∧ m.keys.length ≤ 1 ∧
        CompiledMethod.requestsFor m.results =
          [.get 1 .bigInt, .get 2 .char, .get 3 .bigInt] ∧
        rowEvents ((m.execute i []).run answer ()).steps =
          [.next, .get 3 .bigInt, .get 1 .bigInt, .get 2 .char, .next])) = true := by
    decide +kernel
  obtain ⟨m, h, checks⟩ := exists_of_any checked
  obtain ⟨slots, single, requests, reads⟩ := of_decide_eq_true checks
  obtain ⟨-, -, -, all, runs, -⟩ := MethodDeclaration.columns_read rfl h
  obtain ⟨rows, along⟩ := runs i [] answer ()
  exact ⟨m, rows, h, slots, requests ▸ all single, along, reads⟩

/-- Texts by numbers, of which each row has two. -/
def twiceKeyed : MethodDeclaration :=
  { name := "twice_keyed"
    kind := .select
    template := "SELECT \x7b%%,%*\x7d, \x7b%%,%*\x7d, \x7b%%\x7d FROM t"
    signature := { arguments := [], returns := .map ⟨.scalar .long, false⟩ ⟨.scalar .string, false⟩ } }

/-- Whether the outcome is a map with one entry, a text by a number. -/
def isEntry (key : Int64) (text : String) : Except QueryFailure Output → Bool
  | .ok (.map [(.value k, .value v)]) => decide (k = .long key ∧ v = .string text)
  | _ => false

theorem isEntry_iff {key : Int64} {text : String} {outcome : Except QueryFailure Output} :
    isEntry key text outcome = true ↔
      outcome = .ok (.map [(.value (.long key), .value (.string text))]) := by
  constructor
  · intro h
    match outcome, h with
    | .ok (.map [(.value k, .value v)]), h =>
      obtain ⟨rfl, rfl⟩ := of_decide_eq_true h
      rfl
  · rintro rfl
    exact decide_eq_true ⟨rfl, rfl⟩

/-- A second key is accepted, and its column is never fetched though nothing fails. -/
theorem twiceKeyed_second_ignored :
    let i : CallContext := ⟨⟨fun _ => true, none⟩, {}, none⟩
    let answer : Responder Unit := serving [.long 1, .long 2, .string "a"]
    ∃ m, twiceKeyed.compile catalog ⟨[]⟩ "Shop" = .ok m ∧
      m.results.map (·.mapping.slots) = [[1], [2], [3]] ∧
      ((m.execute i []).run answer ()).outcome =
        .ok (.map [(.value (.long 1), .value (.string "a"))]) ∧
      ((m.execute i []).run answer ()).events.filterMap Event.fetches? = [1, 3] := by
  intro i answer
  have checked : (twiceKeyed.compile catalog ⟨[]⟩ "Shop").toOption.any (fun m =>
      isEntry 1 "a" ((m.execute i []).run answer ()).outcome &&
        decide (m.results.map (·.mapping.slots) = [[1], [2], [3]] ∧
          ((m.execute i []).run answer ()).events.filterMap Event.fetches? = [1, 3])) = true := by
    decide +kernel
  obtain ⟨m, h, checks⟩ := exists_of_any checked
  obtain ⟨entry, checks⟩ := Bool.and_eq_true_iff.1 checks
  obtain ⟨slots, fetched⟩ := of_decide_eq_true checks
  exact ⟨m, h, slots, isEntry_iff.1 entry, fetched⟩

end Sample

end QueryMethods
