/-
What a select binds. Whatever lists there are, and however the page is asked for, the values of the
query and of the page take the slots from 1 on without a gap, each slot once, in the order of the
template and of the page.
-/
import QueryMethods.Proofs.Database.Statement
import QueryMethods.Proofs.Execution.Selects

namespace QueryMethods

open Dialogue

/-! ## Contents of slots -/

/-- What a value is bound as: a null with the type code of its slot. -/
def SlotContent.ofTyped (x : Value × SlotType) : SlotContent :=
  if x.1.isNull then .null x.2 else .value x.1

/-- What the values of a parameter are bound as. -/
def FilledParameter.contents (e : FilledParameter) : List SlotContent :=
  e.bound.map SlotContent.ofTyped

/-- The elements of an argument: those of a list that is bound, else the argument itself. -/
def ParameterBinding.elements (p : ParameterBinding) (source : Bindable) : List Bindable :=
  if p.isIterated then
    match source with
    | .list items => items
    | _ => []
  else [source]

/-- The values of the argument's elements, one element after the other, each with one value for
each of its slots. -/
def FilledParameter.Encodes (e : FilledParameter) (args : List Bindable) : Prop :=
  ∃ source chunks, args[e.parameter.argument]? = some source ∧
    List.Forall₂ (fun item values => e.parameter.encodeElement item = .ok values ∧
      values.length = e.parameter.mapping.conversion.width) (e.parameter.elements source) chunks ∧
    e.values = chunks.flatten

/-- The page that is asked for, unless it is the whole. -/
def CallContext.bounds? (i : CallContext) : Option Page := i.page.filter fun b => !b.isWhole

/-- What the bounds of the page are bound as, in the order of their markers. -/
def CallContext.pageContents (i : CallContext) (s : PagingStrategy) : List SlotContent :=
  match i.bounds? with
  | none => []
  | some bounds => (bounds.bindValues s).map .value

/-- The statement with the page that is asked for. -/
def CallContext.paged (i : CallContext) (s : PagingStrategy) (sql : String) : String :=
  match i.bounds? with
  | none => sql
  | some bounds => s.paginate sql bounds.skips

theorem FilledParameter.contents_length (e : FilledParameter) :
    e.contents.length = e.values.length := by
  unfold contents bound
  rw [List.length_map, length_typed]

theorem FilledParameter.length_contents (es : List FilledParameter) :
    (es.flatMap FilledParameter.contents).length = FilledParameter.total es := by
  unfold total
  rw [List.length_flatMap]
  exact congrArg List.sum (List.map_congr_left fun e _ => e.contents_length)

/-- What a select binds, from the first slot on. -/
def CallContext.bound (i : CallContext) (s : PagingStrategy) (es : List FilledParameter) :
    List SlotContent :=
  if s.bindBeforeQuery then i.pageContents s ++ es.flatMap FilledParameter.contents
  else es.flatMap FilledParameter.contents ++ i.pageContents s

theorem CallContext.length_bound (i : CallContext) (s : PagingStrategy)
    (es : List FilledParameter) :
    (i.bound s es).length = FilledParameter.total es + (i.pageContents s).length := by
  unfold CallContext.bound
  rw [← FilledParameter.length_contents]
  split
  · rw [List.length_append, Nat.add_comm]
  · exact List.length_append

/-! ## Encoding -/

namespace ParameterBinding

theorem encodeElements_eq_ok {p : ParameterBinding} :
    ∀ {items : List Bindable} {values : List Value}, p.encodeElements items = .ok values → ∃ chunks,
      List.Forall₂ (fun item values => p.encodeElement item = .ok values) items chunks ∧
        values = chunks.flatten
  | [], _, h => by
    cases h
    exact ⟨[], .nil, rfl⟩
  | item :: rest, _, h => by
    unfold encodeElements at h
    obtain ⟨first, hf, h⟩ := bind_eq_ok.1 h
    obtain ⟨others, ho, h⟩ := bind_eq_ok.1 h
    cases h
    obtain ⟨chunks, each, rfl⟩ := encodeElements_eq_ok ho
    exact ⟨first :: chunks, .cons hf each, rfl⟩

theorem encode_elements {p : ParameterBinding} {source : Bindable} {values : List Value}
    (h : p.encode source = .ok values) : ∃ chunks,
      List.Forall₂ (fun item values => p.encodeElement item = .ok values)
        (p.elements source) chunks ∧ values = chunks.flatten := by
  unfold encode at h
  unfold elements isIterated
  by_cases single : p.mapping.iteration = .single
  · rw [if_pos single] at h
    rw [single]
    exact ⟨[values], .cons h .nil, by simp⟩
  · rw [if_neg single] at h
    rw [if_pos (decide_eq_true single)]
    split at h
    · exact encodeElements_eq_ok h
    · cases h
      exact ⟨[], .nil, rfl⟩
    · cases h

end ParameterBinding

namespace CompiledMethod

variable {m : CompiledMethod} {args : List Bindable} {es : List FilledParameter}

theorem encode_encodes (filled : m.encode args none = .ok es) : ∀ e ∈ es, e.Encodes args := by
  intro e he
  obtain ⟨p, -, hp⟩ := exists_of_forall₂ (mapM_eq_ok.1 filled) he
  unfold encodeParameter at hp
  dsimp only at hp
  split at hp
  · cases hp
  · next source found =>
    split at hp
    · next values encoded =>
      cases hp
      obtain ⟨chunks, each, flat⟩ := ParameterBinding.encode_elements encoded
      exact ⟨source, chunks, found, each.imp fun _ _ hv =>
        ⟨hv, ParameterBinding.encodeElement_length hv⟩, flat⟩
    · cases hp

end CompiledMethod

/-! ## Requests that bind nothing -/

/-- All that is bound is bound while the statement is used. -/
theorem Provider.bindings_used (p : Provider) (isCall : Bool) (sql : String) (work : List Event) :
    (Event.acquire :: (p.connecting ++
        p.prepareEvent isCall sql :: (work ++ [.closeStatement, .release]))).filterMap
          Event.binding? = work.filterMap Event.binding? := by
  have connecting : p.connecting.filterMap Event.binding? = [] := by
    unfold Provider.connecting
    split <;> rfl
  have prepare : (p.prepareEvent isCall sql).binding? = none := by
    unfold Provider.prepareEvent
    split <;> rfl
  rw [List.filterMap_cons_none rfl, List.filterMap_append, connecting,
    List.filterMap_cons_none prepare, List.filterMap_append]
  exact List.append_nil _

/-! ## Slots in range -/

namespace FilledParameter

/-- Writing out lists never moves a slot out of range. -/
theorem expandFrom_ok : ∀ (es : List FilledParameter) (first slot : Nat) (shift : Int)
    (sql : String), SlotMapping.Consecutive first (es.map (·.parameter.mapping)) → (∀ e ∈ es, e.Fits) →
    (first : Int) + shift = slot → 0 < slot → slot + total es < UInt64.size →
    ∃ text, expandFrom shift sql es = .ok text
  | [], _, _, _, sql, _, _, _, _, _ => ⟨sql, rfl⟩
  | e :: rest, first, slot, shift, sql, consecutive, fits, moved, pos, small => by
    obtain ⟨fit, others⟩ := List.forall_mem_cons.1 fits
    rw [total_cons] at small
    have growth := fit.growth
    have ih := fun sql => expandFrom_ok rest _ (slot + e.values.length) (shift + e.growth) sql
      consecutive.2.2 others (by push_cast; omega) (by omega) (by omega)
    unfold expandFrom
    split
    · -- the shift is what the lists before have grown by
      have start : e.parameter.movedSlot shift = .ok slot :=
        ParameterBinding.movedSlot_eq_ok.2 ⟨consecutive.firstSlot ▸ moved, by omega, by omega⟩
      rw [start]
      exact ih _
    · next single =>
      have still : e.growth = 0 := if_neg single
      rw [still, Int.add_zero] at ih
      exact ih sql

/-! ## Requests -/

section

variable {σ : Type} {respond : Responder σ}

theorem yields_bindAll : ∀ (slot : Nat) (xs : List (Value × SlotType)) (state : σ),
    Yields respond (bindAll slot xs) state fun _ log _ =>
      log = SlotContent.requests slot (xs.map SlotContent.ofTyped)
  | _, [], _ => yields_pure rfl
  | slot, x :: rest, state => by
    have one : Yields respond (bindOne slot x) state fun _ log _ =>
        log = [(SlotContent.ofTyped x).request slot] := by
      unfold bindOne SlotContent.ofTyped
      split <;> exact yields_request fun _ _ => rfl
    unfold bindAll
    refine one.bind fun _ _ behind hl => (yields_bindAll (slot + 1) rest behind).mono ?_
    intro _ log _ hl'
    rw [hl, hl']
    rfl

theorem yields_bindValues : ∀ (slot : Nat) (vs : List Value) (state : σ),
    Yields respond (bindValues slot vs) state fun _ log _ =>
      log = SlotContent.requests slot (vs.map .value)
  | _, [], _ => yields_pure rfl
  | slot, v :: rest, state => by
    have one : Yields respond (request (.bind slot v)) state fun _ log _ => log = [.bind slot v] :=
      yields_request fun _ _ => rfl
    unfold bindValues
    refine one.bind fun _ _ behind hl => (yields_bindValues (slot + 1) rest behind).mono ?_
    intro _ log _ hl'
    rw [hl, hl']
    rfl

end

end FilledParameter

namespace CompiledMethod

variable {m : CompiledMethod} {s : MethodScope} {segments : List Segment} {args : List Bindable}
  {es : List FilledParameter} {i : CallContext} {strategy : PagingStrategy} {σ : Type}
  {respond : Responder σ} {state : σ}

theorem yields_bindPaged (values : List (Value × SlotType)) (page : List Value) (pageFirst : Bool) :
    Yields respond (bindPaged values page pageFirst) state fun _ log _ =>
      log = SlotContent.requests 1
        (if pageFirst then page.map .value ++ values.map SlotContent.ofTyped
          else values.map SlotContent.ofTyped ++ page.map .value) := by
  unfold bindPaged
  split
  · refine (FilledParameter.yields_bindValues 1 page state).bind fun _ _ behind hl => ?_
    refine (FilledParameter.yields_bindAll (page.length + 1) values behind).mono fun _ _ _ hl' => ?_
    rw [hl, hl', SlotContent.requests_append, List.length_map, Nat.add_comm]
  · refine (FilledParameter.yields_bindAll 1 values state).bind fun _ _ behind hl => ?_
    have paged : Yields respond (FilledParameter.bindValues (values.length + 1) page) behind _ :=
      FilledParameter.yields_bindValues (values.length + 1) page behind
    refine paged.mono fun _ _ _ hl' => ?_
    rw [hl, hl', SlotContent.requests_append, List.length_map, Nat.add_comm]

/-- Reading rows binds nothing. -/
theorem readRowsAs_binds_nothing (m : CompiledMethod) (i : CallContext) :
    (m.readRowsAs i).Always fun s _ => (events s).filterMap Event.binding? = [] := by
  obtain ⟨rows, read, reads, eq⟩ := m.readRowsAs_eq i
  have calm {s : List Step} (h : Within (fun event => event.binding? = none) s) :
      (events s).filterMap Event.binding? = [] := List.filterMap_eq_nil_iff.2 h
  have row {event : Event} (h : ReadsRow event) : event.binding? = none := by
    cases event <;> first | rfl | exact absurd h (by simp [ReadsRow, readsRow])
  rw [eq]
  have fetches := (i.provider.sequential_fetchSize (A := fun event => event.binding? = none)
    (fun _ => rfl) rows).within
  refine (fetches.within_bind fun _ => ?_).mono fun s _ hs => calm hs
  have inside (n : Nat) : (read n).Always fun s _ => Within (fun event => event.binding? = none) s :=
    ((reads n).mono fun _ => row).within
  refine (always_bracket inside).mono fun s r hs => ?_
  -- the cursor is not opened, or the rows are read between the two requests for it
  rcases hs with ⟨e, rfl, -⟩ | ⟨reply, used, inner, closed, hin, rfl, -⟩
  · exact within_asked.2 ⟨rfl, within_nil⟩
  · exact within_asked.2 ⟨rfl, within_append.2 ⟨hin, within_asked.2 ⟨rfl, within_nil⟩⟩⟩

/-- A select whose arguments are encoded is ready to run. -/
theorem readySelect_ok (consecutive : SlotMapping.Consecutive 1 (m.parameters.map (·.mapping)))
    (filled : m.encode args none = .ok es) (fits : ∀ e ∈ es, e.Fits)
    (small : FilledParameter.total es < 2 ^ 63)
    (paging : i.provider.paging = some strategy ∨ i.bounds? = none) :
    ∃ sql ready page pageFirst, FilledParameter.expand m.sql es = .ok sql ∧
      m.readySelect i args = .ok ready ∧ ready.sql = i.paged strategy sql ∧
      ready.bind = bindPaged (es.flatMap FilledParameter.bound) page pageFirst ∧
      page.map SlotContent.value = i.pageContents strategy ∧
      (page = [] ∨ pageFirst = strategy.bindBeforeQuery) := by
  have size : UInt64.size = 2 ^ 64 := rfl
  obtain ⟨same, -⟩ := encode_eq_ok filled
  rw [← same, List.map_map] at consecutive
  obtain ⟨sql, expanded⟩ := FilledParameter.expandFrom_ok es 1 1 0 m.sql consecutive fits rfl
    Nat.one_pos (by omega)
  unfold CallContext.pageContents CallContext.paged
  cases bounds : i.bounds? with
  | none =>
    have prepared := readySelect_eq_ok.2 ⟨es, sql, filled, expanded, .whole bounds⟩
    refine ⟨sql, _, [], false, expanded, prepared, rfl, ?_, rfl, .inl rfl⟩
    have short : ([] : List Value).length ≤ 2 := Nat.zero_le 2
    exact bind_eq consecutive fits small short sql false
  | some page =>
    have given : i.provider.paging = some strategy := by
      rcases paging with given | unpaged
      · exact given
      · rw [unpaged] at bounds
        cases bounds
    have prepared := readySelect_eq_ok.2 ⟨es, sql, filled, expanded, .page bounds given⟩
    refine ⟨sql, _, page.bindValues strategy, strategy.bindBeforeQuery, expanded, prepared, rfl, ?_,
      rfl, .inr rfl⟩
    exact bind_eq consecutive fits small (bindValues_length_le page strategy) _ _

/-- What an accepted select prepares and binds, once its arguments are encoded: its statement with
the lists written out and the page asked for, and all values from the first slot on. -/
theorem select_binds (kind : m.kind = .select)
    (consecutive : SlotMapping.Consecutive 1 (m.parameters.map (·.mapping)))
    (filled : m.encode args none = .ok es) (fits : ∀ e ∈ es, e.Fits)
    (small : FilledParameter.total es < 2 ^ 63)
    (paging : i.provider.paging = some strategy ∨ i.bounds? = none) :
    let bound := i.bound strategy es
    ∃ sql ready, FilledParameter.expand m.sql es = .ok sql ∧ m.readySelect i args = .ok ready ∧
      ready.sql = i.paged strategy sql ∧ ∀ {σ : Type} (respond : Responder σ) (state : σ),
        Yields respond ready.bind state (fun _ log _ => log = SlotContent.requests 1 bound) ∧
        Ends respond (m.execute i args) state fun _ log _ => ∃ work,
          log = .acquire :: (i.provider.connecting ++
            .prepare ready.sql :: (work ++ [.closeStatement, .release])) ∧
          work.filterMap Event.binding? = (List.range' 1 bound.length).zip bound := by
  intro bound
  obtain ⟨sql, ready, values, pageFirst, expanded, hr, text, bind, hp, order⟩ :=
    readySelect_ok consecutive filled fits small paging
  have contents : es.flatMap FilledParameter.contents =
      (es.flatMap FilledParameter.bound).map SlotContent.ofTyped := (List.map_flatMap ..).symm
  refine ⟨sql, ready, expanded, hr, text, fun respond state => ?_⟩
  have binds (state) : Yields respond ready.bind state fun _ log _ =>
      log = SlotContent.requests 1 bound := by
    rw [bind]
    refine (yields_bindPaged _ values pageFirst).mono fun _ log _ hl => ?_
    rw [hl, hp, ← contents]
    unfold bound CallContext.bound
    rcases order with rfl | rfl
    · -- without a page there is only one order
      have none : i.pageContents strategy = [] := hp.symm
      rw [none, List.nil_append, List.append_nil, ite_self, ite_self]
    · rfl
  refine ⟨binds state, ?_⟩
  have used : m.execute i args = onConnection i.provider
      (onStatement i.provider false ready.sql (do ready.bind; m.readRowsAs i)) := by
    rw [execute_select kind, select, hr]
  rw [used]
  refine Ends.onPrepared fun _ _ => (binds _).bind fun _ log _ hl => ?_
  refine (m.readRowsAs_binds_nothing i).ends.mono fun _ log' _ hs => ⟨_, rfl, ?_⟩
  obtain ⟨steps, rfl, unbound⟩ := hs
  rw [List.filterMap_append, unbound, hl, SlotContent.bindings_requests, List.append_nil]

end CompiledMethod

/-! ## Whole selects -/

/-- A select binds its slots without a gap. Take an accepted select, arguments that are encoded, and
a page that the provider has a strategy for, or none. The parameters are those of the template, in
its order, and each holds the values of its elements one after the other. Neither writing out the
lists nor binding moves a slot out of range, and where no request fails the slots from 1 on are
bound in order, each once: the values of the query, and those of the page before or behind them as
the strategy says. No more values are bound than a vector can hold. -/
theorem MethodDeclaration.select_binds_in_order {d : MethodDeclaration} {catalog : Catalog}
    {adapters : AdapterTable} {interface : String} {m : CompiledMethod} (select : d.kind = .select)
    (h : d.compile catalog adapters interface = .ok m) {args : List Bindable}
    {es : List FilledParameter} (filled : m.encode args none = .ok es)
    (small : FilledParameter.total es < 2 ^ 63) {i : CallContext} {strategy : PagingStrategy}
    (paging : i.provider.paging = some strategy ∨ i.bounds? = none) :
    List.Forall₂ (fun p e => (⟨catalog, adapters, d.kind, d.signature⟩ : MethodScope).parameter p =
        .ok e.parameter.unplaced) (Segment.parameters d.segments) es ∧
      (∀ e ∈ es, e.Encodes args) ∧
      let query := es.flatMap FilledParameter.contents
      let page := i.pageContents strategy
      query.length = FilledParameter.total es ∧
      ∃ ready, m.readySelect i args = .ok ready ∧ ∀ {σ : Type} (respond : Responder σ) (state : σ),
        (Served (ready.bind.run respond state).steps →
          (ready.bind.run respond state).outcome = .ok ()) ∧
        let run := (m.execute i args).run respond state
        Served run.steps → run.events.filterMap Event.binding? =
          (List.range' 1 (query.length + page.length)).zip
            (if strategy.bindBeforeQuery then page ++ query else query ++ page) := by
  have compiled := mapError_eq_ok.1 h
  have resolved := MethodScope.compile_parameters select (d.scan_segments select h) compiled
  obtain ⟨consecutive, widths⟩ := MethodScope.compile_consecutive select compiled
  obtain ⟨same, -⟩ := CompiledMethod.encode_eq_ok filled
  have fits := CompiledMethod.fits_of_widths widths filled
  rw [← same, List.map_map, List.forall₂_map_right_iff] at resolved
  refine ⟨resolved, CompiledMethod.encode_encodes filled, ?_⟩
  intro query page
  have kind := (MethodScope.compile_kind compiled).trans select
  obtain ⟨-, ready, -, hr, -, runs⟩ :=
    CompiledMethod.select_binds kind consecutive filled fits small paging
  refine ⟨FilledParameter.length_contents es, ready, hr, fun respond state => ?_⟩
  obtain ⟨binds, ends⟩ := runs respond state
  refine ⟨fun served => ?_, fun served => ?_⟩
  · obtain ⟨_, outcome, -⟩ := binds served
    exact outcome
  · obtain ⟨work, log, pairs⟩ := ends served
    have used := i.provider.bindings_used false ready.sql work
    rw [log, FilledParameter.length_contents, ← i.length_bound strategy es]
    exact used.trans pairs

/-- The names of the open entries of some amounts of money, each of which takes two slots. -/
def Sample.openAmounts : MethodDeclaration :=
  { name := "open_amounts"
    kind := .select
    template := "SELECT \x7b%%\x7d FROM ledger WHERE amount IN (\x7b#; #%1\x7d) AND open = \x7b%2\x7d"
    signature :=
      { arguments :=
          [⟨none, .array, ⟨.custom "money", false⟩⟩, ⟨none, .single, ⟨.scalar .bool, true⟩⟩]
        returns := .many ⟨.scalar .string, false⟩ } }

theorem Sample.openAmounts_binds_in_order :
    let adapters : AdapterTable := ⟨[("money", Sample.moneyAdapter)]⟩
    let i : CallContext := ⟨⟨fun _ => true, some Dialect.firebird.strategy⟩, {}, some ⟨20, 10⟩⟩
    let args : List Bindable :=
      [.list [.value (.custom (Sample.money 250 "EUR")), .value .null], .value (.bool true)]
    ∃ m es, Sample.openAmounts.compile ⟨[]⟩ adapters "Ledger" = .ok m ∧
      m.encode args none = .ok es ∧ FilledParameter.total es = 5 ∧
      ((m.execute i args).run ScriptedDatabase.respond {}).events.filterMap Event.binding? =
        (List.range' 1 7).zip ([.value (.long 10), .value (.long 20)] ++
          es.flatMap FilledParameter.contents) := by
  intro adapters i args
  have checked : (match Sample.openAmounts.compile ⟨[]⟩ adapters "Ledger" with
      | .ok m =>
        decide (Served ((m.execute i args).run ScriptedDatabase.respond {}).steps) &&
          match m.encode args none with
          | .ok es => decide (FilledParameter.total es = 5)
          | .error _ => false
      | .error _ => false) = true := by decide +kernel
  cases h : Sample.openAmounts.compile ⟨[]⟩ adapters "Ledger" with
  | error e => rw [h] at checked; cases checked
  | ok m =>
    rw [h] at checked
    obtain ⟨served, checked⟩ := Bool.and_eq_true_iff.1 checked
    cases filled : m.encode args none with
    | error e => rw [filled] at checked; cases checked
    | ok es =>
      rw [filled] at checked
      have five := of_decide_eq_true checked
      have pages : i.pageContents Dialect.firebird.strategy =
          [.value (.long 10), .value (.long 20)] := by decide +kernel
      have paging : i.provider.paging = some Dialect.firebird.strategy ∨ i.bounds? = none := .inl rfl
      obtain ⟨-, -, query, ready, -, runs⟩ := MethodDeclaration.select_binds_in_order (by decide) h
        filled (by rw [five]; decide) paging
      have binds := (runs ScriptedDatabase.respond {}).2 (of_decide_eq_true served)
      rw [query, five, pages] at binds
      exact ⟨m, es, rfl, filled, five, binds⟩

end QueryMethods
