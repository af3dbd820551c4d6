/-
The markers of the statement that a select prepares. They are as many as the values it binds, as
long as no text between markers and none that vanishes changes how the rest of the statement is
read.
-/
import QueryMethods.Proofs.Execution.Bindings
import QueryMethods.Proofs.Paging

namespace QueryMethods

open Dialogue Sql

namespace CompiledMethod

variable {m : CompiledMethod} {s : MethodScope} {segments : List Segment} {args : List Bindable}
  {es : List FilledParameter}

/-! ## The query -/

/-- With its lists written out the query has one marker per value, and code follows it unless the
template leaves a comment open. -/
theorem Selects.written_markers (selects : m.Selects s segments)
    (plain : ∀ p ∈ m.parameters, p.isIterated = true → IsPlainSeparator p.separator.toList)
    (filled : m.encode args none = .ok es) :
    let text := Segment.layout .plain segments (es.map FilledParameter.written)
    countMarkers .code text = FilledParameter.total es ∧
      ((∀ body, .comment body false ∉ segments) → (SqlMode.code.after text).isCode = true) := by
  intro text
  obtain ⟨same, -⟩ := encode_eq_ok filled
  have safe : Segment.PlainGroups (es.map FilledParameter.written) := by
    refine List.forall_mem_map.2 fun e he => ?_
    unfold FilledParameter.written
    split
    · next iterated => exact plain _ (same ▸ List.mem_map_of_mem he) iterated
    · exact WideMarker.plain_separator
  have ahead : Segment.CodeAhead .plain false .code segments (es.map FilledParameter.written) :=
    .start selects.wellFormed
      (Segment.noFalseComment_of_slashFree selects.wellFormed selects.slashFree _)
  have all : (es.map FilledParameter.written).length = (Segment.marks .plain segments).length := by
    rw [Segment.marks_plain_length, ← selects.all, ← same, List.length_map, List.length_map]
  have counted : countMarkers .code text = ((es.map FilledParameter.written).map (·.count)).sum :=
    Segment.countMarkers_layout ahead safe all
  refine ⟨?_, Segment.isCode_after_layout ahead safe⟩
  rw [counted, List.map_map]
  exact congrArg List.sum (List.map_congr_left fun e _ => e.written_count)

end CompiledMethod

/-! ## Whole statements -/

/-- The markers of the page stand before or behind those of the query, as they are bound. -/
theorem CallContext.paged_markers (i : CallContext) (dialect : Dialect) {sql : String}
    (ends : i.bounds? = none ∨ (SqlMode.code.after sql.toList).isCode = true) :
    let page := (i.pageContents dialect.strategy).length
    ∃ front query back, (i.paged dialect.strategy sql).toList = front ++ query ++ back ∧
      SqlMode.code.after front = .code ∧
      countMarkers .code front = (if dialect.strategy.bindBeforeQuery then page else 0) ∧
      countMarkers .code query = markerCount sql ∧
      countMarkers (SqlMode.code.after query) back =
        if dialect.strategy.bindBeforeQuery then 0 else page := by
  unfold CallContext.pageContents CallContext.paged
  cases bounds : i.bounds? with
  | none => exact ⟨[], sql.toList, [], by simp, rfl, by simp, rfl, by simp⟩
  | some page =>
    have code := ends.resolve_left fun none => by rw [none] at bounds; cases bounds
    intro count
    have markers : count = pageMarkers page.skips :=
      (List.length_map _).trans (page.length_bindValues dialect.strategy)
    rw [markers]
    exact dialect.paginate_markers page.skips code

/-- In the statement of a select each marker has the slot of its number. Take an accepted select
whose separators hold neither quotes, slashes, braces, backslashes nor question marks and in which no
placeholder stands behind a slash, arguments that are encoded, and a page of a built-in dialect, or
none; for a page the template must not end in an open comment. The statement has one marker per
value: those of the query, and those of the page on the side on which the bounds are bound. Where
no request fails this statement is prepared, and the slots that are bound are the numbers of its
markers, in order. -/
theorem MethodDeclaration.select_slots_are_markers {d : MethodDeclaration} {catalog : Catalog}
    {adapters : AdapterTable} {interface : String} {m : CompiledMethod} (select : d.kind = .select)
    (h : d.compile catalog adapters interface = .ok m)
    (plain : ∀ p ∈ m.parameters, p.isIterated = true → IsPlainSeparator p.separator.toList)
    (free : Segment.slashFree d.segments = true) {args : List Bindable}
    {es : List FilledParameter} (filled : m.encode args none = .ok es)
    (small : FilledParameter.total es < 2 ^ 63) {i : CallContext} {dialect : Dialect}
    (paging : i.provider.paging = some dialect.strategy ∨ i.bounds? = none)
    (closed : i.bounds? = none ∨ ∀ body, .comment body false ∉ d.segments) :
    let query := FilledParameter.total es
    let page := (i.pageContents dialect.strategy).length
    ∃ ready, m.readySelect i args = .ok ready ∧ markerCount ready.sql = query + page ∧
      (∃ front kept back, ready.sql.toList = front ++ kept ++ back ∧
        countMarkers .code front = (if dialect.strategy.bindBeforeQuery then page else 0) ∧
        countMarkers (SqlMode.code.after front) kept = query ∧
        countMarkers (SqlMode.code.after (front ++ kept)) back =
          if dialect.strategy.bindBeforeQuery then 0 else page) ∧
      ∀ {σ : Type} (respond : Responder σ) (state : σ),
        let run := (m.execute i args).run respond state
        Served run.steps → ∃ work, run.events = .acquire :: (i.provider.connecting ++
            .prepare ready.sql :: (work ++ [.closeStatement, .release])) ∧
          (work.filterMap Event.binding?).map (·.1) = List.range' 1 (markerCount ready.sql) := by
  have compiled := mapError_eq_ok.1 h
  have kind := (MethodScope.compile_kind compiled).trans select
  have selects := MethodScope.compile_selects select free (d.scan_segments select h) compiled
  have fits := CompiledMethod.fits_of_widths selects.widths filled
  intro query page
  obtain ⟨sql, ready, expanded, hr, text, runs⟩ :=
    CompiledMethod.select_binds kind selects.consecutive filled fits small paging
  obtain ⟨count, code⟩ := selects.written_markers plain filled
  rw [selects.expand_eq plain filled small] at expanded
  cases expanded
  rw [← String.toList_ofList (l := Segment.layout .plain d.segments _)] at count code
  obtain ⟨front, kept, back, whole, start, before, inside, behind⟩ :=
    i.paged_markers dialect (closed.imp id code)
  rw [← text] at whole
  rw [markerCount, count] at inside
  have total : markerCount ready.sql = query + page := by
    unfold markerCount
    rw [whole, countMarkers_append, countMarkers_append, SqlMode.after_append, start, before,
      inside, behind]
    split <;> omega
  refine ⟨ready, hr, total, ⟨front, kept, back, whole, before, ?_, ?_⟩, fun respond state => ?_⟩
  · rw [start, inside]
  · rw [SqlMode.after_append, start, behind]
  · intro run served
    obtain ⟨work, log, pairs⟩ := (runs respond state).2 served
    refine ⟨work, log, ?_⟩
    rw [pairs, List.map_fst_zip (List.length_range' ..).le, i.length_bound, total]

theorem Sample.openAmounts_slots_are_markers :
    let adapters : AdapterTable := ⟨[("money", Sample.moneyAdapter)]⟩
    let i : CallContext := ⟨⟨fun _ => true, some Dialect.firebird.strategy⟩, {}, some ⟨20, 10⟩⟩
    let args : List Bindable :=
      [.list [.value (.custom (Sample.money 250 "EUR")), .value .null], .value (.bool true)]
    ∃ m ready work, Sample.openAmounts.compile ⟨[]⟩ adapters "Ledger" = .ok m ∧
      m.readySelect i args = .ok ready ∧ markerCount ready.sql = 7 ∧
      ((m.execute i args).run ScriptedDatabase.respond {}).events =
        .acquire :: .onAcquire :: .prepare ready.sql :: (work ++ [.closeStatement, .release]) ∧
      (work.filterMap Event.binding?).map (·.1) = List.range' 1 7 := by
  intro adapters i args
  have checked : (match Sample.openAmounts.compile ⟨[]⟩ adapters "Ledger" with
      | .ok m =>
        (m.parameters.all fun p => !p.isIterated || decide (IsPlainSeparator p.separator.toList)) &&
          (decide (Served ((m.execute i args).run ScriptedDatabase.respond {}).steps) &&
            match m.encode args none with
            | .ok es => decide (FilledParameter.total es = 5)
            | .error _ => false)
      | .error _ => false) = true := by decide +kernel
  cases h : Sample.openAmounts.compile ⟨[]⟩ adapters "Ledger" with
  | error e => rw [h] at checked; cases checked
  | ok m =>
    rw [h] at checked
    obtain ⟨separators, checked⟩ := Bool.and_eq_true_iff.1 checked
    obtain ⟨served, checked⟩ := Bool.and_eq_true_iff.1 checked
    cases filled : m.encode args none with
    | error e => rw [filled] at checked; cases checked
    | ok es =>
      rw [filled] at checked
      have five := of_decide_eq_true checked
      have plain : ∀ p ∈ m.parameters, p.isIterated = true →
          IsPlainSeparator p.separator.toList := by
        intro p hp iterated
        have separator := List.all_eq_true.1 separators p hp
        rw [iterated] at separator
        exact of_decide_eq_true separator
      have noComment : (Sample.openAmounts.segments.all fun segment =>
          match segment with
          | .comment _ closed => closed
          | _ => true) = true := by decide +kernel
      have closed : ∀ body, .comment body false ∉ Sample.openAmounts.segments := fun body hb =>
        Bool.false_ne_true (List.all_eq_true.1 noComment _ hb)
      have paging : i.provider.paging = some Dialect.firebird.strategy ∨ i.bounds? = none := .inl rfl
      obtain ⟨ready, hr, count, -, runs⟩ := MethodDeclaration.select_slots_are_markers (by decide) h
        plain (by decide +kernel) filled (by rw [five]; decide) paging (.inr closed)
      have two : (i.pageContents Dialect.firebird.strategy).length = 2 := by decide +kernel
      obtain ⟨work, log, slots⟩ := runs ScriptedDatabase.respond {} (of_decide_eq_true served)
      rw [five, two] at count
      rw [count] at slots
      exact ⟨m, ready, work, rfl, hr, count, log, slots⟩

/-- The amounts of some accounts. What joins the markers of the accounts holds a marker of its
own. -/
def Sample.accountAmounts : MethodDeclaration :=
  { name := "account_amounts"
    kind := .select
    template := "SELECT \x7b%%\x7d FROM ledger WHERE account IN (\x7b#?#%1\x7d)"
    signature :=
      { arguments := [⟨none, .array, ⟨.scalar .long, false⟩⟩]
        returns := .many ⟨.scalar .long, false⟩ } }

/-- With such a separator there are more markers than slots. -/
theorem Sample.accountAmounts_more_markers :
    let i : CallContext := ⟨⟨fun _ => true, none⟩, {}, none⟩
    let args : List Bindable := [.list [.value (.long 1), .value (.long 2)]]
    ∃ m ready, Sample.accountAmounts.compile ⟨[]⟩ ⟨[]⟩ "Ledger" = .ok m ∧
      m.readySelect i args = .ok ready ∧
      ready.sql = "SELECT  FROM ledger WHERE account IN (???)" ∧ markerCount ready.sql = 3 ∧
      ((m.execute i args).run ScriptedDatabase.respond {}).events.filterMap Event.binding? =
        [(1, .value (.long 1)), (2, .value (.long 2))] := by
  intro i args
  have checked : (match Sample.accountAmounts.compile ⟨[]⟩ ⟨[]⟩ "Ledger" with
      | .ok m =>
        match m.readySelect i args with
        | .ok ready => decide (ready.sql = "SELECT  FROM ledger WHERE account IN (???)" ∧
            markerCount ready.sql = 3 ∧
            ((m.execute i args).run ScriptedDatabase.respond {}).events.filterMap Event.binding? =
              [(1, .value (.long 1)), (2, .value (.long 2))])
        | .error _ => false
      | .error _ => false) = true := by decide +kernel
  cases h : Sample.accountAmounts.compile ⟨[]⟩ ⟨[]⟩ "Ledger" with
  | error e => rw [h] at checked; cases checked
  | ok m =>
    rw [h] at checked
    dsimp only at checked
    cases hr : m.readySelect i args with
    | error e => rw [hr] at checked; cases checked
    | ok ready =>
      rw [hr] at checked
      exact ⟨m, ready, rfl, hr, of_decide_eq_true checked⟩

end QueryMethods
