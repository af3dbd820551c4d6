/-
What a select does once its arguments are encoded: every list is written out in the place of its
marker, and all values are bound to consecutive slots. Neither depends on how the values came to
the parameters.
-/
import QueryMethods.Execution.Run
import QueryMethods.Proofs.Execution.Slots
import QueryMethods.Proofs.Method.Selects

namespace QueryMethods

open Dialogue Sql

namespace FilledParameter

/-! ## Values in order -/

/-- Values, each with the type code of a null in its place. -/
def typed (types : List SlotType) : Nat → List Value → List (Value × SlotType)
  | _, [] => []
  | index, v :: rest => (v, nullType types index) :: typed types (index + 1) rest

/-- The values of a parameter with the type codes of its slots. -/
def bound (e : FilledParameter) : List (Value × SlotType) :=
  typed e.parameter.mapping.conversion.slotTypes 0 e.values

/-- Bind one value. -/
def bindOne (slot : Nat) (x : Value × SlotType) : Dialogue Unit :=
  if x.1.isNull then Dialogue.request (.bindNull slot x.2) else Dialogue.request (.bind slot x.1)

/-- Bind values to consecutive slots. -/
def bindAll : Nat → List (Value × SlotType) → Dialogue Unit
  | _, [] => pure ()
  | slot, x :: rest => do
    bindOne slot x
    bindAll (slot + 1) rest

/-- The number of values. -/
def total (es : List FilledParameter) : Nat := (es.map (·.values.length)).sum

/-- The markers of a parameter in the statement that runs. -/
def written (e : FilledParameter) : MarkerGroup :=
  if e.parameter.isIterated then ⟨e.parameter.separator.toList, e.values.length⟩
  else ⟨WideMarker.separator.toList, e.values.length⟩

/-- A list has one marker before it is written out, any other parameter one for each value. -/
def Fits (e : FilledParameter) : Prop :=
  e.parameter.mapping.slots.length = if e.parameter.isIterated then 1 else e.values.length

@[simp] theorem total_cons (e : FilledParameter) (rest : List FilledParameter) :
    total (e :: rest) = e.values.length + total rest := List.sum_cons

@[simp] theorem written_count (e : FilledParameter) : e.written.count = e.values.length := by
  unfold written
  split <;> rfl

theorem length_typed (types : List SlotType) : ∀ (index : Nat) (vs : List Value),
    (typed types index vs).length = vs.length
  | _, [] => rfl
  | index, _ :: rest => congrArg (· + 1) (length_typed types (index + 1) rest)

theorem length_bound (es : List FilledParameter) : (es.flatMap bound).length = total es := by
  unfold total
  rw [List.length_flatMap]
  exact congrArg List.sum (List.map_congr_left fun e _ => length_typed _ 0 e.values)

/-- By how much a parameter moves the slots behind it. -/
theorem Fits.growth {e : FilledParameter} (h : e.Fits) :
    (e.parameter.mapping.slots.length : Int) + e.growth = e.values.length := by
  unfold Fits at h
  unfold FilledParameter.growth
  split at h
  · next it => rw [if_pos it, h]; omega
  · next it => rw [if_neg it, h]; omega

/-! ## Binding -/

theorem bindAll_append (b : List (Value × SlotType)) : ∀ (slot : Nat) (a : List (Value × SlotType)),
    bindAll slot (a ++ b) = do bindAll slot a; bindAll (slot + a.length) b
  | slot, [] => rfl
  | slot, x :: rest => by
    have ih := bindAll_append b (slot + 1) rest
    have behind : slot + (rest.length + 1) = slot + 1 + rest.length := by omega
    rw [List.cons_append, List.length_cons, behind, bindAll, bindAll, ih, bind_assoc]

theorem bindSlots_eq (types : List SlotType) : ∀ (slot index : Nat) (vs : List Value),
    slot + vs.length ≤ UInt64.size → bindSlots types slot index vs = bindAll slot (typed types index vs)
  | _, _, [], _ => rfl
  | slot, index, v :: rest, h => by
    have others : bindSlots types (nextSlot slot) (index + 1) rest =
        bindAll (slot + 1) (typed types (index + 1) rest) := by
      cases rest with
      | nil => rfl
      | cons w ws =>
        rw [List.length_cons, List.length_cons] at h
        -- a slot with another one behind it is not the last word
        have next : nextSlot slot = slot + 1 := Nat.mod_eq_of_lt (by omega)
        rw [next]
        exact bindSlots_eq types (slot + 1) (index + 1) (w :: ws) (by rw [List.length_cons]; omega)
    unfold bindSlots typed bindAll bindOne
    rw [others]
    dsimp only
    split <;> rfl

/-- Wherever parameters have been moved to, their values are bound one behind the other. -/
theorem bindFrom_eq : ∀ (es : List FilledParameter) (first slot : Nat) (shift : Int),
    SlotMapping.Consecutive first (es.map (·.parameter.mapping)) → (∀ e ∈ es, e.Fits) →
    (first : Int) + shift = slot → 0 < slot → slot + total es < UInt64.size →
    bindFrom shift es = do bindAll slot (es.flatMap bound); pure (total es)
  | [], _, _, _, _, _, _, _, _ => rfl
  | e :: rest, first, slot, shift, consecutive, fits, moved, pos, small => by
    obtain ⟨fit, others⟩ := List.forall_mem_cons.1 fits
    rw [total_cons] at small
    have start : e.parameter.movedSlot shift = .ok slot :=
      ParameterBinding.movedSlot_eq_ok.2 ⟨consecutive.firstSlot ▸ moved, pos, by omega⟩
    have growth := fit.growth
    have ih := bindFrom_eq rest _ (slot + e.values.length) (shift + e.growth) consecutive.2.2 others
      (by push_cast; omega) (by omega) (by omega)
    have values := bindSlots_eq e.parameter.mapping.conversion.slotTypes slot 0 e.values (by omega)
    have known : (Dialogue.ofExcept (.ok slot) : Dialogue Nat) = pure slot := rfl
    unfold bindFrom
    rw [start, known, pure_bind, values, ih, List.flatMap_cons, bindAll_append, bound, length_typed,
      total_cons]
    simp only [bind_assoc, pure_bind]

/-! ## Writing out -/

/-- Wherever lists have been moved to, they are written out in the places of their markers. -/
theorem expandFrom_eq {segments : List Segment} (wf : Segment.WellFormed false segments)
    (free : Segment.slashFree segments = true) :
    ∀ (es : List FilledParameter) (front : List MarkerGroup) (first : Nat) (shift : Int),
    SlotMapping.Consecutive first (es.map (·.parameter.mapping)) → (∀ e ∈ es, e.Fits) →
    (∀ e ∈ es, e.parameter.isIterated = true → IsPlainSeparator e.parameter.separator.toList) →
    Segment.PlainGroups front → front.length + es.length = (Segment.marks .plain segments).length →
    (first : Int) + shift = ((front.map (·.count)).sum + 1 : Nat) →
    (front.map (·.count)).sum + total es + 1 < UInt64.size →
    expandFrom shift (String.ofList
        (Segment.layout .plain segments (front ++ es.map (·.parameter.mapping.group)))) es =
      .ok (String.ofList (Segment.layout .plain segments (front ++ es.map written)))
  | [], _, _, _, _, _, _, _, _, _, _ => rfl
  | e :: rest, front, first, shift, consecutive, fits, plain, safe, all, moved, small => by
    obtain ⟨fit, others⟩ := List.forall_mem_cons.1 fits
    obtain ⟨separator, separators⟩ := List.forall_mem_cons.1 plain
    rw [total_cons] at small
    have growth := fit.growth
    have safe' : Segment.PlainGroups (front ++ [e.written]) := by
      intro g hg
      rcases List.mem_append.1 hg with hg | hg
      · exact safe g hg
      · rw [List.mem_singleton.1 hg]
        unfold written
        split
        · next it => exact separator it
        · exact WideMarker.plain_separator
    have count : ((front ++ [e.written]).map (·.count)).sum =
        (front.map (·.count)).sum + e.values.length := by simp
    have more : front.length < (Segment.marks .plain segments).length := by
      rw [← all, List.length_cons]
      omega
    have ih := expandFrom_eq wf free rest (front ++ [e.written]) _ (shift + e.growth) consecutive.2.2
      others separators safe' (by simpa [Nat.add_comm, Nat.add_left_comm] using all)
      (by rw [count]; push_cast at moved ⊢; omega) (by rw [count]; omega)
    rw [List.append_assoc, List.append_assoc, List.singleton_append, List.singleton_append] at ih
    rw [List.map_cons, List.map_cons, expandFrom]
    split
    · next it =>
      -- the only marker of a list becomes one marker for each value
      have one : e.parameter.mapping.group.count = 1 := fit.trans (if_pos it)
      have slot : e.parameter.movedSlot shift = .ok ((front.map (·.count)).sum + 1) :=
        ParameterBinding.movedSlot_eq_ok.2 ⟨consecutive.firstSlot ▸ moved, by omega, by omega⟩
      have group : e.written = ⟨e.parameter.separator.toList, e.values.length⟩ := if_pos it
      have noFalse : Segment.NoFalseComment .plain segments
          (front ++ e.parameter.mapping.group :: rest.map (·.parameter.mapping.group)) :=
        Segment.noFalseComment_of_slashFree wf free _
      have replaced : replaceMarker (String.ofList ([] ++ Segment.layout .plain segments
          (front ++ e.parameter.mapping.group :: rest.map (·.parameter.mapping.group)) ++ []))
            ((front.map (·.count)).sum + 1) e.values.length e.parameter.separator = _ :=
        Segment.replaceMarker_layout wf safe one noFalse more rfl rfl _ _
      rw [List.nil_append, List.append_nil, List.nil_append, List.append_nil] at replaced
      rw [group] at ih ⊢
      rw [slot]
      show expandFrom _ (replaceMarker _ _ _ _) _ = _
      rw [replaced]
      exact ih
    · next it =>
      have still : e.growth = 0 := if_neg it
      have group : e.written = e.parameter.mapping.group := by
        unfold written SlotMapping.group
        rw [if_neg it, fit, if_neg it]
      rw [still, Int.add_zero, group] at ih
      rw [group]
      exact ih

end FilledParameter

namespace CompiledMethod

/-! ## Whole selects -/

/-- Bind the values of a query and of its page. -/
def bindPaged (values : List (Value × SlotType)) (page : List Value) (pageFirst : Bool) :
    Dialogue Unit :=
  if pageFirst then do
    FilledParameter.bindValues 1 page
    FilledParameter.bindAll (page.length + 1) values
  else do
    FilledParameter.bindAll 1 values
    FilledParameter.bindValues (values.length + 1) page

/-- A select with its statement written out and its values in order. -/
def selected (m : CompiledMethod) (i : CallContext) (sql : String)
    (values : List (Value × SlotType)) : Dialogue Output :=
  let use (sql : String) (page : List Value) (pageFirst : Bool) :=
    onConnection i.provider <| onStatement i.provider false sql do
      bindPaged values page pageFirst
      m.readRowsAs i
  match i.page.filter fun b => !b.isWhole with
  | none => use sql [] false
  | some bounds =>
    match i.provider.paging with
    | none => .fail (m.reject .noPaging)
    | some s => use (s.paginate sql bounds.skips) (bounds.bindValues s) s.bindBeforeQuery

variable {m : CompiledMethod} {s : MethodScope} {segments : List Segment} {args : List Bindable}
  {es : List FilledParameter}

theorem execute_select (select : m.kind = .select) (i : CallContext) (args : List Bindable) :
    m.execute i args = m.select i args := by
  unfold execute
  rw [select]

theorem fits_of_widths (widths : ∀ p ∈ m.parameters, p.mapping.slots.length =
      if p.mapping.iteration = .single then p.mapping.conversion.width else 1)
    (filled : m.encode args none = .ok es) : ∀ e ∈ es, e.Fits := by
  obtain ⟨same, values⟩ := encode_eq_ok filled
  intro e he
  have hp : e.parameter ∈ m.parameters := same ▸ List.mem_map_of_mem he
  have width := widths _ hp
  unfold FilledParameter.Fits ParameterBinding.isIterated
  rw [width]
  by_cases single : e.parameter.mapping.iteration = .single
  · obtain ⟨source, hs⟩ := values e he
    unfold ParameterBinding.encode at hs
    rw [if_pos single] at hs
    simp [single, ParameterBinding.encodeElement_length hs]
  · simp [single]

theorem bindValues_length_le (bounds : Page) (strategy : PagingStrategy) :
    (bounds.bindValues strategy).length ≤ 2 := by
  unfold Page.bindValues
  split
  · dsimp only
    split <;> exact Nat.le_refl 2
  · exact Nat.le_succ 1

theorem bind_eq (consecutive : SlotMapping.Consecutive 1 (es.map (·.parameter.mapping)))
    (fits : ∀ e ∈ es, e.Fits) (small : FilledParameter.total es < 2 ^ 63) {page : List Value}
    (short : page.length ≤ 2) (sql : String) (pageFirst : Bool) :
    (ReadySelect.mk sql es page pageFirst).bind =
      bindPaged (es.flatMap FilledParameter.bound) page pageFirst := by
  have size : UInt64.size = 2 ^ 64 := rfl
  have bind (base : Nat) (hb : base ≤ 2) : FilledParameter.bindFrom base es =
      FilledParameter.bindAll (base + 1) (es.flatMap FilledParameter.bound) >>= fun _ =>
        pure (FilledParameter.total es) :=
    FilledParameter.bindFrom_eq es 1 (base + 1) base consecutive fits (by push_cast; omega)
      (by omega) (by omega)
  unfold ReadySelect.bind bindPaged
  cases pageFirst with
  | true =>
    simp only [if_true, bind page.length short, bind_assoc, pure_bind, bind_pure_unit]
  | false =>
    have zero := bind 0 (Nat.zero_le 2)
    simp only [Bool.false_eq_true, if_false]
    rw [show (0 : Int) = ((0 : Nat) : Int) from rfl, zero, bind_assoc]
    simp only [pure_bind, FilledParameter.length_bound]

/-- A call whose arguments are refused is never ready to run. -/
theorem select_refused {e : QueryFailure} (refused : m.encode args none = .error e)
    (i : CallContext) : m.select i args = .fail e := by
  have unready : m.readySelect i args = .error e := by
    unfold readySelect
    rw [refused]
    rfl
  unfold select
  rw [unready]

/-- What an encoded select is run with: its statement as it is, or with the page that the strategy
of the provider writes into it. -/
inductive Readied (i : CallContext) (es : List FilledParameter) (sql : String) :
    ReadySelect → Prop
  | whole (unpaged : (i.page.filter fun b => !b.isWhole) = none) :
      Readied i es sql ⟨sql, es, [], false⟩
  | page {bounds : Page} {strategy : PagingStrategy}
      (asked : (i.page.filter fun b => !b.isWhole) = some bounds)
      (given : i.provider.paging = some strategy) :
      Readied i es sql ⟨strategy.paginate sql bounds.skips, es, bounds.bindValues strategy,
        strategy.bindBeforeQuery⟩

theorem readySelect_eq {sql : String} (filled : m.encode args none = .ok es)
    (expanded : FilledParameter.expand m.sql es = .ok sql) (i : CallContext) :
    m.readySelect i args = match i.page.filter fun b => !b.isWhole with
      | none => .ok ⟨sql, es, [], false⟩
      | some bounds => match i.provider.paging with
        | none => .error (m.reject .noPaging)
        | some s =>
          .ok ⟨s.paginate sql bounds.skips, es, bounds.bindValues s, s.bindBeforeQuery⟩ := by
  unfold readySelect
  rw [filled]
  show FilledParameter.expand m.sql es >>= _ = _
  rw [expanded]
  rfl

theorem readySelect_eq_ok {i : CallContext} {ready : ReadySelect} :
    m.readySelect i args = .ok ready ↔ ∃ es sql, m.encode args none = .ok es ∧
      FilledParameter.expand m.sql es = .ok sql ∧ Readied i es sql ready := by
  constructor
  · intro h
    obtain ⟨es, filled, rest⟩ := bind_eq_ok.1 h
    obtain ⟨sql, expanded, -⟩ := bind_eq_ok.1 rest
    refine ⟨es, sql, filled, expanded, ?_⟩
    rw [readySelect_eq filled expanded] at h
    split at h
    · next unpaged =>
      cases h
      exact .whole unpaged
    · next asked =>
      split at h
      · cases h
      · next given =>
        cases h
        exact .page asked given
  · rintro ⟨es, sql, filled, expanded, readied⟩
    rw [readySelect_eq filled expanded]
    cases readied with
    | whole unpaged => rw [unpaged]
    | page asked given => rw [asked, given]

/-- A select is not ready to run if an argument is refused, a list cannot be written out, or a page
is asked for where there are none. -/
theorem readySelect_eq_error {i : CallContext} {e : QueryFailure}
    (h : m.readySelect i args = .error e) :
    m.encode args none = .error e ∨
    (∃ es, m.encode args none = .ok es ∧ FilledParameter.expand m.sql es = .error e) ∨
    ∃ es sql bounds, m.encode args none = .ok es ∧ FilledParameter.expand m.sql es = .ok sql ∧
      (i.page.filter fun b => !b.isWhole) = some bounds ∧ i.provider.paging = none ∧
      e = m.reject .noPaging := by
  rcases bind_eq_error.1 h with refused | ⟨es, filled, rest⟩
  · exact .inl refused
  · rcases bind_eq_error.1 rest with refused | ⟨sql, expanded, -⟩
    · exact .inr (.inl ⟨es, filled, refused⟩)
    · rw [readySelect_eq filled expanded] at h
      split at h
      · cases h
      · next asked =>
        split at h
        · next unpaged =>
          cases h
          exact .inr (.inr ⟨es, sql, _, filled, expanded, asked, unpaged, rfl⟩)
        · cases h

theorem encode_of_ready {i : CallContext} {ready : ReadySelect}
    (prepared : m.readySelect i args = .ok ready) : m.encode args none = .ok ready.encoded := by
  obtain ⟨es, sql, filled, -, readied⟩ := readySelect_eq_ok.1 prepared
  cases readied with
  | whole | page => exact filled

theorem length_paging_of_ready {i : CallContext} {ready : ReadySelect}
    (prepared : m.readySelect i args = .ok ready) : ready.paging.length ≤ 2 := by
  obtain ⟨es, sql, -, -, readied⟩ := readySelect_eq_ok.1 prepared
  cases readied with
  | whole => exact Nat.zero_le 2
  | page => exact bindValues_length_le ..

/-- A select that is ready to run binds its values and those of its page. -/
theorem ready_bind {i : CallContext} {ready : ReadySelect} (prepared : m.readySelect i args = .ok ready)
    (consecutive : SlotMapping.Consecutive 1 (m.parameters.map (·.mapping)))
    (fits : ∀ e ∈ ready.encoded, e.Fits) (small : FilledParameter.total ready.encoded < 2 ^ 63) :
    ready.bind =
      bindPaged (ready.encoded.flatMap FilledParameter.bound) ready.paging ready.pagingFirst := by
  rw [← (encode_eq_ok (encode_of_ready prepared)).1, List.map_map] at consecutive
  exact bind_eq consecutive fits small (length_paging_of_ready prepared) ready.sql
    ready.pagingFirst

/-- The lists of a select are written out in the places of their markers. -/
theorem Selects.expand_eq (selects : m.Selects s segments)
    (plain : ∀ p ∈ m.parameters, p.isIterated = true → IsPlainSeparator p.separator.toList)
    (filled : m.encode args none = .ok es) (small : FilledParameter.total es < 2 ^ 63) :
    FilledParameter.expand m.sql es =
      .ok (String.ofList (Segment.layout .plain segments (es.map FilledParameter.written))) := by
  obtain ⟨same, -⟩ := encode_eq_ok filled
  have fits := fits_of_widths selects.widths filled
  have consecutive : SlotMapping.Consecutive 1 (es.map (·.parameter.mapping)) := by
    have := selects.consecutive
    rwa [← same, List.map_map] at this
  have size : UInt64.size = 2 ^ 64 := rfl
  have groups : m.parameters.map (·.mapping.group) = es.map (·.parameter.mapping.group) := by
    rw [← same, List.map_map]
    rfl
  unfold FilledParameter.expand
  rw [selects.sql, groups]
  refine FilledParameter.expandFrom_eq selects.wellFormed selects.slashFree es [] 1 0 consecutive
    fits (fun e he => ?_) nofun ?_ rfl (by simp; omega)
  · exact plain _ (same ▸ List.mem_map_of_mem he)
  · rw [Segment.marks_plain_length, ← selects.all, ← same, List.length_map]
    exact Nat.zero_add _

/-- What a select does once its arguments are encoded. -/
theorem Selects.select_eq (selects : m.Selects s segments)
    (plain : ∀ p ∈ m.parameters, p.isIterated = true → IsPlainSeparator p.separator.toList)
    (filled : m.encode args none = .ok es) (small : FilledParameter.total es < 2 ^ 63)
    (i : CallContext) :
    m.select i args = m.selected i
      (String.ofList (Segment.layout .plain segments (es.map FilledParameter.written)))
      (es.flatMap FilledParameter.bound) := by
  obtain ⟨same, -⟩ := encode_eq_ok filled
  have fits := fits_of_widths selects.widths filled
  have consecutive : SlotMapping.Consecutive 1 (es.map (·.parameter.mapping)) := by
    have := selects.consecutive
    rwa [← same, List.map_map] at this
  have expanded := selects.expand_eq plain filled small
  have bind (page : List Value) (short : page.length ≤ 2) :=
    bind_eq consecutive fits small short
  unfold select selected
  rw [readySelect_eq filled expanded]
  cases i.page.filter fun b => !b.isWhole with
  | none =>
    dsimp only
    rw [← bind [] (Nat.zero_le 2)]
  | some bounds =>
    cases i.provider.paging with
    | none => rfl
    | some strategy =>
      dsimp only
      rw [← bind _ (bindValues_length_le bounds strategy)]

end CompiledMethod

end QueryMethods
