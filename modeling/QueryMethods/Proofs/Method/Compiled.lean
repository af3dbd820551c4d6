/-
What compiling a method says about it, once it is accepted: the template is read, its placeholders
are resolved one by one, and the markers are numbered in the order of the text.
-/
import QueryMethods.Method.Compile
import QueryMethods.Proofs.Method.Numbering
import QueryMethods.Proofs.Result
import QueryMethods.Proofs.Template.Reading
import Mathlib.Data.List.TakeWhile

namespace QueryMethods

open Sql Text

/-! ## Resolving -/

namespace MethodScope

/-- The markers of a method in the order of the text. -/
def markersOf (kind : StatementKind) (parameters : List ParameterBinding)
    (results : List ResultReading) : List WideMarker :=
  if kind = .call then
    WideMarker.sort (parameters.map (·.mapping.wideMarker) ++ results.map (·.mapping.wideMarker))
  else parameters.map (·.mapping.wideMarker)

/-- The method that the parts of a template resolve to. -/
def assembled (s : MethodScope) (interface method : String) (t : Template) (batch : Option Nat)
    (parameters : List ParameterBinding) (resolved : ResolvedResults) (plan : RowPlan)
    (returns : ReturnForm) : CompiledMethod :=
  let markers := markersOf s.kind parameters resolved.results
  { interface, method
    kind := s.kind
    sql := WideMarker.expand markers t.sql
    parameters := parameters.map fun p => { p with mapping := p.mapping.number markers }
    results :=
      if s.kind = .call then
        resolved.results.map fun r => { r with mapping := r.mapping.number markers }
      else ResultReading.numberColumns 1 resolved.results
    key := resolved.results.findIdx? (·.target = .mapKey)
    rowPlan := plan
    returns
    batchPosition := batch
    bindCount := WideMarker.lastSlot markers }

/-- Whether a plan has values to hand back. -/
def hasValues : RowPlan → Bool
  | .none => false
  | _ => true

theorem compile_eq_ok {s : MethodScope} {interface method template : String} {m : CompiledMethod} :
    s.compile interface method template = .ok m ↔
      ∃ t batch parameters resolved plan returns,
        Template.read (form s.kind) template = .ok t ∧ s.batchPosition = .ok batch ∧
        t.parameters.mapM s.parameter = .ok parameters ∧ s.results t.results = .ok resolved ∧
        s.rowPlan resolved = .ok plan ∧
        s.returnForm batch (hasValues plan)
          (resolved.results.findIdx? (·.target = .mapKey)).isSome = .ok returns ∧
        m = s.assembled interface method t batch parameters resolved plan returns := by
  unfold compile
  simp only [bind_eq_ok, mapError_eq_ok]
  constructor
  · rintro ⟨t, ht, batch, hb, parameters, hp, resolved, hr, plan, hl, returns, hf, h⟩
    cases h
    exact ⟨t, batch, parameters, resolved, plan, returns, ht, hb, hp, hr, hl, hf, rfl⟩
  · rintro ⟨t, batch, parameters, resolved, plan, returns, ht, hb, hp, hr, hl, hf, rfl⟩
    exact ⟨t, ht, batch, hb, parameters, hp, resolved, hr, plan, hl, returns, hf, rfl⟩

theorem compile_kind {s : MethodScope} {interface method template : String} {m : CompiledMethod}
    (h : s.compile interface method template = .ok m) : m.kind = s.kind := by
  obtain ⟨t, batch, parameters, resolved, plan, returns, -, -, -, -, -, -, rfl⟩ := compile_eq_ok.1 h
  rfl

end MethodScope

/-! ## Widths -/

theorem AdapterTable.build_width {key : String} {a : Adapter} {t : ValueType} {c : Codec}
    (h : AdapterTable.build key a t = .ok c) : 1 ≤ c.width := by
  have some {codec : Codec}
      (h : (if codec.slotTypes = [] then .error (.missing (.slotless t key))
        else pure { codec with key := key } : Except CodecFailure Codec) = .ok c) : 1 ≤ c.width := by
    split at h
    · cases h
    · next some =>
      cases h
      exact List.length_pos_iff.2 some
  unfold AdapterTable.build at h
  split at h
  · cases a with
    | runtime handles slotTypes split join => exact some h
    | generated handles generate =>
      obtain ⟨codec, -, h⟩ := bind_eq_ok.1 h
      exact some h
  · cases h

theorem AdapterTable.build_map_width {key : String} {a : Adapter} {t : ValueType} {c : Codec}
    (h : (AdapterTable.build key a t).map some = .ok (some c)) : 1 ≤ c.width := by
  cases hb : AdapterTable.build key a t with
  | error e => rw [hb] at h; cases h
  | ok c' =>
    rw [hb] at h
    cases h
    exact AdapterTable.build_width hb

namespace MethodScope

/-- Every value takes a slot. -/
theorem conversionFor_width {s : MethodScope} {tag : Option Tag} {type : ValueType} {c : Conversion}
    (h : s.conversionFor tag type = .ok c) : 1 ≤ c.width := by
  unfold conversionFor at h
  split at h
  · split at h
    · split at h
      · split at h
        · cases h; exact Nat.le_refl 1
        · cases h
      · cases h
    · split at h
      · next codec hf =>
        cases h
        unfold AdapterTable.forTag at hf
        split at hf
        · exact AdapterTable.build_map_width hf
        · cases hf
      · cases h
      · cases h
  · split at h
    · cases h; exact Nat.le_refl 1
    · split at h
      · next codec hf =>
        cases h
        unfold AdapterTable.forType at hf
        split at hf
        · exact AdapterTable.build_map_width hf
        · split at hf
          · exact AdapterTable.build_map_width hf
          · cases hf
      · split at h <;> cases h
      · cases h

/-! ## Parameters -/

theorem parameter_eq_ok {s : MethodScope} {p : Template.Parameter} {b : ParameterBinding} :
    s.parameter p = .ok b ↔ ∃ position a w c, s.argument p.argument = .ok (position, a) ∧
      s.follow a.element p.path = .ok w ∧ s.conversionFor p.tag w.type = .ok c ∧
      b = ⟨⟨c, w.type, w.type.nullable || w.optional || tagNullable p.tag, [p.slot],
        if s.kind = .select then a.shape else .single⟩, position, w.path, p.separator⟩ := by
  unfold parameter
  simp only [bind_eq_ok, Prod.exists]
  constructor
  · rintro ⟨position, a, ha, w, hw, c, hc, h⟩
    cases h
    exact ⟨position, a, w, c, ha, hw, hc, rfl⟩
  · rintro ⟨position, a, w, c, ha, hw, hc, rfl⟩
    exact ⟨position, a, ha, w, hw, c, hc, rfl⟩

theorem wideMarker_slot {s : MethodScope} {p : Template.Parameter} {b : ParameterBinding}
    (h : s.parameter p = .ok b) : b.mapping.wideMarker.slot = p.slot := by
  obtain ⟨position, a, w, c, -, -, -, rfl⟩ := parameter_eq_ok.1 h
  rfl

theorem wideMarker_width {s : MethodScope} {p : Template.Parameter} {b : ParameterBinding}
    (h : s.parameter p = .ok b) : 1 ≤ b.mapping.wideMarker.width := by
  obtain ⟨position, a, w, c, -, -, hc, rfl⟩ := parameter_eq_ok.1 h
  unfold SlotMapping.wideMarker
  dsimp only
  split_ifs <;> first | exact conversionFor_width hc | exact Nat.le_refl 1

/-! ## Results -/

theorem resultMappings_cons_eq_ok {s : MethodScope} {types : ResultTypes}
    {parameters : List ValueType} {taken : List String} {d : Template.Result}
    {rest : List Template.Result} {results : List ResultReading} :
    s.resultMappings types parameters taken (d :: rest) = .ok results ↔ ∃ type target c others,
      s.resultTarget types parameters taken d.place = .ok (type, target) ∧
      s.conversionFor d.tag type = .ok c ∧
      s.resultMappings types parameters (takenPath target ++ taken) rest = .ok others ∧
      results = ⟨⟨c, type, type.nullable || tagNullable d.tag, [d.slot], .single⟩, target⟩ :: others := by
  rw [resultMappings]
  simp only [bind_eq_ok, Prod.exists]
  constructor
  · rintro ⟨type, target, ht, c, hc, others, ho, h⟩
    cases h
    exact ⟨type, target, c, others, ht, hc, ho, rfl⟩
  · rintro ⟨type, target, c, others, ht, hc, ho, rfl⟩
    exact ⟨type, target, ht, c, hc, others, ho, rfl⟩

/-- How the results of a method resolve: there are none, or they are resolved by themselves, or with
the constructor that they feed. -/
inductive ResultsFrom (s : MethodScope) (definitions : List Template.Result) :
    ResolvedResults → Prop
  | none (empty : definitions = []) : ResultsFrom s definitions ⟨[], none, none⟩
  | fields {types : ResultTypes} {results : List ResultReading} (some : definitions ≠ [])
      (other : ¬s.kind.isMutation = true) (typed : s.resultTypes = .ok types)
      (unfed : definitions.filterMap slotOf? = [])
      (mapped : s.resultMappings types [] [] definitions = .ok results) :
      ResultsFrom s definitions ⟨results, .some types.row, .none⟩
  | slots {types : ResultTypes} {index : Nat} {parameters : List ValueType}
      {results : List ResultReading} (some : definitions ≠ [])
      (other : ¬s.kind.isMutation = true) (typed : s.resultTypes = .ok types)
      (fed : definitions.filterMap slotOf? ≠ [])
      (selected : s.selectConstructor types.row (definitions.filterMap slotOf?) =
        .ok (index, parameters))
      (mapped : s.resultMappings types parameters [] definitions = .ok results) :
      ResultsFrom s definitions
        ⟨results, .some types.row, .some (index, (definitions.filterMap slotOf?).length)⟩

theorem results_eq_ok {s : MethodScope} {definitions : List Template.Result}
    {resolved : ResolvedResults} :
    s.results definitions = .ok resolved ↔ s.ResultsFrom definitions resolved := by
  unfold results
  constructor
  · intro h
    split at h
    · next empty =>
      cases h
      exact .none empty
    · next some =>
      split at h
      · cases h
      · next other =>
        obtain ⟨types, typed, h⟩ := bind_eq_ok.1 h
        split at h
        · next unfed =>
          obtain ⟨results, mapped, h⟩ := bind_eq_ok.1 h
          cases h
          exact .fields some other typed unfed mapped
        · next fed =>
          obtain ⟨⟨index, parameters⟩, selected, h⟩ := bind_eq_ok.1 h
          obtain ⟨results, mapped, h⟩ := bind_eq_ok.1 h
          cases h
          exact .slots some other typed fed selected mapped
  · intro h
    cases h with
    | none empty => exact if_pos empty
    | fields some other typed unfed mapped =>
      rw [if_neg some, if_neg other, unfed]
      exact bind_eq_ok.2 ⟨_, typed, bind_eq_ok.2 ⟨_, mapped, rfl⟩⟩
    | slots some other typed fed selected mapped =>
      rw [if_neg some, if_neg other]
      refine bind_eq_ok.2 ⟨_, typed, ?_⟩
      split
      · next unfed => exact absurd unfed fed
      · exact bind_eq_ok.2 ⟨_, selected, bind_eq_ok.2 ⟨_, mapped, rfl⟩⟩

/-- What a placeholder is resolved to: its place gives the type and the target, its tag the
conversion. -/
inductive ResolvesTo (s : MethodScope) (types : ResultTypes) (parameters : List ValueType)
    (d : Template.Result) : ResultReading → Prop
  | intro {taken : List String} {type : ValueType} {target : Destination} {c : Conversion}
      (place : s.resultTarget types parameters taken d.place = .ok (type, target))
      (conversion : s.conversionFor d.tag type = .ok c) : ResolvesTo s types parameters d
        ⟨⟨c, type, type.nullable || tagNullable d.tag, [d.slot], .single⟩, target⟩

theorem resultMappings_resolves {s : MethodScope} {types : ResultTypes}
    {parameters : List ValueType} : ∀ {taken : List String} {definitions : List Template.Result}
    {results : List ResultReading},
    s.resultMappings types parameters taken definitions = .ok results →
    List.Forall₂ (s.ResolvesTo types parameters) definitions results
  | _, [], _, h => by cases h; exact .nil
  | _, d :: rest, _, h => by
    obtain ⟨type, target, c, others, ht, hc, ho, rfl⟩ := resultMappings_cons_eq_ok.1 h
    exact .cons (.intro ht hc) (resultMappings_resolves ho)

/-- A result before it is numbered: it has the slot of its placeholder, is a single value and is
converted as the placeholder says. -/
structure Reads (s : MethodScope) (d : Template.Result) (r : ResultReading) : Prop where
  slot : r.mapping.slots = [d.slot]
  single : r.mapping.iteration = .single
  conversion : s.conversionFor d.tag r.mapping.valueType = .ok r.mapping.conversion

theorem ResolvesTo.reads {s : MethodScope} {types : ResultTypes} {parameters : List ValueType}
    {d : Template.Result} {r : ResultReading} (h : s.ResolvesTo types parameters d r) :
    s.Reads d r := by
  obtain ⟨-, conversion⟩ := h
  exact ⟨rfl, rfl, conversion⟩

theorem results_reads {s : MethodScope} {definitions : List Template.Result}
    {resolved : ResolvedResults} (h : s.results definitions = .ok resolved) :
    List.Forall₂ s.Reads definitions resolved.results ∧
      (s.kind.isMutation = true → definitions = []) := by
  cases results_eq_ok.1 h with
  | none empty =>
    subst empty
    exact ⟨.nil, fun _ => rfl⟩
  | fields _ other _ _ mapped | slots _ other _ _ _ mapped =>
    have reads := (resultMappings_resolves mapped).imp fun _ _ h => h.reads
    exact ⟨reads, fun mutation => absurd mutation other⟩

/-! ## Plans -/

/-- The ways in which resolved results are put together. -/
inductive PlanFrom (s : MethodScope) (r : ResolvedResults) : RowPlan → Prop
  | none (other : s.kind ≠ .select) : PlanFrom s r .none
  | atomic {index : Nat} (found : r.results.findIdx? (·.target = .whole) = some index) :
      PlanFrom s r (.atomic index)
  | fresh {c : BeanClass} (type : r.row.bind s.catalog.classOf? = some c)
      (fields : r.constructor = none) (blank : c.hasDefault = true) : PlanFrom s r (.bean c .fresh)
  | constructor {c : BeanClass} {index arity : Nat} (type : r.row.bind s.catalog.classOf? = some c)
      (selected : r.constructor = some (index, arity)) :
      PlanFrom s r (.bean c (.constructor index arity))

end MethodScope

/-- The results that a plan is for: none, a whole value that is the only one, or parts. -/
def RowPlan.Suits (results : List ResultReading) : RowPlan → Prop
  | .none => results.filter (·.target ≠ .mapKey) = []
  | .atomic index => results.findIdx? (·.target = .whole) = some index ∧
    (results.filter (·.target ≠ .mapKey)).length = 1
  | .bean _ _ => results.filter (·.target ≠ .mapKey) ≠ [] ∧
    results.findIdx? (·.target = .whole) = Option.none

theorem RowPlan.Suits.alone {results : List ResultReading} {index : Nat}
    (h : (RowPlan.atomic index).Suits results) : ∃ x, results[index]? = some x ∧
      x.target = .whole ∧ results.filter (·.target ≠ .mapKey) = [x] := by
  obtain ⟨found, one⟩ := h
  obtain ⟨inside, whole, -⟩ := List.findIdx?_eq_some_iff_getElem.1 found
  have whole : results[index].target = .whole := of_decide_eq_true whole
  have value : results[index] ∈ results.filter (·.target ≠ .mapKey) :=
    List.mem_filter.2 ⟨List.getElem_mem inside, decide_eq_true (by rw [whole]; exact nofun)⟩
  obtain ⟨only, alone⟩ := List.length_eq_one_iff.1 one
  rw [alone, List.mem_singleton] at value
  exact ⟨_, List.getElem?_eq_getElem inside, whole, by rw [alone, value]⟩

namespace MethodScope

theorem rowPlan_eq_ok {s : MethodScope} {r : ResolvedResults} {plan : RowPlan} :
    s.rowPlan r = .ok plan ↔ s.PlanFrom r plan ∧ plan.Suits r.results := by
  unfold rowPlan
  constructor
  · intro h
    split at h
    · next empty =>
      split at h
      · cases h
      · next other =>
        cases h
        exact ⟨.none other, empty⟩
    · next some =>
      have filled := List.length_pos_iff.2 some
      split at h
      · next index found =>
        split at h
        · cases h
        · next one =>
          cases h
          exact ⟨.atomic found, found, by omega⟩
      · next parts =>
        split at h
        · cases h
        · next c type =>
          split at h
          · next index arity selected =>
            cases h
            exact ⟨.constructor type selected, some, parts⟩
          · next fields =>
            split at h
            · next blank =>
              cases h
              exact ⟨.fresh type fields blank, some, parts⟩
            · cases h
  · rintro ⟨origin, suits⟩
    cases origin with
    | none other =>
      rw [show r.results.filter (·.target ≠ .mapKey) = [] from suits]
      exact if_neg other
    | atomic found =>
      obtain ⟨-, one⟩ := suits
      split
      · next empty =>
        rw [empty] at one
        cases one
      · rw [found]
        exact if_neg (by omega)
    | fresh type fields blank =>
      split
      · next empty => exact absurd empty suits.1
      · rw [suits.2, type, fields]
        exact if_pos blank
    | constructor type selected =>
      split
      · next empty => exact absurd empty suits.1
      · rw [suits.2, type, selected]

/-! ## Markers -/

/-- Before they are numbered, parameters have the slots of their placeholders. -/
theorem parameters_slots {s : MethodScope} {ps : List Template.Parameter}
    {parameters : List ParameterBinding} (h : ps.mapM s.parameter = .ok parameters) :
    (parameters.map (·.mapping.wideMarker)).map (·.slot) = ps.map (·.slot) ∧
      ∀ m ∈ parameters.map (·.mapping.wideMarker), 1 ≤ m.width := by
  have each := mapM_eq_ok.1 h
  clear h
  induction each with
  | nil => exact ⟨rfl, nofun⟩
  | cons hp _ ih =>
    refine ⟨?_, List.forall_mem_cons.2 ⟨wideMarker_width hp, ih.2⟩⟩
    rw [List.map_cons, List.map_cons, List.map_cons, ih.1, wideMarker_slot hp]

theorem results_slots {s : MethodScope} {definitions : List Template.Result} {results : List ResultReading}
    (h : List.Forall₂ s.Reads definitions results) :
    (results.map (·.mapping.wideMarker)).map (·.slot) = definitions.map (·.slot) ∧
      ∀ m ∈ results.map (·.mapping.wideMarker), 1 ≤ m.width := by
  induction h with
  | nil => exact ⟨rfl, nofun⟩
  | @cons d r _ _ hr _ ih =>
    have width : r.mapping.wideMarker.width = r.mapping.conversion.width := if_pos hr.single
    have slot : r.mapping.wideMarker.slot = d.slot := by
      show r.mapping.slots.headD 0 = d.slot
      rw [hr.slot]
      rfl
    refine ⟨?_, List.forall_mem_cons.2 ⟨width ▸ conversionFor_width hr.conversion, ih.2⟩⟩
    rw [List.map_cons, List.map_cons, List.map_cons, ih.1, slot]

/-- Markers in the order of the text are those of the placeholders in the order of the template. -/
theorem markersOf_eq {s : MethodScope} {segments : List Segment} {parameters : List ParameterBinding}
    {results : List ResultReading}
    (hp : (Template.assemble (form s.kind) 0 0 segments).parameters.mapM s.parameter = .ok parameters)
    (hr : List.Forall₂ s.Reads
      (Template.assemble (form s.kind) 0 0 segments).results results) :
    markersOf s.kind parameters results =
        interleave (Segment.marks (form s.kind) segments) (parameters.map (·.mapping.wideMarker))
          (results.map (·.mapping.wideMarker)) ∧
      WideMarker.Numbered 1 (markersOf s.kind parameters results) ∧
      (markersOf s.kind parameters results).length =
        (Segment.marks (form s.kind) segments).length := by
  obtain ⟨slotsP, wideP⟩ := parameters_slots hp
  obtain ⟨slotsR, wideR⟩ := results_slots hr
  have lengthP : (parameters.map (·.mapping.wideMarker)).length =
      (Segment.marks (form s.kind) segments).count true := by
    rw [List.length_map, ← (mapM_eq_ok.1 hp).length_eq, Segment.assemble_parameters_length]
  have numbers := Segment.assemble_slots (form s.kind) segments 0 0
  rw [← slotsP, ← slotsR, ← interleave_map] at numbers
  have length := congrArg List.length numbers
  rw [List.length_map, List.length_range'] at length
  have eq : markersOf s.kind parameters results =
      interleave (Segment.marks (form s.kind) segments) (parameters.map (·.mapping.wideMarker))
        (results.map (·.mapping.wideMarker)) ∧
      ∀ m ∈ interleave (Segment.marks (form s.kind) segments)
        (parameters.map (·.mapping.wideMarker)) (results.map (·.mapping.wideMarker)), 1 ≤ m.width := by
    by_cases call : s.kind = .call
    · have hf : form s.kind = .call := if_pos call
      have lengthR : (results.map (·.mapping.wideMarker)).length =
          (Segment.marks (form s.kind) segments).count false := by
        rw [List.length_map, ← hr.length_eq, hf, Segment.assemble_results_length]
      have perm := interleave_perm lengthP lengthR
      have wide : ∀ m ∈ interleave (Segment.marks (form s.kind) segments)
          (parameters.map (·.mapping.wideMarker)) (results.map (·.mapping.wideMarker)),
          1 ≤ m.width := by
        intro m hm
        exact (List.mem_append.1 (perm.subset hm)).elim (wideP m) (wideR m)
      have numbered := WideMarker.numbered_of_range (length ▸ numbers) wide
      refine ⟨?_, wide⟩
      unfold markersOf
      rw [if_pos call]
      exact WideMarker.sort_eq perm.symm numbered
    · have hf : form s.kind = .plain := if_neg call
      rw [hf] at lengthP ⊢
      have all : (Segment.marks .plain segments).count true =
          (Segment.marks .plain segments).length :=
        List.count_eq_length.2 fun b hb => (Segment.marks_plain b hb).symm
      rw [interleave_left _ Segment.marks_plain (lengthP.trans all)]
      refine ⟨?_, wideP⟩
      unfold markersOf
      rw [if_neg call]
  rw [eq.1]
  exact ⟨rfl, WideMarker.numbered_of_range (length ▸ numbers) eq.2, length⟩

end MethodScope

end QueryMethods
