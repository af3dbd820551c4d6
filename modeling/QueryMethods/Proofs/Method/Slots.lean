/-
Markers and slots of methods that are no selects: the statement has exactly as many markers as
slots are bound, and each placeholder of the template owns the markers that its mapping numbers.
-/
import QueryMethods.Proofs.Method.Compiled

namespace QueryMethods

open Sql

/-! ## Owners -/

/-- The markers of a mapping, one for each of its slots. -/
def SlotMapping.group (o : SlotMapping) : MarkerGroup := ⟨WideMarker.separator.toList, o.slots.length⟩

/-- The mappings of a method in the order of its template. -/
def CompiledMethod.owners (m : CompiledMethod) (segments : List Segment) : List SlotMapping :=
  interleave (Segment.marks (MethodScope.form m.kind) segments) (m.parameters.map (·.mapping))
    (m.results.map (·.mapping))

/-- The slots of the parameters. -/
def CompiledMethod.parameterSlots (m : CompiledMethod) : List Nat :=
  m.parameters.flatMap (·.mapping.slots)

/-- The slots of the OUT results of a method that is no select. -/
def CompiledMethod.outSlots (m : CompiledMethod) : List Nat := m.results.flatMap (·.mapping.slots)

theorem StatementKind.isMutation_of_ne {kind : StatementKind} (select : kind ≠ .select)
    (call : kind ≠ .call) : kind.isMutation = true := by
  cases kind with
  | select => exact absurd rfl select
  | call => exact absurd rfl call
  | insert | update | delete => rfl

namespace MethodScope

/-- A mapping is what a placeholder resolves to, apart from its slots. -/
def Resolves (s : MethodScope) : Placeholder → SlotMapping → Prop
  | .parameter argument path tag separator, o => ∃ slot b,
      s.parameter ⟨slot, argument, path, tag, separator.getD Template.defaultSeparator⟩ = .ok b ∧
        o = { b.mapping with slots := o.slots }
  | .result _ tag, o => s.conversionFor tag o.valueType = .ok o.conversion

/-- The placeholders that take markers, in order. -/
def placeholders (form : TemplateForm) (segments : List Segment) : List Placeholder :=
  segments.filterMap fun
    | .placeholder body meaning => ((Segment.placeholder body meaning).mark? form).map fun _ => meaning
    | _ => none

theorem Resolves.number {s : MethodScope} {placeholder : Placeholder} {o : SlotMapping}
    (h : s.Resolves placeholder o) (markers : List WideMarker) :
    s.Resolves placeholder (o.number markers) := by
  cases placeholder with
  | parameter argument path tag separator =>
    obtain ⟨slot, b, hb, ho⟩ := h
    refine ⟨slot, b, hb, ?_⟩
    rw [ho]
    rfl
  | result place tag => exact h

/-- Each placeholder resolves to the mapping in its place. -/
theorem resolves_interleave {s : MethodScope} {form : TemplateForm} {segments : List Segment}
    {markers columns : Nat} {parameters : List ParameterBinding} {results : List ResultReading}
    (hp : (Template.assemble form markers columns segments).parameters.mapM s.parameter =
      .ok parameters)
    (hr : List.Forall₂ s.Reads (Template.assemble form markers columns segments).results results) :
    List.Forall₂ s.Resolves (placeholders form segments)
      (interleave (Segment.marks form segments) (parameters.map (·.mapping))
        (results.map (·.mapping))) := by
  induction segments generalizing markers columns parameters results with
  | nil =>
    have none : interleave (Segment.marks form []) (parameters.map (·.mapping))
        (results.map (·.mapping)) = [] := by
      show interleave [] _ _ = []
      simp [interleave]
    rw [none]
    exact .nil
  | cons segment rest ih =>
    cases segment with
    | placeholder body meaning =>
      cases meaning with
      | parameter argument path tag separator =>
        obtain ⟨b, others, hb, ho, rfl⟩ := mapM_cons_eq_ok.1 hp
        exact .cons ⟨_, b, hb, rfl⟩ (ih ho hr)
      | result place tag =>
        cases hr' : results with
        | nil => rw [hr'] at hr; cases form <;> cases hr
        | cons r others =>
          rw [hr'] at hr
          cases form with
          | plain =>
            -- a column takes no marker
            cases hr with
            | cons _ behind =>
              have := ih hp behind
              rw [interleave_true _ ((r :: others).map (·.mapping)) Segment.marks_plain] at this
              exact this
          | call =>
            cases hr with
            | cons first behind => exact .cons first.conversion (ih hp behind)
    | plain _ | escape _ | literal _ | comment _ _ => exact ih hp hr

end MethodScope

/-! ## Numbering the owners -/

/-- How the markers of a statement, laid out between `before` and `after`, belong to the placeholders
of its template. -/
structure CompiledMethod.SlotsOwnMarkers (m : CompiledMethod) (s : MethodScope) (before : List Char)
    (segments : List Segment) (after : List Char) : Prop where
  /-- Every parameter and every OUT result is an owner, and nothing else is. -/
  complete : (m.owners segments).Perm (m.parameters.map (·.mapping) ++ m.results.map (·.mapping))
  /-- The owners are what the placeholders resolve to, in the order of the template. -/
  inOrder : List.Forall₂ s.Resolves (MethodScope.placeholders (MethodScope.form m.kind) segments)
    (m.owners segments)
  /-- Every owner has its markers in the place of its placeholder, outside of comments and literals,
  and their ordinals are its slots. -/
  numbered : ∀ a o b, m.owners segments = a ++ o :: b → ∃ front placeholder behind,
    segments = front ++ placeholder :: behind ∧
    (placeholder.mark? (MethodScope.form m.kind)).isSome = true ∧
    (Segment.marks (MethodScope.form m.kind) front).length = a.length ∧
    let text := before ++ Segment.layout (MethodScope.form m.kind) front (a.map SlotMapping.group)
    m.sql = String.ofList (text ++ o.group.text ++
      (Segment.layout (MethodScope.form m.kind) behind (b.map SlotMapping.group) ++ after)) ∧
    countMarkers .code (text ++ o.group.text) = countMarkers .code text + o.slots.length ∧
    o.slots = List.range' (countMarkers .code text + 1) o.slots.length
  /-- There are no other markers. -/
  count : markerCount m.sql = m.bindCount
  /-- The slots are the numbers up to the last, each once. -/
  slots : (m.owners segments).flatMap (·.slots) = List.range' 1 m.bindCount

theorem CompiledMethod.SlotsOwnMarkers.partition {m : CompiledMethod} {s : MethodScope}
    {before : List Char} {segments : List Segment} {after : List Char}
    (h : m.SlotsOwnMarkers s before segments after) :
    (m.parameterSlots ++ m.outSlots).Perm (List.range' 1 m.bindCount) := by
  have all := h.complete.flatMap_right (·.slots)
  rw [h.slots, List.flatMap_append, List.flatMap_map, List.flatMap_map] at all
  exact all.symm

namespace SlotMapping

variable (markers : List WideMarker) (o : SlotMapping)

theorem number_slots : (o.number markers).slots =
    WideMarker.slots markers o.wideMarker.slot o.wideMarker.width := rfl

theorem length_number_slots : (o.number markers).slots.length = o.wideMarker.width := by
  rw [number_slots, WideMarker.slots, List.length_range']

theorem number_group : (o.number markers).group = o.wideMarker.group := by
  unfold group WideMarker.group
  rw [length_number_slots]

end SlotMapping

namespace CompiledMethod

section

variable {m : CompiledMethod} {bracketed : Bool} {segments : List Segment} {before after : List Char}
  {mappings : List SlotMapping}

/-- Markers that are numbered and written out in the order of the template belong to the owners of
the slots. -/
theorem numbered_of_written (wf : Segment.WellFormed bracketed segments)
    (around : Template.Around before after)
    (noFalse : Segment.NoFalseComment (MethodScope.form m.kind) segments
      ((mappings.map (·.wideMarker)).map WideMarker.group))
    (numbered : WideMarker.Numbered 1 (mappings.map (·.wideMarker)))
    (length : mappings.length = (Segment.marks (MethodScope.form m.kind) segments).length)
    (sql : m.sql = String.ofList (before ++ Segment.layout (MethodScope.form m.kind) segments
      ((mappings.map (·.wideMarker)).map WideMarker.group) ++ after))
    {a b : List SlotMapping} {o : SlotMapping}
    (split : mappings.map (SlotMapping.number (mappings.map (·.wideMarker))) = a ++ o :: b) :
    ∃ front placeholder behind, segments = front ++ placeholder :: behind ∧
      (placeholder.mark? (MethodScope.form m.kind)).isSome = true ∧
      (Segment.marks (MethodScope.form m.kind) front).length = a.length ∧
      let text := before ++ Segment.layout (MethodScope.form m.kind) front (a.map SlotMapping.group)
      m.sql = String.ofList (text ++ o.group.text ++
        (Segment.layout (MethodScope.form m.kind) behind (b.map SlotMapping.group) ++ after)) ∧
      countMarkers .code (text ++ o.group.text) = countMarkers .code text + o.slots.length ∧
      o.slots = List.range' (countMarkers .code text + 1) o.slots.length := by
  obtain ⟨u, v, rfl, hu, hv⟩ := List.map_eq_append_iff.1 split
  obtain ⟨w, v, rfl, ho, hv⟩ := List.map_eq_cons_iff.1 hv
  simp only [List.map_append, List.map_cons] at *
  have groups (l l' : List SlotMapping)
      (h : l.map (SlotMapping.number (u.map (·.wideMarker) ++ w.wideMarker :: v.map (·.wideMarker))) = l') :
      l'.map SlotMapping.group = (l.map (·.wideMarker)).map WideMarker.group := by
    rw [← h, List.map_map, List.map_map]
    exact List.map_congr_left fun x _ => SlotMapping.number_group _ x
  have ga := groups u a hu
  have gb := groups v b hv
  have go : o.group = w.wideMarker.group := by rw [← ho]; exact SlotMapping.number_group _ w
  have more : ((u.map (·.wideMarker)).map WideMarker.group).length <
      (Segment.marks (MethodScope.form m.kind) segments).length := by
    rw [← length, List.length_map, List.length_map, List.length_append, List.length_cons]
    omega
  obtain ⟨front, taker, behind, hs, taken, hl, count, code, written⟩ :=
    Segment.layout_split w.wideMarker.group (.start wf noFalse)
      (WideMarker.plainGroups_map_group _) more
  have start : SqlMode.code.after before = .code := SqlMode.after_code around.code
  have textCount : countMarkers .code
      (before ++ Segment.layout (MethodScope.form m.kind) front (a.map SlotMapping.group)) =
        WideMarker.extent (u.map (·.wideMarker)) := by
    rw [ga, countMarkers_append, countMarkers_of_not_mem around.noMarkerBefore, start, count,
      WideMarker.sum_count_group]
    exact Nat.zero_add _
  refine ⟨front, taker, behind, hs, taken, ?_, ?_, ?_, ?_⟩
  · rw [hl, List.length_map, List.length_map, ← hu, List.length_map]
  · rw [sql, written, ga, gb, go]
    simp only [List.append_assoc]
  · rw [countMarkers_append]
    have inCode : (SqlMode.code.after (before ++ Segment.layout (MethodScope.form m.kind) front
        (a.map SlotMapping.group))).isCode = true := by
      rw [ga, SqlMode.after_append, start]
      exact code
    exact congrArg _ (joinedMarkers_in_code WideMarker.plain_separator.code o.slots.length inCode).1
  · rw [textCount, ← ho, SlotMapping.number_slots, WideMarker.slots_eq numbered,
      List.length_range', Nat.add_comm]

theorem markerCount_of_written (wf : Segment.WellFormed bracketed segments)
    (around : Template.Around before after)
    (noFalse : Segment.NoFalseComment (MethodScope.form m.kind) segments
      ((mappings.map (·.wideMarker)).map WideMarker.group))
    (length : mappings.length = (Segment.marks (MethodScope.form m.kind) segments).length)
    (sql : m.sql = String.ofList (before ++ Segment.layout (MethodScope.form m.kind) segments
      ((mappings.map (·.wideMarker)).map WideMarker.group) ++ after)) :
    markerCount m.sql = WideMarker.extent (mappings.map (·.wideMarker)) := by
  have start : SqlMode.code.after before = .code := SqlMode.after_code around.code
  have inside := Segment.countMarkers_layout (.start wf noFalse)
    (WideMarker.plainGroups_map_group (mappings.map (·.wideMarker)))
    (by rw [List.length_map, List.length_map, length])
  unfold markerCount
  rw [sql, String.toList_ofList, countMarkers_append, countMarkers_append,
    countMarkers_of_not_mem around.noMarkerBefore, countMarkers_of_not_mem around.noMarkerAfter,
    start, inside, WideMarker.sum_count_group]
  omega

end

end CompiledMethod

namespace MethodScope

section

variable {s : MethodScope} (interface method : String) {t : Template} (batch : Option Nat)
  (parameters : List ParameterBinding) {resolved : ResolvedResults} (plan : RowPlan)
  (returns : ReturnForm)

/-- Results of a method that is no select are OUT parameters, or there are none. -/
theorem results_assembled (mutation : s.kind ≠ .select)
    (hr : List.Forall₂ s.Reads t.results resolved.results)
    (none : s.kind.isMutation = true → t.results = []) :
    (s.assembled interface method t batch parameters resolved plan returns).results =
      resolved.results.map fun r =>
        { r with mapping := r.mapping.number (markersOf s.kind parameters resolved.results) } := by
  unfold assembled
  dsimp only
  by_cases call : s.kind = .call
  · rw [if_pos call]
  · have hm := StatementKind.isMutation_of_ne mutation call
    have empty : resolved.results = [] := by
      rw [none hm] at hr
      exact List.forall₂_nil_left_iff.1 hr
    rw [if_neg call, empty]
    rfl

/-- The mappings of these results are numbered. -/
theorem results_mappings (mutation : s.kind ≠ .select)
    (hr : List.Forall₂ s.Reads t.results resolved.results)
    (none : s.kind.isMutation = true → t.results = []) :
    (s.assembled interface method t batch parameters resolved plan returns).results.map (·.mapping) =
      (resolved.results.map (·.mapping)).map
        (SlotMapping.number (markersOf s.kind parameters resolved.results)) := by
  rw [results_assembled interface method batch parameters plan returns mutation hr none,
    List.map_map, List.map_map]
  rfl

/-- Numbering the mappings of a method in the order of its template gives its owners. -/
theorem owners_assembled (segments : List Segment) (mutation : s.kind ≠ .select)
    (hr : List.Forall₂ s.Reads t.results resolved.results)
    (none : s.kind.isMutation = true → t.results = []) :
    (s.assembled interface method t batch parameters resolved plan returns).owners segments =
      (interleave (Segment.marks (form s.kind) segments) (parameters.map (·.mapping))
        (resolved.results.map (·.mapping))).map
          (SlotMapping.number (markersOf s.kind parameters resolved.results)) := by
  have results := results_mappings interface method batch parameters plan returns mutation hr none
  have params : (s.assembled interface method t batch parameters resolved plan returns).parameters.map
      (·.mapping) = (parameters.map (·.mapping)).map
        (SlotMapping.number (markersOf s.kind parameters resolved.results)) := by
    unfold assembled
    dsimp only
    rw [List.map_map, List.map_map]
    rfl
  unfold CompiledMethod.owners
  rw [results, params, interleave_map]
  rfl

end

/-- A method that is no select has a mapping for every placeholder that takes a marker, and every
placeholder takes one. -/
theorem complete_of_resolved {s : MethodScope} {segments : List Segment}
    {parameters : List ParameterBinding} {results : List ResultReading} (mutation : s.kind ≠ .select)
    (hp : (Template.assemble (form s.kind) 0 0 segments).parameters.mapM s.parameter = .ok parameters)
    (hr : List.Forall₂ s.Reads (Template.assemble (form s.kind) 0 0 segments).results results)
    (none : s.kind.isMutation = true → (Template.assemble (form s.kind) 0 0 segments).results = []) :
    parameters.length = (Segment.marks (form s.kind) segments).count true ∧
    results.length = (Segment.marks (form s.kind) segments).count false ∧
    ∀ body meaning, .placeholder body meaning ∈ segments →
      ((Segment.placeholder body meaning).mark? (form s.kind)).isSome = true := by
  refine ⟨?_, ?_⟩
  · rw [← (mapM_eq_ok.1 hp).length_eq, Segment.assemble_parameters_length]
  · by_cases call : s.kind = .call
    · have hf : form s.kind = .call := if_pos call
      rw [← hr.length_eq, hf, Segment.assemble_results_length]
      refine ⟨rfl, fun body meaning _ => ?_⟩
      cases meaning <;> rfl
    · have hf : form s.kind = .plain := if_neg call
      have hm := StatementKind.isMutation_of_ne mutation call
      have empty := none hm
      rw [hf] at empty ⊢
      rw [← hr.length_eq, none hm]
      refine ⟨(List.count_eq_zero.2 fun hf => ?_).symm, fun body meaning hm => ?_⟩
      · exact absurd (Segment.marks_plain false hf) (by decide)
      · cases meaning with
        | parameter _ _ _ _ => rfl
        | result place tag => exact absurd hm (Segment.no_result_of_assemble empty)

/-- In an accepted method that is no select, markers belong to placeholders as slots do. -/
theorem compile_slotsOwnMarkers {s : MethodScope} {interface method template : String}
    {m : CompiledMethod} (mutation : s.kind ≠ .select)
    (h : s.compile interface method template = .ok m) :
    ∃ before segments after, Template.Cut (form s.kind) template before segments after ∧
      m.SlotsOwnMarkers s before segments after := by
  obtain ⟨t, batch, parameters, resolved, plan, returns, ht, -, hp, hr, -, -, rfl⟩ :=
    compile_eq_ok.1 h
  obtain ⟨before, segments, after, cut, rfl⟩ := Template.read_eq_ok.1 ht
  have around := cut.around
  have wf := cut.wellFormed
  obtain ⟨reads, none⟩ := results_reads hr
  have owners := owners_assembled interface method batch parameters plan returns segments mutation
    reads none
  have results := results_mappings interface method batch parameters plan returns mutation reads none
  obtain ⟨lengthP, lengthR, all⟩ := complete_of_resolved mutation hp reads none
  obtain ⟨eq, numbered, length⟩ := markersOf_eq hp reads
  have resolves := resolves_interleave hp reads
  -- in the order of the template
  obtain ⟨mappings, hm⟩ : ∃ mappings, mappings = interleave (Segment.marks (form s.kind) segments)
    (parameters.map (·.mapping)) (resolved.results.map (·.mapping)) := ⟨_, rfl⟩
  have markers : markersOf s.kind parameters resolved.results = mappings.map (·.wideMarker) := by
    rw [eq, hm, interleave_map, List.map_map, List.map_map]
    rfl
  rw [← hm] at owners resolves
  rw [markers] at numbered length owners
  rw [List.length_map] at length
  have noFalse (groups : List MarkerGroup) (h : ∀ g ∈ groups, g.count ≠ 0) :=
    Segment.noFalseComment_of_nonempty wf all h
  have wide : ∀ g ∈ (mappings.map (·.wideMarker)).map WideMarker.group, g.count ≠ 0 := by
    intro g hg
    obtain ⟨w, hw, rfl⟩ := List.mem_map.1 hg
    exact Nat.one_le_iff_ne_zero.1 (numbered.wide w hw)
  have sql : WideMarker.expand (markersOf s.kind parameters resolved.results)
      (String.ofList (before ++ Segment.layout (form s.kind) segments [] ++ after)) =
      String.ofList (before ++ Segment.layout (form s.kind) segments
        ((mappings.map (·.wideMarker)).map WideMarker.group) ++ after) := by
    rw [markers]
    exact WideMarker.expand_eq wf (countMarkers_of_not_mem around.noMarkerBefore _)
      (SqlMode.after_code around.code) noFalse numbered (by rw [List.length_map, length])
  have last : WideMarker.lastSlot (markersOf s.kind parameters resolved.results) =
      WideMarker.extent (mappings.map (·.wideMarker)) := by
    rw [markers, WideMarker.lastSlot_eq numbered]
  refine ⟨before, segments, after, cut, ?_, ?_, ?_, ?_, ?_⟩
  · refine interleave_perm ?_ ?_
    · rw [List.length_map]
      exact (List.length_map _).trans lengthP
    · rw [results, List.length_map, List.length_map]
      exact lengthR
  · rw [owners]
    exact List.forall₂_map_right_iff.2 (resolves.imp fun _ _ h => h.number _)
  · intro a o b split
    rw [owners] at split
    exact CompiledMethod.numbered_of_written wf around (noFalse _ wide) numbered length sql split
  · refine (CompiledMethod.markerCount_of_written wf around (noFalse _ wide) length sql).trans ?_
    exact last.symm
  · rw [owners]
    refine Eq.trans ?_ ((WideMarker.flatMap_slots numbered).trans (congrArg (List.range' 1) last.symm))
    rw [List.flatMap_map, List.flatMap_map]
    rfl

end MethodScope

end QueryMethods
