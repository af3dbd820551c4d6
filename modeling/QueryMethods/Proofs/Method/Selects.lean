/-
Accepted selects: the statement is the template laid out with the markers of the parameters, and
the slots of the parameters follow one another.
-/
import QueryMethods.Proofs.Method.Slots
import QueryMethods.Proofs.Template.Unrolling

namespace QueryMethods

open Sql

/-! ## Reading plain text -/

/-- A plain template that is read: it is scanned, and laid out with single markers. -/
theorem Template.read_plain_eq_ok {text : String} {t : Template} :
    read .plain text = .ok t ↔ ∃ segments, Segment.scan false 0 text.toList = .ok segments ∧
      t = ⟨String.ofList (Segment.layout .plain segments []),
        (assemble .plain 0 0 segments).parameters, (assemble .plain 0 0 segments).results⟩ := by
  have whole : read .plain text = readBetween .plain [] text.toList [] := rfl
  rw [whole]
  unfold readBetween
  rw [bind_eq_ok]
  refine exists_congr fun segments => and_congr Iff.rfl ?_
  dsimp only
  rw [Segment.assemble_text, List.nil_append, List.append_nil]
  exact ⟨fun h => (Except.ok.inj h).symm, fun h => congrArg _ h.symm⟩

/-- A template that is put together from segments is read. -/
theorem Template.read_of_wellFormed {segments : List Segment}
    (wf : Segment.WellFormed false segments) :
    ∃ t, read .plain (String.ofList (Segment.sources segments)) = .ok t ∧
      t.parameters.map (·.unplaced) = Segment.parameters segments ∧
      t.results = inColumns 0 (segments.filterMap Segment.result?) :=
  ⟨_, read_plain_eq_ok.2
      ⟨segments, by rw [String.toList_ofList]; exact Segment.scan_sources wf 0, rfl⟩,
    Segment.assemble_unplaced segments 0 0, Segment.assemble_results segments 0 0⟩

/-! ## Consecutive slots -/

/-- The slots of each mapping follow those of the one before it. -/
def SlotMapping.Consecutive : Nat → List SlotMapping → Prop
  | _, [] => True
  | first, o :: rest => o.slots = List.range' first o.slots.length ∧ 1 ≤ o.slots.length ∧
      Consecutive (first + o.slots.length) rest

theorem SlotMapping.Consecutive.firstSlot {first : Nat} {o : SlotMapping} {rest : List SlotMapping}
    (h : SlotMapping.Consecutive first (o :: rest)) : o.firstSlot = first := by
  obtain ⟨slots, some, -⟩ := h
  unfold SlotMapping.firstSlot
  rw [slots]
  cases hl : o.slots.length with
  | zero => omega
  | succ n => rfl

/-- Numbered mappings have consecutive slots. -/
theorem WideMarker.consecutive_number (a : List WideMarker) : ∀ os : List SlotMapping,
    WideMarker.Numbered 1 (a ++ os.map (·.wideMarker)) →
    SlotMapping.Consecutive (1 + WideMarker.extent a)
      (os.map (SlotMapping.number (a ++ os.map (·.wideMarker))))
  | [], _ => trivial
  | o :: rest, h => by
    have eq : a ++ (o :: rest).map (·.wideMarker) = (a ++ [o.wideMarker]) ++ rest.map (·.wideMarker) := by
      simp
    have ih := consecutive_number (a ++ [o.wideMarker]) rest (eq ▸ h)
    rw [← eq] at ih
    obtain ⟨-, -, wide, -⟩ := h.split
    have slots : (o.number (a ++ (o :: rest).map (·.wideMarker))).slots =
        List.range' (1 + WideMarker.extent a) o.wideMarker.width := WideMarker.slots_eq h
    have length := congrArg List.length slots
    rw [List.length_range'] at length
    refine ⟨by rw [length, slots], by rw [length]; exact wide, ?_⟩
    rw [length]
    simpa [Nat.add_assoc] using ih

/-- Writing out the wide values of a template without placeholders behind slashes. -/
theorem WideMarker.expand_plain {bracketed : Bool} {segments : List Segment}
    (wf : Segment.WellFormed bracketed segments) (free : Segment.slashFree segments = true)
    {markers : List WideMarker} (numbered : WideMarker.Numbered 1 markers)
    (length : markers.length = (Segment.marks .plain segments).length) :
    WideMarker.expand markers (String.ofList (Segment.layout .plain segments [])) =
      String.ofList (Segment.layout .plain segments (markers.map WideMarker.group)) := by
  have noFalse (groups : List MarkerGroup) (_ : ∀ g ∈ groups, g.count ≠ 0) :
      Segment.NoFalseComment .plain segments groups :=
    Segment.noFalseComment_of_slashFree wf free groups
  have written : WideMarker.expand markers
      (String.ofList ([] ++ Segment.layout .plain segments [] ++ [])) =
        String.ofList ([] ++ Segment.layout .plain segments (markers.map WideMarker.group) ++ []) :=
    WideMarker.expand_eq wf rfl rfl noFalse numbered length
  simpa using written

/-! ## Unnumbered parameters -/

/-- A parameter before it is numbered. -/
def ParameterBinding.unplaced (b : ParameterBinding) : ParameterBinding :=
  { b with mapping := { b.mapping with slots := [0] } }

namespace MethodScope

theorem parameter_unplaced (s : MethodScope) (p : Template.Parameter) :
    s.parameter p.unplaced = (s.parameter p).map ParameterBinding.unplaced := by
  unfold parameter
  show s.argument p.argument >>= _ = _
  cases s.argument p.argument with
  | error e => rfl
  | ok found =>
    show s.follow found.2.element p.path >>= _ = Except.map _ (s.follow found.2.element p.path >>= _)
    cases s.follow found.2.element p.path with
    | error e => rfl
    | ok w =>
      show s.conversionFor p.tag w.type >>= _ = Except.map _ (s.conversionFor p.tag w.type >>= _)
      cases s.conversionFor p.tag w.type <;> rfl

theorem parameter_unplaced_eq_ok {s : MethodScope} {p : Template.Parameter} {b : ParameterBinding} :
    s.parameter p.unplaced = .ok b ↔ ∃ c, s.parameter p = .ok c ∧ c.unplaced = b := by
  rw [parameter_unplaced]
  cases s.parameter p with
  | error e =>
    constructor
    · intro h
      cases h
    · rintro ⟨c, h, -⟩
      cases h
  | ok c =>
    constructor
    · intro h
      cases h
      exact ⟨c, rfl, rfl⟩
    · rintro ⟨d, h, rfl⟩
      cases h
      rfl

/-- What parameters resolve to does not depend on their markers. -/
theorem parameters_eq_ok {s : MethodScope} {ps : List Template.Parameter}
    {bs : List ParameterBinding} :
    List.Forall₂ (fun p b => s.parameter p = .ok b) (ps.map (·.unplaced)) bs ↔
      ∃ parameters, ps.mapM s.parameter = .ok parameters ∧ parameters.map (·.unplaced) = bs := by
  simp only [List.forall₂_map_left_iff, parameter_unplaced_eq_ok, forall₂_exists, mapM_eq_ok]

end MethodScope

/-! ## Accepted selects -/

namespace CompiledMethod

/-- What an accepted select consists of, given its template. -/
structure Selects (m : CompiledMethod) (s : MethodScope) (segments : List Segment) : Prop where
  kind : m.kind = .select
  wellFormed : Segment.WellFormed false segments
  slashFree : Segment.slashFree segments = true
  sql : m.sql = String.ofList
    (Segment.layout .plain segments (m.parameters.map (·.mapping.group)))
  consecutive : SlotMapping.Consecutive 1 (m.parameters.map (·.mapping))
  /-- A list has one marker until its values are known. -/
  widths : ∀ p ∈ m.parameters, p.mapping.slots.length =
    if p.mapping.iteration = .single then p.mapping.conversion.width else 1
  resolved : List.Forall₂ (fun p b => s.parameter p = .ok b) (Segment.parameters segments)
    (m.parameters.map (·.unplaced))

theorem Selects.all {m : CompiledMethod} {s : MethodScope} {segments : List Segment}
    (selects : m.Selects s segments) :
    m.parameters.length = (Segment.parameters segments).length := by
  rw [selects.resolved.length_eq, List.length_map]

end CompiledMethod

namespace MethodScope

variable {s : MethodScope} {interface method template : String} {m : CompiledMethod}
  {segments : List Segment}

/-- The parameters of an accepted select are those of its template. -/
theorem compile_parameters (select : s.kind = .select)
    (scanned : Segment.scan false 0 template.toList = .ok segments)
    (h : s.compile interface method template = .ok m) :
    List.Forall₂ (fun p b => s.parameter p = .ok b) (Segment.parameters segments)
      (m.parameters.map (·.unplaced)) := by
  obtain ⟨t, batch, parameters, resolved, plan, returns, ht, -, hp, -, -, -, rfl⟩ :=
    compile_eq_ok.1 h
  rw [select] at ht
  obtain ⟨segments', hs, rfl⟩ := Template.read_plain_eq_ok.1 ht
  cases scanned.symm.trans hs
  rw [← Segment.assemble_unplaced segments 0 0]
  refine parameters_eq_ok.2 ⟨parameters, hp, ?_⟩
  show _ = (parameters.map _).map _
  rw [List.map_map]
  rfl

/-- The markers of a statement that is no call are those of its parameters, numbered in the order of
the text. -/
theorem plain_numbered (noCall : s.kind ≠ .call)
    {parameters : List ParameterBinding} {results : List ResultReading}
    (hp : (Template.assemble .plain 0 0 segments).parameters.mapM s.parameter = .ok parameters)
    (hr : List.Forall₂ s.Reads (Template.assemble .plain 0 0 segments).results results) :
    let markers := (parameters.map (·.mapping)).map (·.wideMarker)
    markersOf s.kind parameters results = markers ∧ WideMarker.Numbered 1 markers ∧
      markers.length = (Segment.marks .plain segments).length := by
  intro markers
  have plain : form s.kind = .plain := if_neg noCall
  have same : markersOf s.kind parameters results = markers := by
    unfold markersOf
    rw [if_neg noCall]
    show _ = (parameters.map (·.mapping)).map (·.wideMarker)
    rw [List.map_map]
    rfl
  have numbered := markersOf_eq (by rw [plain]; exact hp) (by rw [plain]; exact hr)
  rw [same, plain] at numbered
  exact ⟨same, numbered.2⟩

/-- A parameter has a slot for each value of an element, or one marker until its list is known. -/
theorem compile_slots_length (h : s.compile interface method template = .ok m) :
    ∀ p ∈ m.parameters, p.mapping.slots.length =
      if p.mapping.iteration = .single then p.mapping.conversion.width else 1 := by
  obtain ⟨t, batch, parameters, resolved, plan, returns, -, -, -, -, -, -, rfl⟩ := compile_eq_ok.1 h
  exact List.forall_mem_map.2 fun p _ => p.mapping.length_number_slots _

/-- The slots of an accepted statement that is no call follow one another. A list of a select has
one of them until its values are known. -/
theorem compile_consecutive_plain (noCall : s.kind ≠ .call)
    (h : s.compile interface method template = .ok m) :
    SlotMapping.Consecutive 1 (m.parameters.map (·.mapping)) ∧
      ∀ p ∈ m.parameters, p.mapping.slots.length =
        if p.mapping.iteration = .single then p.mapping.conversion.width else 1 := by
  refine ⟨?_, compile_slots_length h⟩
  obtain ⟨t, batch, parameters, resolved, plan, returns, ht, -, hp, hr, -, -, rfl⟩ :=
    compile_eq_ok.1 h
  rw [show form s.kind = .plain from if_neg noCall] at ht
  obtain ⟨segments, -, read⟩ := Template.read_plain_eq_ok.1 ht
  have reads := (results_reads hr).1
  rw [read] at hp reads
  obtain ⟨markers, numbered, -⟩ := plain_numbered noCall hp reads
  have placed : (s.assembled interface method t batch parameters resolved plan returns).parameters =
      parameters.map fun p =>
        { p with mapping := p.mapping.number (markersOf s.kind parameters resolved.results) } := rfl
  have consecutive := WideMarker.consecutive_number [] _ numbered
  rw [List.nil_append, List.map_map] at consecutive
  rw [placed, markers, List.map_map]
  exact consecutive

theorem compile_consecutive (select : s.kind = .select)
    (h : s.compile interface method template = .ok m) :
    SlotMapping.Consecutive 1 (m.parameters.map (·.mapping)) ∧
      ∀ p ∈ m.parameters, p.mapping.slots.length =
        if p.mapping.iteration = .single then p.mapping.conversion.width else 1 :=
  compile_consecutive_plain (by rw [select]; decide) h

theorem compile_selects (select : s.kind = .select) (free : Segment.slashFree segments = true)
    (scanned : Segment.scan false 0 template.toList = .ok segments)
    (h : s.compile interface method template = .ok m) : m.Selects s segments := by
  have resolves := compile_parameters select scanned h
  obtain ⟨consecutive, widths⟩ := compile_consecutive select h
  obtain ⟨t, batch, parameters, resolved, plan, returns, ht, -, hp, hr, -, -, rfl⟩ :=
    compile_eq_ok.1 h
  rw [select] at ht
  obtain ⟨segments', hs, read⟩ := Template.read_plain_eq_ok.1 ht
  cases scanned.symm.trans hs
  have wf := (Segment.scan_sound hs).1
  have reads := (results_reads hr).1
  rw [read] at hp reads
  have text : t.sql = String.ofList (Segment.layout .plain segments []) := by rw [read]
  obtain ⟨markers, numbered, length⟩ := plain_numbered (by rw [select]; decide) hp reads
  refine ⟨select, wf, free, ?_, consecutive, widths, resolves⟩
  have groups : (s.assembled interface method t batch parameters resolved plan
      returns).parameters.map (·.mapping.group) =
        ((parameters.map (·.mapping)).map (·.wideMarker)).map WideMarker.group := by
    unfold assembled
    dsimp only
    generalize markersOf s.kind parameters resolved.results = ws
    rw [List.map_map, List.map_map, List.map_map]
    exact List.map_congr_left fun p _ => SlotMapping.number_group _ p.mapping
  rw [groups, ← WideMarker.expand_plain wf free numbered length, ← markers, ← text]
  rfl

end MethodScope

namespace MethodDeclaration

/-- The segments of the template, read as plain text. -/
def segments (d : MethodDeclaration) : List Segment :=
  match Segment.scan false 0 d.template.toList with
  | .ok segments => segments
  | .error _ => []

theorem scan_segments {d : MethodDeclaration} {catalog : Catalog} {adapters : AdapterTable}
    {interface : String} {m : CompiledMethod} (select : d.kind = .select)
    (h : d.compile catalog adapters interface = .ok m) :
    Segment.scan false 0 d.template.toList = .ok d.segments := by
  obtain ⟨t, -, -, -, -, -, ht, -⟩ := MethodScope.compile_eq_ok.1 (mapError_eq_ok.1 h)
  dsimp only at ht
  rw [select] at ht
  obtain ⟨segments, hs, -⟩ := Template.read_plain_eq_ok.1 ht
  unfold MethodDeclaration.segments
  rw [hs]

end MethodDeclaration

end QueryMethods
