/-
Unrolling a list does not show: a select that takes a list runs like the one that takes its
elements one by one. It prepares the same statement, binds the same values to the same slots and
ends the same way, whatever the database does.
-/
import QueryMethods.Proofs.Execution.Selects
import QueryMethods.Proofs.Method.Unrolling

namespace QueryMethods

open Sql

/-! ## Filled parameters -/

namespace FilledParameter

/-- A filled parameter before it is numbered. -/
def unplaced (e : FilledParameter) : FilledParameter := ⟨e.parameter.unplaced, e.values⟩

/-- Each value in a parameter of its own, for the arguments from `first` on. -/
def singles (b : ParameterBinding) : Nat → List Value → List FilledParameter
  | _, [] => []
  | first, v :: rest => ⟨b.single first, [v]⟩ :: singles b (first + 1) rest

/-- The filled parameters that a filled parameter for the list unrolls to. -/
def unroll (position first : Nat) (e : FilledParameter) : List FilledParameter :=
  if e.parameter.argument = position then singles e.parameter first e.values else [e]

end FilledParameter

/-- A parameter that can be unrolled: its argument is given, and if it takes the list, it takes
its elements in a slot each. -/
structure ParameterBinding.Unrollable (position arguments : Nat) (b : ParameterBinding) : Prop where
  given : b.argument < arguments
  iterated : b.argument = position → b.isIterated = true
  narrow : b.argument = position → b.mapping.conversion.width = 1

namespace ParameterBinding

theorem mem_unroll {position first count : Nat} {b c : ParameterBinding}
    (h : c ∈ b.unroll position first count) : c = b ∨ c.isIterated = false := by
  unfold unroll at h
  split at h
  · obtain ⟨k, -, rfl⟩ := List.mem_map.1 h
    exact .inr rfl
  · exact .inl (List.mem_singleton.1 h)

/-! ## Encoding -/

theorem encodeElements_unplaced (b : ParameterBinding) : ∀ items : List Bindable,
    b.unplaced.encodeElements items = b.encodeElements items
  | [] => rfl
  | item :: rest => by
    unfold encodeElements
    rw [encodeElements_unplaced b rest]
    rfl

/-- What a parameter encodes to does not depend on its slots. -/
theorem encode_unplaced (b : ParameterBinding) (source : Bindable) :
    b.unplaced.encode source = b.encode source := by
  unfold encode
  simp only [encodeElements_unplaced]
  rfl

theorem encodeElements_length {b : ParameterBinding} : ∀ {items : List Bindable}
    {values : List Value}, b.encodeElements items = .ok values →
    values.length = items.length * b.mapping.conversion.width
  | [], _, h => by
    cases h
    exact (Nat.zero_mul _).symm
  | item :: rest, _, h => by
    unfold encodeElements at h
    obtain ⟨first, hf, h⟩ := bind_eq_ok.1 h
    obtain ⟨others, ho, h⟩ := bind_eq_ok.1 h
    cases h
    rw [List.length_append, encodeElement_length hf, encodeElements_length ho, List.length_cons,
      Nat.succ_mul, Nat.add_comm]

end ParameterBinding

namespace CompiledMethod

variable {m : CompiledMethod} {args items : List Bindable} {b : ParameterBinding}

theorem encodeParameter_given {source : Bindable} (h : args[b.argument]? = some source) :
    m.encodeParameter args none b =
      ((b.encode source).mapError QueryFailure.conversion).map (FilledParameter.mk b) := by
  refine encodeParameter_eq ?_
  unfold source?
  rw [Option.none_or, ite_self, h]

theorem encodeParameter_unplaced (b : ParameterBinding) :
    m.encodeParameter args none b.unplaced =
      (m.encodeParameter args none b).map FilledParameter.unplaced := by
  unfold encodeParameter
  dsimp only
  rw [show b.unplaced.argument = b.argument from rfl]
  cases args[b.argument]? with
  | none => rfl
  | some source =>
    dsimp only
    rw [ParameterBinding.encode_unplaced]
    cases b.encode source <;> rfl

/-- The elements of a list are encoded the same when each is an argument of its own. -/
theorem mapM_single (narrow : b.mapping.conversion.width = 1) : ∀ (items : List Bindable)
    (first : Nat), (∀ k < items.length, args[first + k]? = items[k]?) →
    ((List.range' first items.length).map b.single).mapM (m.encodeParameter args none) =
      ((b.encodeElements items).mapError QueryFailure.conversion).map (FilledParameter.singles b first)
  | [], _, _ => rfl
  | item :: rest, first, given => by
    have ih := mapM_single narrow rest (first + 1) fun k hk => by
      rw [Nat.add_right_comm]
      exact given (k + 1) (Nat.succ_lt_succ hk)
    have one : m.encodeParameter args none (b.single first) =
        ((b.encodeElement item).mapError QueryFailure.conversion).map
          (FilledParameter.mk (b.single first)) :=
      encodeParameter_given (given 0 (Nat.succ_pos _))
    rw [List.length_cons, List.range'_succ, List.map_cons, List.mapM_cons, one, ih,
      ParameterBinding.encodeElements]
    cases hv : b.encodeElement item with
    | error e => rfl
    | ok values =>
      -- an element has one value, which is all that its own parameter is filled with
      obtain ⟨v, rfl⟩ := List.length_eq_one_iff.1
        ((ParameterBinding.encodeElement_length hv).trans narrow)
      cases b.encodeElements rest <;> rfl

section

variable {position : Nat} (listed : args[position]? = some (.list items))

include listed

/-- An unrolled parameter is filled with the values of the list, or fails like the list. -/
theorem mapM_unroll (unrollable : b.Unrollable position args.length) :
    (b.unroll position args.length items.length).mapM (m.encodeParameter (args ++ items) none) =
      (m.encodeParameter args none b).map (FilledParameter.unroll position args.length) := by
  obtain ⟨given, iterated, narrow⟩ := unrollable
  unfold ParameterBinding.unroll
  by_cases h : b.argument = position
  · have elements : b.encode (.list items) = b.encodeElements items :=
      if_neg (of_decide_eq_true (iterated h))
    have behind (k : Nat) (_ : k < items.length) :
        (args ++ items)[args.length + k]? = items[k]? := by
      rw [List.getElem?_append_right (Nat.le_add_right _ k), Nat.add_sub_cancel_left]
    rw [if_pos h, mapM_single (narrow h) items _ behind, encodeParameter_given (h ▸ listed), elements]
    cases b.encodeElements items with
    | error e => rfl
    | ok values =>
      have all : FilledParameter.unroll position args.length ⟨b, values⟩ =
          FilledParameter.singles b args.length values := if_pos h
      show Except.ok _ = Except.ok _
      rw [all]
  · have same : m.encodeParameter (args ++ items) none b = m.encodeParameter args none b := by
      unfold encodeParameter
      dsimp only
      rw [List.getElem?_append_left given]
    rw [if_neg h, List.mapM_cons, same]
    cases he : m.encodeParameter args none b with
    | error e => rfl
    | ok e =>
      have alone : FilledParameter.unroll position args.length e = [e] :=
        if_neg ((encodeParameter_eq_ok he).1 ▸ h)
      show Except.ok [e] = Except.ok _
      rw [alone]

theorem mapM_flatMap_unroll : ∀ {bs : List ParameterBinding},
    (∀ b ∈ bs, b.Unrollable position args.length) →
    (bs.flatMap (ParameterBinding.unroll position args.length items.length)).mapM
        (m.encodeParameter (args ++ items) none) =
      (bs.mapM (m.encodeParameter args none)).map
        (·.flatMap (FilledParameter.unroll position args.length))
  | [], _ => rfl
  | b :: bs, unrollable => by
    obtain ⟨first, others⟩ := List.forall_mem_cons.1 unrollable
    rw [List.flatMap_cons, List.mapM_append, mapM_unroll listed first, mapM_flatMap_unroll others,
      List.mapM_cons]
    cases m.encodeParameter args none b with
    | error e => rfl
    | ok e => cases bs.mapM (m.encodeParameter args none) <;> rfl

end

/-- The slots of parameters do not matter to their values. -/
theorem mapM_unplaced : ∀ bs : List ParameterBinding,
    (bs.map (·.unplaced)).mapM (m.encodeParameter args none) =
      (bs.mapM (m.encodeParameter args none)).map (·.map (·.unplaced))
  | [] => rfl
  | b :: bs => by
    rw [List.map_cons, List.mapM_cons, List.mapM_cons, encodeParameter_unplaced, mapM_unplaced bs]
    cases m.encodeParameter args none b with
    | error e => rfl
    | ok e => cases bs.mapM (m.encodeParameter args none) <;> rfl

section

variable {m' : CompiledMethod} {position : Nat}
  (unrolled : m.Unrolled m' position args.length items.length)
  (listed : args[position]? = some (.list items))
  (unrollable : ∀ b ∈ m.parameters, b.Unrollable position args.length)

include unrolled listed unrollable

/-- The arguments of an unrolled method are encoded to the unrolled values of the method. -/
theorem Unrolled.encode : (m'.encode (args ++ items) none).map (·.map (·.unplaced)) =
    (m.encode args none).map fun es =>
      (es.map (·.unplaced)).flatMap (FilledParameter.unroll position args.length) := by
  have same : m'.encodeParameter (args ++ items) none = m.encodeParameter (args ++ items) none := by
    rw [unrolled.same]
    rfl
  unfold CompiledMethod.encode
  rw [← mapM_unplaced, unrolled.parameters, same, mapM_flatMap_unroll listed, mapM_unplaced]
  · cases m.parameters.mapM (m.encodeParameter args none) <;> rfl
  · refine List.forall_mem_map.2 fun b hb => ?_
    obtain ⟨given, iterated, narrow⟩ := unrollable b hb
    exact ⟨given, iterated, narrow⟩

theorem Unrolled.encode_ok {es : List FilledParameter} (h : m.encode args none = .ok es) :
    ∃ es', m'.encode (args ++ items) none = .ok es' ∧ es'.map (·.unplaced) =
      (es.map (·.unplaced)).flatMap (FilledParameter.unroll position args.length) := by
  have both := unrolled.encode listed unrollable
  rw [h] at both
  cases h' : m'.encode (args ++ items) none with
  | error e => rw [h'] at both; cases both
  | ok es' => rw [h'] at both; exact ⟨es', rfl, Except.ok.inj both⟩

theorem Unrolled.encode_error {e : QueryFailure} (h : m.encode args none = .error e) :
    m'.encode (args ++ items) none = .error e := by
  have both := unrolled.encode listed unrollable
  rw [h] at both
  cases h' : m'.encode (args ++ items) none with
  | error e' => rw [h'] at both; exact both
  | ok es' => rw [h'] at both; cases both

end

end CompiledMethod

namespace FilledParameter

/-! ## The same values -/

theorem nullType_narrow {types : List SlotType} (h : types.length = 1) (index : Nat) :
    nullType types index = nullType types 0 := by
  unfold nullType
  rw [h]
  simp [Nat.mod_one]

theorem typed_narrow {types : List SlotType} (h : types.length = 1) : ∀ (values : List Value)
    (index : Nat), typed types index values = values.map fun v => (v, nullType types 0)
  | [], _ => rfl
  | v :: rest, index => by
    rw [typed, typed_narrow h rest, nullType_narrow h, List.map_cons]

theorem bound_singles {b : ParameterBinding} (narrow : b.mapping.conversion.width = 1) :
    ∀ (values : List Value) (first : Nat), (singles b first values).flatMap bound =
      typed b.mapping.conversion.slotTypes 0 values
  | [], _ => rfl
  | v :: rest, first => by
    have one := (Conversion.width_eq _).symm.trans narrow
    rw [singles, List.flatMap_cons, bound_singles narrow rest, typed_narrow one, typed_narrow one]
    rfl

/-- Unrolling does not change the values that are bound, nor their order. -/
theorem bound_unroll {position arguments first : Nat} {e : FilledParameter}
    (unrollable : e.parameter.Unrollable position arguments) :
    (e.unroll position first).flatMap bound = e.bound := by
  unfold unroll
  by_cases h : e.parameter.argument = position
  · rw [if_pos h]
    exact bound_singles (unrollable.narrow h) e.values first
  · rw [if_neg h, List.flatMap_singleton]

/-! ## The same statement -/

theorem written_singles (b : ParameterBinding) : ∀ (values : List Value) (first : Nat),
    ((singles b first values).map written).length = values.length ∧
      ∀ g ∈ (singles b first values).map written, g.count = 1
  | [], _ => ⟨rfl, List.forall_mem_nil _⟩
  | v :: rest, first => by
    obtain ⟨length, ones⟩ := written_singles b rest (first + 1)
    exact ⟨congrArg (· + 1) length, List.forall_mem_cons.2 ⟨written_count _, ones⟩⟩

section

variable {s : MethodScope} {position arguments : Nat} (first : Nat) {names : List String}

/-- The markers of a list are the markers of the parameters it unrolls to. -/
theorem unrolls_unroll {p : Template.Parameter} {e : FilledParameter}
    (resolved : s.parameter p = .ok e.parameter)
    (unrollable : e.parameter.Unrollable position arguments)
    (count : e.parameter.argument = position → e.values.length = names.length) :
    Segment.Unrolls (s.signature.listed position) names p e.written
      ((e.unroll position first).map written) := by
  have listed := MethodScope.parameter_listed resolved position
  unfold Segment.Unrolls unroll
  by_cases h : e.parameter.argument = position
  · have separator : e.parameter.separator = p.separator := MethodScope.parameter_separator resolved
    obtain ⟨length, ones⟩ := written_singles e.parameter e.values first
    rw [if_pos (listed.2 h), if_pos h]
    refine ⟨?_, length.trans (count h), ones⟩
    unfold written
    rw [if_pos (unrollable.iterated h), separator, count h]
  · rw [if_neg (mt listed.1 h), if_neg h]
    rfl

theorem unrolls_all : ∀ {ps : List Template.Parameter} {es : List FilledParameter},
    List.Forall₂ (fun p b => s.parameter p = .ok b) ps (es.map (·.parameter)) →
    (∀ e ∈ es, e.parameter.Unrollable position arguments) →
    (∀ e ∈ es, e.parameter.argument = position → e.values.length = names.length) →
    List.Forall₂ (fun p unit =>
        Segment.Unrolls (s.signature.listed position) names p unit.1 unit.2)
      ps (es.map fun e => (e.written, (e.unroll position first).map written))
  | _, [], h, _, _ => by
    cases h
    exact .nil
  | _, e :: es, h, unrollable, counts => by
    obtain ⟨fit, others⟩ := List.forall_mem_cons.1 unrollable
    obtain ⟨count, rest⟩ := List.forall_mem_cons.1 counts
    cases h with
    | cons hp hps => exact .cons (unrolls_unroll first hp fit count) (unrolls_all hps others rest)

end

section

variable {s : MethodScope} {position arguments first : Nat} {names : List String}
  {es es' : List FilledParameter}
  (unrolled : es'.map (·.unplaced) = (es.map (·.unplaced)).flatMap (unroll position first))
  (unrollable : ∀ e ∈ es, e.parameter.Unrollable position arguments)

include unrolled unrollable

theorem bound_unrolled : es'.flatMap bound = es.flatMap bound := by
  have values (es : List FilledParameter) : es.flatMap bound = (es.map (·.unplaced)).flatMap bound := by
    rw [List.flatMap_map]
    rfl
  rw [values es', unrolled, List.flatMap_assoc, List.flatMap_map]
  refine List.flatMap_congr fun e he => ?_
  obtain ⟨given, iterated, narrow⟩ := unrollable e he
  have fit : e.unplaced.parameter.Unrollable position arguments := ⟨given, iterated, narrow⟩
  exact bound_unroll fit

theorem layout_unrolled {segments : List Segment}
    (resolved : List.Forall₂ (fun p b => s.parameter p = .ok b) (Segment.parameters segments)
      (es.map (·.parameter.unplaced)))
    (counts : ∀ e ∈ es, e.parameter.argument = position → e.values.length = names.length) :
    Segment.layout .plain (Segment.unrolled (s.signature.listed position) names segments)
        (es'.map written) =
      Segment.layout .plain segments (es.map written) := by
  have groups (es : List FilledParameter) : es.map written = (es.map (·.unplaced)).map written := by
    rw [List.map_map]
    rfl
  have resolved' : List.Forall₂ (fun p b => s.parameter p = .ok b) (Segment.parameters segments)
      ((es.map (·.unplaced)).map (·.parameter)) := by
    rw [List.map_map]
    exact resolved
  have all := unrolls_all first resolved'
    (List.forall_mem_map.2 fun e he => ⟨(unrollable e he).given, (unrollable e he).iterated,
      (unrollable e he).narrow⟩)
    (List.forall_mem_map.2 counts)
  have laid := Segment.layout_unrolled segments all
  rw [List.flatMap_map, List.map_map] at laid
  rw [groups es', unrolled, List.map_flatMap, groups es]
  exact laid

end

end FilledParameter

namespace CompiledMethod

/-! ## Whole calls -/

section

variable {m : CompiledMethod} {args items : List Bindable} {es : List FilledParameter}
  {position : Nat}

/-- A list is filled with one value for each element. -/
theorem encode_counts (filled : m.encode args none = .ok es)
    (listed : args[position]? = some (.list items))
    (unrollable : ∀ b ∈ m.parameters, b.Unrollable position args.length) :
    ∀ e ∈ es, e.parameter.argument = position → e.values.length = items.length := by
  intro e he h
  obtain ⟨b, hb, filled⟩ := exists_of_forall₂ (mapM_eq_ok.1 filled) he
  obtain ⟨given, iterated, narrow⟩ := unrollable b hb
  obtain ⟨rfl, -⟩ := encodeParameter_eq_ok filled
  have elements : e.parameter.encode (.list items) = e.parameter.encodeElements items :=
    if_neg (of_decide_eq_true (iterated h))
  rw [encodeParameter_given (h ▸ listed), elements] at filled
  cases hv : e.parameter.encodeElements items with
  | error error => rw [hv] at filled; cases filled
  | ok values =>
    rw [hv] at filled
    have same : FilledParameter.mk e.parameter values = e := Except.ok.inj filled
    have length := ParameterBinding.encodeElements_length hv
    rw [narrow h, Nat.mul_one] at length
    rw [← same]
    exact length

/-- The lists that are left in an unrolled method have the separators they had. -/
theorem Unrolled.separators {m' : CompiledMethod} {first count : Nat}
    (unrolled : m.Unrolled m' position first count)
    (plain : ∀ p ∈ m.parameters, p.isIterated = true → IsPlainSeparator p.separator.toList) :
    ∀ p ∈ m'.parameters, p.isIterated = true → IsPlainSeparator p.separator.toList := by
  intro c hc iterated
  have mem : c.unplaced ∈ m'.parameters.map (·.unplaced) := List.mem_map_of_mem hc
  rw [unrolled.parameters] at mem
  obtain ⟨b', hb', mem⟩ := List.mem_flatMap.1 mem
  obtain ⟨b, hb, rfl⟩ := List.mem_map.1 hb'
  rcases ParameterBinding.mem_unroll mem with same | single
  · have separator : c.separator = b.separator := (congrArg ParameterBinding.separator same :)
    have kind : c.isIterated = b.isIterated := (congrArg ParameterBinding.isIterated same :)
    rw [separator]
    exact plain b hb (kind ▸ iterated)
  · cases iterated.symm.trans single

end

variable {m m' : CompiledMethod} {s s' : MethodScope} {segments : List Segment} {position : Nat}
  {a : Argument}

/-- The parameters of an accepted select can be unrolled. -/
theorem Selects.unrollable (selects : m.Selects s segments) (select : s.kind = .select)
    (ha : s.signature.arguments[position]? = some a) (several : a.hasElements = true)
    (narrow : ∀ p ∈ m.parameters, p.argument = position → p.mapping.conversion.width = 1) :
    ∀ p ∈ m.parameters, p.Unrollable position s.signature.arguments.length := by
  intro b hb
  obtain ⟨p, -, hp⟩ := exists_of_forall₂ selects.resolved (List.mem_map_of_mem hb)
  obtain ⟨position', a', w, c, ha', -, -, eq⟩ := MethodScope.parameter_eq_ok.1 hp
  obtain ⟨-, found⟩ := MethodScope.argument_eq_ok.1 ha'
  have argument : b.argument = position' := congrArg ParameterBinding.argument eq
  have iteration : b.mapping.iteration = a'.shape :=
    (congrArg (·.mapping.iteration) eq :).trans (if_pos select)
  refine ⟨?_, fun at_position => ?_, narrow b hb⟩
  · rw [argument]
    exact (List.getElem?_eq_some_iff.1 found).1
  · rw [← argument, at_position] at found
    cases ha.symm.trans found
    unfold ParameterBinding.isIterated
    rw [iteration]
    exact several

/-- An unrolled select runs like the select. -/
theorem Unrolled.select_eq {args items : List Bindable} {names : List String}
    (unrolled : m.Unrolled m' position args.length items.length) (selects : m.Selects s segments)
    (selects' : m'.Selects s' (Segment.unrolled (s.signature.listed position) names segments))
    (unrollable : ∀ p ∈ m.parameters, p.Unrollable position args.length)
    (plain : ∀ p ∈ m.parameters, p.isIterated = true → IsPlainSeparator p.separator.toList)
    (listed : args[position]? = some (.list items)) (count : items.length = names.length)
    (small : ∀ es, m.encode args none = .ok es → FilledParameter.total es < 2 ^ 63)
    (i : CallContext) : m'.select i (args ++ items) = m.select i args := by
  cases filled : m.encode args none with
  | error e =>
    have failed := unrolled.encode_error listed unrollable filled
    rw [select_refused filled, select_refused failed]
  | ok es =>
    obtain ⟨es', filled', values⟩ := unrolled.encode_ok listed unrollable filled
    obtain ⟨parameters, -⟩ := encode_eq_ok filled
    have unrollable' : ∀ e ∈ es, e.parameter.Unrollable position args.length := fun e he =>
      unrollable _ (parameters ▸ List.mem_map_of_mem he)
    have bound := FilledParameter.bound_unrolled values unrollable'
    have total : FilledParameter.total es' = FilledParameter.total es := by
      rw [← FilledParameter.length_bound, bound, FilledParameter.length_bound]
    have resolved := selects.resolved
    rw [← parameters, List.map_map] at resolved
    have counts := encode_counts filled listed unrollable
    rw [count] at counts
    have text := FilledParameter.layout_unrolled values unrollable' resolved counts
    have read : m'.selected = m.selected := (congrArg CompiledMethod.selected unrolled.same :)
    have bounded := small es filled
    rw [selects.select_eq plain filled bounded,
      selects'.select_eq (unrolled.separators plain) filled' (total ▸ bounded), read, bound, text]

end CompiledMethod

namespace MethodDeclaration

variable {d : MethodDeclaration} {catalog : Catalog} {adapters : AdapterTable}
  {interface : String} {m : CompiledMethod}

/-- A list can be unrolled. Take an accepted select with a list whose placeholders take one slot
for each element, with plain separators and no placeholder behind a slash. With an argument of its
own for each element in the place of the list it is accepted too, and runs the same: both prepare
the same statement, bind the same values in the same order and end the same way, whatever the
database does, for every page. No more values are bound than a vector can hold. -/
theorem unrolled_execute (select : d.kind = .select)
    (h : d.compile catalog adapters interface = .ok m) {position : Nat} {a : Argument}
    (ha : d.signature.arguments[position]? = some a) (several : a.hasElements = true)
    (narrow : ∀ p ∈ m.parameters, p.argument = position → p.mapping.conversion.width = 1)
    (plain : ∀ p ∈ m.parameters, p.isIterated = true → IsPlainSeparator p.separator.toList)
    (free : Segment.slashFree d.segments = true) {names : List String}
    (fresh : d.signature.Fresh names) :
    ∃ m', (d.unrolled position a.element names).compile catalog adapters interface = .ok m' ∧
      ∀ (i : CallContext) (args items : List Bindable),
        args.length = d.signature.arguments.length → args[position]? = some (.list items) →
        items.length = names.length →
        (∀ es, m.encode args none = .ok es → FilledParameter.total es < 2 ^ 63) →
        m'.execute i (args ++ items) = m.execute i args := by
  have compiled := mapError_eq_ok.1 h
  have scanned := scan_segments select h
  have selects := MethodScope.compile_selects select free scanned compiled
  have unrollable := selects.unrollable select ha several narrow
  obtain ⟨m', compiled', unrolled, selects'⟩ :=
    MethodScope.compile_unrolled select free scanned compiled
      (fun p hp listed => plain p hp ((unrollable p hp).iterated listed)) fresh ha
  refine ⟨m', mapError_eq_ok.2 compiled', ?_⟩
  intro i args items all listed count small
  rw [← all] at unrolled unrollable
  rw [← count] at unrolled
  rw [CompiledMethod.execute_select selects.kind, CompiledMethod.execute_select selects'.kind]
  exact unrolled.select_eq selects selects' unrollable plain listed count small i

end MethodDeclaration

/-- The owners of some accounts. -/
def Sample.owners : MethodDeclaration :=
  { name := "owners"
    kind := .select
    template :=
      "SELECT \x7b%%\x7d FROM accounts WHERE id IN (\x7b#, #%ids\x7d) AND owner = \x7b%owner\x7d"
    signature :=
      { arguments :=
          [⟨some "ids", .array, ⟨.scalar .long, true⟩⟩,
            ⟨some "owner", .single, ⟨.scalar .string, false⟩⟩]
        returns := .many ⟨.scalar .string, false⟩ } }

theorem Sample.owners_unrolled_execute :
    let items : List Bindable := [.value (.long 4), .value .null, .value (.long 6)]
    let args : List Bindable := [.list items, .value (.string "ann")]
    let unrolled := Sample.owners.unrolled 0 ⟨.scalar .long, true⟩ ["e1", "e2", "e3"]
    ∃ m m', Sample.owners.compile ⟨[]⟩ ⟨[]⟩ "Accounts" = .ok m ∧
      unrolled.compile ⟨[]⟩ ⟨[]⟩ "Accounts" = .ok m' ∧
      ∀ i : CallContext, m'.execute i (args ++ items) = m.execute i args := by
  intro items args unrolled
  have checked : (match Sample.owners.compile ⟨[]⟩ ⟨[]⟩ "Accounts" with
      | .ok m =>
        decide (∀ p ∈ m.parameters, p.argument = 0 → p.mapping.conversion.width = 1) &&
          (decide (∀ p ∈ m.parameters, p.isIterated = true → IsPlainSeparator p.separator.toList) &&
            match m.encode args none with
            | .ok es => decide (FilledParameter.total es < 2 ^ 63)
            | .error _ => false)
      | .error _ => false) = true := by decide +kernel
  cases h : Sample.owners.compile ⟨[]⟩ ⟨[]⟩ "Accounts" with
  | error e => rw [h] at checked; cases checked
  | ok m =>
    rw [h] at checked
    obtain ⟨narrow, checked⟩ := Bool.and_eq_true_iff.1 checked
    obtain ⟨plain, few⟩ := Bool.and_eq_true_iff.1 checked
    have small (es : List FilledParameter) (filled : m.encode args none = .ok es) :
        FilledParameter.total es < 2 ^ 63 := by
      rw [filled] at few
      exact of_decide_eq_true few
    have fresh : Sample.owners.signature.Fresh ["e1", "e2", "e3"] := by decide +kernel
    obtain ⟨m', h', runs⟩ := MethodDeclaration.unrolled_execute (by decide) h rfl (by decide)
      (of_decide_eq_true narrow) (of_decide_eq_true plain) (by decide +kernel) fresh
    exact ⟨m, m', rfl, h', fun i => runs i args items rfl rfl rfl small⟩

end QueryMethods
