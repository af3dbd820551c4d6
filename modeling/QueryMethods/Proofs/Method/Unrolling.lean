/-
Unrolling a list in a method: the elements become arguments of their own, and the placeholders of
the list name them. An accepted select is accepted when it is unrolled, and but for its statement
and its parameters it stays the same method.
-/
import QueryMethods.Proofs.Method.Selects

namespace QueryMethods

open Sql

/-! ## Declarations -/

/-- Whether a parameter names the argument at that position. -/
def Signature.listed (g : Signature) (position : Nat) : ArgumentSelector → Bool
  | .position p => p = position
  | .name name => g.position? name = some position

/-- Single arguments of one type, one for each name. -/
def Argument.singles (element : ValueType) (names : List String) : List Argument :=
  names.map fun name => ⟨some name, .single, element⟩

namespace MethodDeclaration

/-- The method with single arguments of the element type behind its own ones, and each placeholder
of the list at that position written out as placeholders of these. -/
def unrolled (d : MethodDeclaration) (position : Nat) (element : ValueType) (names : List String) :
    MethodDeclaration :=
  { d with
    template := String.ofList (Segment.sources
      (Segment.unrolled (d.signature.listed position) names d.segments))
    signature := { d.signature with
      arguments := d.signature.arguments ++ Argument.singles element names } }

end MethodDeclaration

namespace ParameterBinding

/-- A parameter for a single argument in the place of a list. -/
def single (b : ParameterBinding) (argument : Nat) : ParameterBinding :=
  { b with
    mapping := { b.mapping with iteration := .single }
    argument
    separator := Template.defaultSeparator }

/-- A parameter for the list becomes one for each of `count` arguments from `first` on. -/
def unroll (position first count : Nat) (b : ParameterBinding) : List ParameterBinding :=
  if b.argument = position then (List.range' first count).map b.single else [b]

end ParameterBinding

/-- Names that can be given to new arguments. -/
structure Signature.Fresh (g : Signature) (names : List String) : Prop where
  valid : ∀ name ∈ names, Placeholder.IsName name
  distinct : names.Nodup
  unused : ∀ name ∈ names, g.position? name = none

instance (g : Signature) (names : List String) : Decidable (g.Fresh names) :=
  decidable_of_iff
    ((∀ name ∈ names, Placeholder.IsName name) ∧ names.Nodup ∧ ∀ name ∈ names, g.position? name = none)
    ⟨fun ⟨valid, distinct, unused⟩ => ⟨valid, distinct, unused⟩,
      fun ⟨valid, distinct, unused⟩ => ⟨valid, distinct, unused⟩⟩

namespace MethodScope

/-! ## Other arguments -/

/-- The scope with other arguments. -/
def withArguments (s : MethodScope) (arguments : List Argument) : MethodScope :=
  { s with signature := { s.signature with arguments } }

section

variable (s : MethodScope) (arguments : List Argument)

theorem follow_withArguments : ∀ (path : List String) (start : ValueType),
    (s.withArguments arguments).follow start path = s.follow start path
  | [], _ => rfl
  | name :: rest, start => by
    have ih := follow_withArguments rest
    unfold follow
    simp only [ih]
    rfl

theorem resultTarget_withArguments (types : ResultTypes) (parameters : List ValueType)
    (taken : List String) (place : ResultPlace) :
    (s.withArguments arguments).resultTarget types parameters taken place =
      s.resultTarget types parameters taken place := by
  cases place with
  | key => rfl
  | slot n => rfl
  | value path =>
    cases path with
    | nil => rfl
    | cons name rest =>
      unfold resultTarget
      simp only [follow_withArguments]
      rfl

theorem resultMappings_withArguments (types : ResultTypes) (parameters : List ValueType) :
    ∀ (definitions : List Template.Result) (taken : List String),
    (s.withArguments arguments).resultMappings types parameters taken definitions =
      s.resultMappings types parameters taken definitions
  | [], _ => rfl
  | d :: rest, taken => by
    have ih := resultMappings_withArguments types parameters rest
    unfold resultMappings
    simp only [resultTarget_withArguments, ih]
    rfl

/-- Results do not depend on the arguments. -/
theorem results_withArguments (definitions : List Template.Result) :
    (s.withArguments arguments).results definitions = s.results definitions := by
  unfold results
  simp only [resultMappings_withArguments]
  rfl

end

/-! ## More arguments -/

/-- A position selects the argument that stands there. -/
theorem argumentAt_eq_ok {s : MethodScope} {p position : Nat} {a : Argument} {e : Rejection} :
    (match s.signature.arguments[p]? with
      | some a => Except.ok (p, a)
      | none => .error e) = .ok (position, a) ↔
        p = position ∧ s.signature.arguments[position]? = some a := by
  cases hp : s.signature.arguments[p]? with
  | none =>
    refine ⟨nofun, ?_⟩
    rintro ⟨rfl, ha⟩
    cases hp.symm.trans ha
  | some b =>
    constructor
    · rintro h
      cases h
      exact ⟨rfl, hp⟩
    · rintro ⟨rfl, ha⟩
      cases hp.symm.trans ha
      rfl

theorem argument_eq_ok {s : MethodScope} {ref : ArgumentSelector} {position : Nat} {a : Argument} :
    s.argument ref = .ok (position, a) ↔
      s.signature.listed position ref = true ∧ s.signature.arguments[position]? = some a := by
  unfold argument Signature.listed
  cases ref with
  | position p =>
    dsimp only
    rw [decide_eq_true_iff]
    exact argumentAt_eq_ok
  | name name =>
    dsimp only
    rw [decide_eq_true_iff]
    cases hn : s.signature.position? name with
    | none =>
      refine ⟨nofun, ?_⟩
      rintro ⟨h, -⟩
      cases h
    | some p =>
      rw [Option.some.injEq]
      exact argumentAt_eq_ok

/-- A selector names one argument at most. -/
theorem listed_unique {g : Signature} {ref : ArgumentSelector} {p q : Nat}
    (hp : g.listed p ref = true) (hq : g.listed q ref = true) : p = q := by
  cases ref with
  | position r => exact (of_decide_eq_true hp).symm.trans (of_decide_eq_true hq)
  | name name =>
    exact Option.some.inj ((of_decide_eq_true hp).symm.trans (of_decide_eq_true hq))

section

variable {s : MethodScope} {names : List String}

/-- Further arguments do not change what a selector names. -/
theorem argument_append {ref : ArgumentSelector} {position : Nat} {a : Argument}
    (h : s.argument ref = .ok (position, a)) (more : List Argument) :
    (s.withArguments (s.signature.arguments ++ more)).argument ref = .ok (position, a) := by
  obtain ⟨listed, ha⟩ := argument_eq_ok.1 h
  refine argument_eq_ok.2 ⟨?_, ?_⟩
  · cases ref with
    | position p => exact listed
    | name name =>
      have found : s.signature.position? name = some position := of_decide_eq_true listed
      refine decide_eq_true ?_
      unfold Signature.position? at found ⊢
      show (s.signature.arguments ++ more).findIdx? _ = _
      rw [List.findIdx?_append, found]
      rfl
  · show (s.signature.arguments ++ more)[position]? = _
    rw [List.getElem?_append_left (List.getElem?_eq_some_iff.1 ha).1]
    exact ha

/-- A fresh name names its own argument. -/
theorem argument_fresh (fresh : s.signature.Fresh names) (element : ValueType) {k : Nat}
    {name : String} (h : names[k]? = some name) :
    (s.withArguments (s.signature.arguments ++ Argument.singles element names)).argument
        (.name name) =
      .ok (s.signature.arguments.length + k, ⟨some name, .single, element⟩) := by
  obtain ⟨bound, at_k⟩ := List.getElem?_eq_some_iff.1 h
  have first : names.findIdx? (fun n => n = name) = some k := by
    refine List.findIdx?_eq_some_iff_getElem.2 ⟨bound, decide_eq_true at_k, fun j hj => ?_⟩
    have apart : names[j] ≠ name := fun e =>
      Nat.ne_of_lt hj ((fresh.distinct.getElem_inj_iff).1 (e.trans at_k.symm))
    simpa using apart
  refine argument_eq_ok.2 ⟨decide_eq_true ?_, ?_⟩
  · -- no argument before has the name, so it is found among the single ones
    have unused := fresh.unused name (List.mem_of_getElem? h)
    unfold Signature.position? at unused ⊢
    show (s.signature.arguments ++ Argument.singles element names).findIdx? _ = _
    have own : (Argument.singles element names).findIdx? (fun a => a.name = some name) = some k := by
      unfold Argument.singles
      rw [List.findIdx?_map, ← first]
      refine congrArg (fun p => names.findIdx? p) (funext fun n => ?_)
      simp
    rw [List.findIdx?_append, unused, own]
    exact congrArg some (Nat.add_comm k _)
  · show (s.signature.arguments ++ Argument.singles element names)[_ + k]? = _
    rw [List.getElem?_append_right (Nat.le_add_right _ k), Nat.add_sub_cancel_left]
    unfold Argument.singles
    rw [List.getElem?_map, h]
    rfl

end

/-! ## Parameters -/

section

variable {s : MethodScope} {names : List String} {p : Template.Parameter} {b : ParameterBinding}

theorem parameter_separator (h : s.parameter p = .ok b) : b.separator = p.separator := by
  obtain ⟨position, a, w, c, -, -, -, rfl⟩ := parameter_eq_ok.1 h
  rfl

/-- A parameter takes the argument that it names. -/
theorem parameter_listed (h : s.parameter p = .ok b) (position : Nat) :
    s.signature.listed position p.argument = true ↔ b.argument = position := by
  obtain ⟨position', a, w, c, ha, -, -, rfl⟩ := parameter_eq_ok.1 h
  obtain ⟨listed, -⟩ := argument_eq_ok.1 ha
  constructor
  · exact listed_unique listed
  · rintro rfl
    exact listed

theorem parameter_append (h : s.parameter p = .ok b) (more : List Argument) :
    (s.withArguments (s.signature.arguments ++ more)).parameter p = .ok b := by
  obtain ⟨position, a, w, c, ha, hw, hc, rfl⟩ := parameter_eq_ok.1 h
  exact parameter_eq_ok.2
    ⟨position, a, w, c, argument_append ha more, by rwa [follow_withArguments], hc, rfl⟩

variable (fresh : s.signature.Fresh names) {position : Nat} {a : Argument}
  (ha : s.signature.arguments[position]? = some a)

include fresh ha

theorem parameter_fresh (h : s.parameter p = .ok b) (slot : p.slot = 0)
    (listed : s.signature.listed position p.argument = true) {k : Nat} {name : String}
    (hk : names[k]? = some name) :
    (s.withArguments (s.signature.arguments ++ Argument.singles a.element names)).parameter
        ⟨0, .name name, p.path, p.tag, Template.defaultSeparator⟩ =
      .ok (b.single (s.signature.arguments.length + k)) := by
  obtain ⟨position', a', w, c, ha', hw, hc, rfl⟩ := parameter_eq_ok.1 h
  obtain ⟨listed', at_position⟩ := argument_eq_ok.1 ha'
  cases listed_unique listed listed'
  cases ha.symm.trans at_position
  refine parameter_eq_ok.2
    ⟨_, _, w, c, argument_fresh fresh a.element hk, by rwa [follow_withArguments], hc, ?_⟩
  unfold ParameterBinding.single
  simp only [slot, ite_self]

/-- A parameter unrolls to parameters that resolve to what its binding unrolls to. -/
theorem parameter_unroll (h : s.parameter p = .ok b) (slot : p.slot = 0) :
    List.Forall₂ (fun p b => (s.withArguments
        (s.signature.arguments ++ Argument.singles a.element names)).parameter p = .ok b)
      (p.unroll (s.signature.listed position) names)
      (b.unroll position s.signature.arguments.length names.length) := by
  have argument := parameter_listed h position
  unfold Template.Parameter.unroll ParameterBinding.unroll
  by_cases listed : s.signature.listed position p.argument = true
  · rw [if_pos listed, if_pos (argument.1 listed), List.forall₂_map_left_iff,
      List.forall₂_map_right_iff, List.forall₂_iff_get]
    refine ⟨List.length_range'.symm, fun k h₁ h₂ => ?_⟩
    have at_k : (List.range' s.signature.arguments.length names.length).get ⟨k, h₂⟩ =
        s.signature.arguments.length + k := by simp
    rw [at_k]
    exact parameter_fresh fresh ha h slot listed (List.getElem?_eq_getElem h₁)
  · rw [if_neg listed, if_neg (mt argument.2 listed)]
    exact .cons (parameter_append h _) .nil

theorem parameters_unroll : ∀ {ps : List Template.Parameter} {bs : List ParameterBinding},
    List.Forall₂ (fun p b => s.parameter p = .ok b) ps bs → (∀ p ∈ ps, p.slot = 0) →
    List.Forall₂ (fun p b => (s.withArguments
        (s.signature.arguments ++ Argument.singles a.element names)).parameter p = .ok b)
      (ps.flatMap (Template.Parameter.unroll (s.signature.listed position) names))
      (bs.flatMap (ParameterBinding.unroll position s.signature.arguments.length names.length))
  | [], _, h, _ => by
    rw [List.forall₂_nil_left_iff.1 h]
    exact .nil
  | p :: ps, _, h, slots => by
    obtain ⟨slot, others⟩ := List.forall_mem_cons.1 slots
    cases h with
    | cons hp hps =>
      rw [List.flatMap_cons, List.flatMap_cons]
      exact List.rel_append (parameter_unroll fresh ha hp slot) (parameters_unroll hps others)

end

end MethodScope

/-! ## Methods -/

/-- What becomes of a method when the list at that position is unrolled: its statement and its
parameters change, and nothing else. -/
structure CompiledMethod.Unrolled (m m' : CompiledMethod) (position first count : Nat) : Prop where
  same : m' = { m with sql := m'.sql, parameters := m'.parameters, bindCount := m'.bindCount }
  parameters : m'.parameters.map (·.unplaced) = (m.parameters.map (·.unplaced)).flatMap
    (ParameterBinding.unroll position first count)

namespace MethodScope

variable {s : MethodScope} {interface method template : String} {m : CompiledMethod}
  {segments : List Segment} {position : Nat}

theorem plain_listed (selects : m.Selects s segments)
    (plain : ∀ b ∈ m.parameters, b.argument = position → IsPlainSeparator b.separator.toList) :
    ∀ p ∈ Segment.parameters segments, s.signature.listed position p.argument = true →
      IsPlainSeparator p.separator.toList := by
  intro p hp listed
  obtain ⟨b', hb', resolved⟩ := exists_of_forall₂ selects.resolved.flip hp
  obtain ⟨b, hb, rfl⟩ := List.mem_map.1 hb'
  rw [← parameter_separator resolved]
  exact plain b hb ((parameter_listed resolved position).1 listed)

variable {a : Argument} {names : List String}

/-- An unrolled select is accepted. -/
theorem compile_unrolled (select : s.kind = .select) (free : Segment.slashFree segments = true)
    (scanned : Segment.scan false 0 template.toList = .ok segments)
    (h : s.compile interface method template = .ok m)
    (plain : ∀ b ∈ m.parameters, b.argument = position → IsPlainSeparator b.separator.toList)
    (fresh : s.signature.Fresh names) (ha : s.signature.arguments[position]? = some a) :
    let s' := s.withArguments (s.signature.arguments ++ Argument.singles a.element names)
    let segments' := Segment.unrolled (s.signature.listed position) names segments
    ∃ m', s'.compile interface method (String.ofList (Segment.sources segments')) = .ok m' ∧
      m.Unrolled m' position s.signature.arguments.length names.length ∧
      m'.Selects s' segments' := by
  intro s' segments'
  have selects := compile_selects select free scanned h
  have safe := plain_listed selects plain
  have wf' : Segment.WellFormed false segments' := selects.wellFormed.unrolled fresh.valid free safe
  have free' : Segment.slashFree segments' = true := Segment.slashFree_unrolled free safe
  have scanned' : Segment.scan false 0 (String.ofList (Segment.sources segments')).toList =
      .ok segments' := by
    rw [String.toList_ofList]
    exact Segment.scan_sources wf' 0
  have resolved' := parameters_unroll fresh ha selects.resolved fun p hp =>
    Segment.parameters_slot hp
  rw [← Segment.parameters_unrolled] at resolved'
  obtain ⟨t, batch, parameters, results, plan, returns, ht, hb, hp, hr, hl, hf, rfl⟩ :=
    compile_eq_ok.1 h
  have plainForm : form s.kind = .plain := by rw [select]; rfl
  have columns : t.results = Template.inColumns 0 (segments.filterMap Segment.result?) := by
    obtain ⟨segments', hs, rfl⟩ := Template.read_plain_eq_ok.1 (plainForm ▸ ht)
    cases scanned.symm.trans hs
    exact Segment.assemble_results segments 0 0
  obtain ⟨t', read, ps, rs⟩ := Template.read_of_wellFormed wf'
  rw [← ps] at resolved'
  obtain ⟨parameters', hp', unrolled⟩ := parameters_eq_ok.1 resolved'
  have hb' : s'.batchPosition = .ok batch := by
    unfold batchPosition at hb
    rw [if_pos select] at hb
    exact (if_pos select).trans hb
  have hr' : s'.results t'.results = .ok results := by
    rw [results_withArguments, rs, Segment.results_unrolled, ← columns]
    exact hr
  rw [← show form s'.kind = .plain from plainForm] at read
  have compiled' : s'.compile interface method (String.ofList (Segment.sources segments')) =
      .ok (s'.assembled interface method t' batch parameters' results plan returns) := compile_eq_ok.2
    ⟨t', batch, parameters', results, plan, returns, read, hb', hp', hr', hl, hf, rfl⟩
  refine ⟨_, compiled', ⟨?_, ?_⟩, compile_selects select free' scanned' compiled'⟩
  · have noCall : ¬s.kind = .call := by rw [select]; decide
    have noCall' : ¬s'.kind = .call := noCall
    unfold assembled
    dsimp only
    rw [if_neg noCall, if_neg noCall']
    rfl
  · rw [← unrolled]
    show (parameters'.map _).map _ = _
    rw [List.map_map]
    rfl

end MethodScope

end QueryMethods
