/-
The method that a batch repeats. It is declared by the same template, for one element of the list
and one count; it compiles to the same statement with the same parameters.
-/
import QueryMethods.Proofs.Method.Shape
import QueryMethods.Proofs.Method.Unrolling

namespace QueryMethods

/-! ## Single entries -/

/-- An element of an argument in its place. -/
def Argument.single (a : Argument) : Argument := { a with shape := .single }

/-- One count where there were several. -/
def ReturnType.ofEntry : ReturnType → ReturnType
  | .many t => .single t
  | returns => returns

/-- What is handed back of one entry. -/
def ReturnForm.ofEntry : ReturnForm → ReturnForm
  | .counts => .count
  | returns => returns

/-- The argument at that position is a single element. -/
def Signature.ofEntry (g : Signature) (position : Nat) : Signature :=
  ⟨g.arguments.modify position Argument.single, g.returns.ofEntry⟩

/-- The method that runs one entry of a batch over the argument at that position. -/
def MethodDeclaration.ofEntry (d : MethodDeclaration) (position : Nat) : MethodDeclaration :=
  { d with signature := d.signature.ofEntry position }

/-- What it compiles to. -/
def CompiledMethod.ofEntry (m : CompiledMethod) : CompiledMethod :=
  { m with returns := m.returns.ofEntry, batchPosition := none }

namespace Signature

variable (g : Signature) (position : Nat)

/-- The arguments keep their names. -/
theorem position?_ofEntry (name : String) :
    (g.ofEntry position).position? name = g.position? name := by
  have names : (g.arguments.modify position Argument.single).map (·.name) =
      g.arguments.map (·.name) := by
    refine List.ext_getElem? fun k => ?_
    rw [List.getElem?_map, List.getElem?_map, List.getElem?_modify]
    cases g.arguments[k]? with
    | none => rfl
    | some a =>
      show some (if position = k then a.single else a).name = some a.name
      split <;> rfl
  have by_names (arguments : List Argument) :
      arguments.findIdx? (fun a => a.name = some name) =
        (arguments.map (·.name)).findIdx? fun n => n = some name := by
    rw [List.findIdx?_map]
    rfl
  unfold Signature.position?
  rw [by_names, by_names, ← names]
  rfl

theorem listed_ofEntry (p : Nat) (ref : ArgumentSelector) :
    (g.ofEntry position).listed p ref = g.listed p ref := by
  unfold listed
  cases ref with
  | position q => rfl
  | name name => exact congrArg (fun q => decide (q = some p)) (position?_ofEntry g position name)

end Signature

namespace MethodScope

/-- The scope of a single entry. -/
def ofEntry (s : MethodScope) (position : Nat) : MethodScope :=
  { s with signature := s.signature.ofEntry position }

variable {s : MethodScope} {position : Nat}

/-! ## Arguments and parameters -/

/-- With its only list as a single element a method has no list. -/
theorem iterablePositions_ofEntry : ∀ {start : Nat} {arguments : List Argument},
    iterablePositions start arguments = [position] → ∃ k, position = start + k ∧
      iterablePositions start (arguments.modify k Argument.single) = []
  | _, [], h => by cases h
  | start, a :: rest, h => by
    unfold iterablePositions at h
    by_cases elements : a.hasElements = true
    · rw [if_pos elements] at h
      obtain ⟨rfl, others⟩ := List.cons.inj h
      refine ⟨0, rfl, ?_⟩
      rw [List.modify_zero_cons]
      unfold iterablePositions
      rw [if_neg (by simp [Argument.hasElements, Argument.single])]
      exact others
    · rw [if_neg elements] at h
      obtain ⟨k, rfl, single⟩ := iterablePositions_ofEntry h
      refine ⟨k + 1, by omega, ?_⟩
      rw [List.modify_succ_cons]
      unfold iterablePositions
      rw [if_neg elements]
      exact single

theorem batchPosition_ofEntry (h : s.batchPosition = .ok (some position)) :
    s.kind ≠ .select ∧ (s.ofEntry position).batchPosition = .ok none := by
  unfold batchPosition at h ⊢
  split at h
  · cases h
  · next mutation =>
    refine ⟨mutation, (if_neg mutation).trans ?_⟩
    split at h
    · cases h
    · next first one =>
      cases h
      obtain ⟨k, at_k, none⟩ := iterablePositions_ofEntry one
      rw [Nat.zero_add] at at_k
      have arguments : (s.ofEntry position).signature.arguments =
          s.signature.arguments.modify k Argument.single := by rw [← at_k]; rfl
      rw [arguments, none]
    · cases h

/-- A selector names the same argument, or an element of it. -/
theorem argument_ofEntry {ref : ArgumentSelector} {p : Nat} {a : Argument}
    (h : s.argument ref = .ok (p, a)) :
    ∃ a', (s.ofEntry position).argument ref = .ok (p, a') ∧ a'.element = a.element := by
  obtain ⟨listed, found⟩ := argument_eq_ok.1 h
  have listed' : (s.ofEntry position).signature.listed p ref = true :=
    (Signature.listed_ofEntry _ position p ref).trans listed
  have found' : (s.ofEntry position).signature.arguments[p]? =
      some (if position = p then a.single else a) := by
    show (s.signature.arguments.modify position Argument.single)[p]? = _
    rw [List.getElem?_modify, found]
    rfl
  refine ⟨_, argument_eq_ok.2 ⟨listed', found'⟩, ?_⟩
  split <;> rfl

theorem follow_ofEntry : ∀ (path : List String) (start : ValueType),
    (s.ofEntry position).follow start path = s.follow start path
  | [], _ => rfl
  | name :: rest, start => by
    have ih := follow_ofEntry rest
    unfold follow
    simp only [ih]
    rfl

/-- Of a list that runs entry by entry an element was bound already. -/
theorem parameter_ofEntry (mutation : s.kind ≠ .select) {p : Template.Parameter}
    {b : ParameterBinding} (h : s.parameter p = .ok b) :
    (s.ofEntry position).parameter p = .ok b := by
  obtain ⟨q, a, w, c, ha, hw, hc, rfl⟩ := parameter_eq_ok.1 h
  obtain ⟨a', ha', element⟩ := argument_ofEntry (s := s) ha
  refine parameter_eq_ok.2 ⟨q, a', w, c, ha', ?_, hc, ?_⟩
  · rw [element, follow_ofEntry]
    exact hw
  · rw [if_neg mutation, if_neg (show (s.ofEntry position).kind ≠ .select from mutation)]

/-! ## The whole method -/

theorem returnForm_ofEntry (mutation : s.kind ≠ .select) {hasKey : Bool} {returns : ReturnForm}
    (h : s.returnForm (some position) false hasKey = .ok returns) :
    (s.ofEntry position).returnForm none false hasKey = .ok returns.ofEntry ∧
      (returns = .unit ∨ returns = .counts) := by
  have kind : (s.ofEntry position).kind ≠ .select := mutation
  have returned : (s.ofEntry position).signature.returns = s.signature.returns.ofEntry := rfl
  unfold returnForm at h ⊢
  rw [if_neg mutation, if_neg Bool.false_ne_true] at h
  rw [if_neg kind, if_neg Bool.false_ne_true, returned]
  cases hr : s.signature.returns with
  | unit =>
    rw [hr] at h
    cases h
    exact ⟨rfl, .inl rfl⟩
  | many t =>
    rw [hr] at h
    dsimp only at h
    split at h
    · next counts =>
      cases h
      exact ⟨if_pos counts, .inr rfl⟩
    · cases h
  | single t => rw [hr] at h; cases h
  | map k v => rw [hr] at h; cases h

/-- A batch hands back no OUT results, so there is nothing to read. -/
theorem results_of_batch (mutation : s.kind ≠ .select) {definitions : List Template.Result}
    {resolved : ResolvedResults} {plan : RowPlan} {hasKey : Bool} {returns : ReturnForm}
    (hr : s.results definitions = .ok resolved) (hl : s.rowPlan resolved = .ok plan)
    (hf : s.returnForm (some position) (hasValues plan) hasKey = .ok returns) :
    definitions = [] ∧ plan = .none := by
  have reads := rowPlan_readsAll (results_ne_mapKey mutation hr) hl
  cases plan with
  | none =>
    have each := (results_reads hr).1
    rw [show resolved.results = [] from reads] at each
    exact ⟨List.forall₂_nil_right_iff.1 each, rfl⟩
  | atomic index => cases returnForm_batch mutation hf
  | bean type origin => cases returnForm_batch mutation hf

/-- The method of a single entry is accepted, and has the statement and the parameters of the
batch. -/
theorem compile_ofEntry {interface method template : String} {m : CompiledMethod}
    (h : s.compile interface method template = .ok m) (batched : m.batchPosition = some position) :
    (s.ofEntry position).compile interface method template = .ok m.ofEntry ∧
      m.kind ≠ .select ∧ m.rowPlan = .none ∧ (m.returns = .unit ∨ m.returns = .counts) := by
  obtain ⟨t, batch, parameters, resolved, plan, returns, ht, hb, hp, hr, hl, hf, rfl⟩ :=
    compile_eq_ok.1 h
  obtain rfl : batch = some position := batched
  obtain ⟨mutation, hb'⟩ := batchPosition_ofEntry hb
  obtain ⟨nothing, rfl⟩ := results_of_batch mutation hr hl hf
  obtain ⟨hf', returned⟩ := returnForm_ofEntry mutation hf
  have hp' : t.parameters.mapM (s.ofEntry position).parameter = .ok parameters :=
    mapM_eq_ok.2 ((mapM_eq_ok.1 hp).imp fun _ _ => parameter_ofEntry mutation)
  have hr' : (s.ofEntry position).results t.results = .ok resolved := by
    rw [nothing] at hr ⊢
    exact hr
  refine ⟨compile_eq_ok.2 ?_, mutation, rfl, returned⟩
  exact ⟨t, none, parameters, resolved, .none, returns.ofEntry, ht, hb', hp', hr', hl, hf', rfl⟩

/-- Every parameter of a method that is no select has a slot. -/
theorem compile_firstSlot {interface method template : String} {m : CompiledMethod}
    (mutation : s.kind ≠ .select) (h : s.compile interface method template = .ok m) :
    ∀ p ∈ m.parameters, 0 < p.mapping.firstSlot ∧ p.mapping.firstSlot ≤ m.bindCount := by
  intro p hp
  obtain ⟨_, _, _, -, own⟩ := compile_slotsOwnMarkers mutation h
  obtain ⟨t, batch, parameters, resolved, plan, returns, -, -, hq, -, -, -, rfl⟩ :=
    compile_eq_ok.1 h
  obtain ⟨b, hb, same⟩ := List.mem_map.1 hp
  obtain ⟨d, -, hd⟩ := exists_of_forall₂ (mapM_eq_ok.1 hq) hb
  -- the slots of a parameter are an interval, and it is not empty
  have range : p.mapping.slots = List.range' p.mapping.firstSlot p.mapping.slots.length :=
    same ▸ number_range _ b.mapping
  have wide : 0 < p.mapping.slots.length := by
    rw [← same]
    show 0 < (List.range' _ b.mapping.wideMarker.width).length
    rw [List.length_range']
    exact wideMarker_width hd
  have first : p.mapping.firstSlot ∈ p.mapping.slots := by
    rw [range]
    exact List.mem_range'_1.2 ⟨Nat.le_refl _, Nat.lt_add_of_pos_right wide⟩
  have inside := own.partition.subset (List.mem_append_left _ (List.mem_flatMap.2 ⟨p, hp, first⟩))
  rw [List.mem_range'_1] at inside
  omega

end MethodScope

end QueryMethods
