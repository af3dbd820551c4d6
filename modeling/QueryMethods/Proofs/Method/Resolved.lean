/-
What each part of an accepted method was resolved from. The numbers of slots and columns come last,
so apart from them a parameter or a result is what its placeholder resolves to.
-/
import QueryMethods.Proofs.Method.Selects

namespace QueryMethods

namespace ResultReading

/-- A result before it is numbered. -/
def unplaced (r : ResultReading) : ResultReading :=
  { r with mapping := { r.mapping with slots := [0] } }

/-- Numbering columns only changes slots. -/
theorem map_unplaced_numberColumns : ∀ (column : Nat) (rs : List ResultReading),
    (numberColumns column rs).map unplaced = rs.map unplaced
  | _, [] => rfl
  | column, r :: rest => by
    unfold numberColumns
    dsimp only
    rw [List.map_cons, map_unplaced_numberColumns, List.map_cons]
    rfl

variable {r r' : ResultReading}

theorem conversion_of_unplaced (h : r.unplaced = r'.unplaced) :
    r.mapping.conversion = r'.mapping.conversion := congrArg (·.mapping.conversion) h

theorem valueType_of_unplaced (h : r.unplaced = r'.unplaced) :
    r.mapping.valueType = r'.mapping.valueType := congrArg (·.mapping.valueType) h

theorem nullable_of_unplaced (h : r.unplaced = r'.unplaced) :
    r.mapping.nullable = r'.mapping.nullable := congrArg (·.mapping.nullable) h

theorem target_of_unplaced (h : r.unplaced = r'.unplaced) : r.target = r'.target :=
  congrArg (·.target) h

end ResultReading

namespace CompiledMethod

/-- What an accepted method consists of, apart from the numbers of its slots. -/
structure ResolvedFrom (m : CompiledMethod) (s : MethodScope) (t : Template)
    (resolved : MethodScope.ResolvedResults) : Prop where
  kind : m.kind = s.kind
  batch : s.batchPosition = .ok m.batchPosition
  parameters : List.Forall₂ (fun p b => s.parameter p.unplaced = .ok b.unplaced)
    t.parameters m.parameters
  results : s.results t.results = .ok resolved
  unplaced : List.Forall₂ (fun r r' => r.unplaced = r'.unplaced) resolved.results m.results
  plan : s.rowPlan resolved = .ok m.rowPlan
  key : m.key = resolved.results.findIdx? (·.target = .mapKey)
  returns : s.returnForm m.batchPosition (MethodScope.hasValues m.rowPlan) m.key.isSome =
    .ok m.returns

end CompiledMethod

/-- An accepted method is resolved from a template that has been read. -/
theorem MethodScope.compile_resolvedFrom {s : MethodScope} {interface method template : String}
    {m : CompiledMethod} (h : s.compile interface method template = .ok m) :
    ∃ t resolved, Template.read (form s.kind) template = .ok t ∧ m.ResolvedFrom s t resolved := by
  obtain ⟨t, batch, parameters, resolved, plan, returns, ht, hb, hp, hr, hl, hf, rfl⟩ :=
    compile_eq_ok.1 h
  refine ⟨t, resolved, ht, ?_⟩
  refine ⟨rfl, hb, ?_, hr, ?_, hl, rfl, hf⟩
  · show List.Forall₂ _ _ (parameters.map _)
    refine List.forall₂_map_right_iff.2 ((mapM_eq_ok.1 hp).imp fun p b hb => ?_)
    exact parameter_unplaced_eq_ok.2 ⟨b, hb, rfl⟩
  · have same : (s.assembled interface method t batch parameters resolved plan
        returns).results.map (·.unplaced) = resolved.results.map (·.unplaced) := by
      show (if s.kind = .call then _ else _ : List ResultReading).map _ = _
      split
      · rw [List.map_map]
        rfl
      · exact ResultReading.map_unplaced_numberColumns 1 _
    refine (List.forall₂_map_left_iff.1 (List.forall₂_map_right_iff.1 ?_))
    rw [same]
    exact List.forall₂_same.2 fun _ _ => rfl

namespace CompiledMethod.ResolvedFrom

variable {m : CompiledMethod} {s : MethodScope} {t : Template}
  {resolved : MethodScope.ResolvedResults}

/-- Each parameter has the conversion that its placeholder asks for. -/
theorem parameter_conversions (h : m.ResolvedFrom s t resolved) :
    List.Forall₂ (fun p b => s.conversionFor p.tag b.mapping.valueType = .ok b.mapping.conversion)
      t.parameters m.parameters := by
  refine h.parameters.imp fun p b hb => ?_
  obtain ⟨position, a, w, c, -, -, hc, eq⟩ := MethodScope.parameter_eq_ok.1 hb
  have type : b.mapping.valueType = w.type := congrArg (·.mapping.valueType) eq
  have conversion : b.mapping.conversion = c := congrArg (·.mapping.conversion) eq
  rw [type, conversion]
  exact hc

/-- Each result has the conversion that its placeholder asks for. -/
theorem result_conversions (h : m.ResolvedFrom s t resolved) :
    List.Forall₂ (fun d r => s.conversionFor d.tag r.mapping.valueType = .ok r.mapping.conversion)
      t.results m.results := by
  have reads := (MethodScope.results_reads h.results).1
  have both := h.unplaced
  generalize m.results = results at both ⊢
  generalize t.results = definitions, resolved.results = readings at reads both ⊢
  clear h
  induction reads generalizing results with
  | nil =>
    cases both
    exact .nil
  | cons hr _ ih =>
    cases both with
    | cons same behind =>
      refine .cons ?_ (ih _ behind)
      rw [← ResultReading.conversion_of_unplaced same, ← ResultReading.valueType_of_unplaced same]
      exact hr.conversion

end CompiledMethod.ResolvedFrom

end QueryMethods
