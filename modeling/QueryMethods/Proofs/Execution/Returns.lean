/-
The outputs of accepted methods. Whatever the database answers, an output has the form that the
method hands back, and the type of the host program that was declared takes it: what can still fail
is the conversion of a single value.
-/
import QueryMethods.Host.Return
import QueryMethods.Proofs.Coercion
import QueryMethods.Proofs.Database.Meets
import QueryMethods.Proofs.Execution.Cases
import QueryMethods.Proofs.Method.Returns
import QueryMethods.Scripted

namespace QueryMethods

open Dialogue

/-! ## Outputs of a form -/

/-- The outputs that a form hands back. -/
inductive ReturnForm.Hands : ReturnForm → Output → Prop
  | unit : Hands .unit .unit
  | count (rows : UInt64) : Hands .count (.count rows)
  | counts (rows : List UInt64) : Hands .counts (.counts rows)
  | one (nullable : Bool) (d : Datum) : Hands (.one nullable) (.one d)
  | many (data : List Datum) : Hands .many (.many data)
  | map (entries : List (Datum × Datum)) : Hands .map (.map entries)

namespace CompiledMethod

variable {m : CompiledMethod} {i : CallContext} {args : List Bindable}

/-! ## Runs -/

theorem readSingle_hands (m : CompiledMethod) (nullable : Bool) (rows : Nat) :
    (m.readSingle nullable rows).Meets (fun _ => True) (ReturnForm.Hands (.one nullable)) := by
  unfold readSingle
  refine meets_request_bind fun _ => ?_
  split
  · split
    · exact meets_pure (.one _ _)
    · exact meets_fail trivial
  · refine meets_after _ fun d => meets_request_bind fun _ => ?_
    split
    · exact meets_fail trivial
    · exact meets_pure (.one _ _)

/-- A select hands back one row, the rows or the entries of a map. -/
theorem readRowsAs_hands {declared : ReturnType} (select : m.kind = .select)
    (serves : ReturnForm.Serves m.kind m.isBatched m.key.isSome m.rowPlan declared m.returns) :
    (m.readRowsAs i).Meets (fun _ => True) m.returns.Hands := by
  unfold readRowsAs
  generalize m.returns = returns at serves ⊢
  cases serves with
  | row _ t => exact meets_after _ fun _ => Meets.onRows fun rows => m.readSingle_hands _ rows
  | rows _ t =>
    exact meets_after _ fun _ => Meets.onRows fun rows => meets_after _ fun data => meets_pure (.many data)
  | entries _ _ k v =>
    exact meets_after _ fun _ => Meets.onRows fun rows => meets_after _ fun entries =>
      meets_pure (.map entries)
  | out other _ _ _ | unit other _ | count other _ _ _ | counts other _ _ _ =>
    exact absurd select other

/-- Without values to hand back a method hands back the number of rows or nothing. -/
theorem countOutput_hands {declared : ReturnType} (other : m.kind ≠ .select)
    (single : m.isBatched = false) (none : m.rowPlan = .none)
    (serves : ReturnForm.Serves m.kind m.isBatched m.key.isSome m.rowPlan declared m.returns) (rows : UInt64) :
    m.returns.Hands (m.countOutput rows) := by
  unfold countOutput
  generalize m.returns = returns at serves ⊢
  cases serves with
  | row select _ | rows select _ | entries select _ _ _ => exact absurd select other
  | out _ _ values _ => exact absurd none values
  | unit _ _ => exact .unit
  | count _ _ _ _ => exact .count rows
  | counts _ many _ _ => cases single.symm.trans many

/-- What is done with a statement ends with an output of the form. -/
theorem StatementUse.hands {isCall : Bool} {sql : String} {body : Dialogue Output}
    {declared : ReturnType} (use : m.StatementUse i args isCall sql body)
    (mutation : m.kind.isMutation = true → m.rowPlan = .none)
    (serves : ReturnForm.Serves m.kind m.isBatched m.key.isSome m.rowPlan declared m.returns) :
    body.Meets (fun _ => True) m.returns.Hands := by
  cases use with
  | select kind prepared => exact meets_after _ fun _ => readRowsAs_hands kind serves
  | update single kind filled =>
    have none : m.rowPlan = .none := by
      refine mutation ?_
      cases h : m.kind with
      | select => exact absurd h single.1
      | call => exact absurd h kind
      | insert | update | delete => rfl
    exact meets_after _ fun _ => meets_after _ fun rows =>
      meets_pure (countOutput_hands single.1 single.2 none serves rows)
  | count single kind filled plan =>
    exact meets_after _ fun _ => meets_after _ fun rows =>
      meets_pure (countOutput_hands single.1 single.2 plan serves rows)
  | out single kind filled plan =>
    have one : ∀ d, m.returns.Hands (.one d) := by
      intro d
      generalize m.returns = returns at serves ⊢
      cases serves with
      | row select _ | rows select _ | entries select _ _ _ => exact absurd select single.1
      | out _ _ _ _ => exact .one _ d
      | unit _ none | count _ _ none _ | counts _ _ none _ => exact absurd none plan
    exact meets_after _ fun _ => meets_after _ fun _ => meets_after _ fun _ => meets_after _ fun d =>
      meets_pure (one d)
  | batch batched listed =>
    refine meets_after _ fun counts => meets_pure ?_
    generalize m.returns = returns at serves ⊢
    cases serves with
    | row select _ | rows select _ | entries select _ _ _ => exact absurd select batched.1
    | out _ single _ _ | count _ single _ _ => cases single.symm.trans batched.2
    | unit _ _ => exact .unit
    | counts _ _ _ _ => exact .counts counts

theorem execute_hands {declared : ReturnType} (mutation : m.kind.isMutation = true → m.rowPlan = .none)
    (serves : ReturnForm.Serves m.kind m.isBatched m.key.isSome m.rowPlan declared m.returns) (i : CallContext)
    (args : List Bindable) : (m.execute i args).Meets (fun _ => True) m.returns.Hands := by
  rcases m.execute_cases i args with ⟨e, -, he⟩ | ⟨isCall, sql, body, use, he⟩
  · rw [he]
    exact meets_fail trivial
  · rw [he]
    exact Meets.onConnection (Meets.onStatement (use.hands mutation serves))

end CompiledMethod

/-! ## Types of the host program -/

namespace HostType

/-- Types that a number of rows is converted to. -/
structure TakesCount (t : HostType) : Prop where
  plain : t.optional = false
  number : t.kind = .scalar .int ∨ t.kind = .scalar .long ∨ ∃ u, t.kind = .unsigned u

theorem takesCount_of_carriesCount {t : HostType}
    (h : MethodScope.carriesCount t.valueType = true) : t.TakesCount := by
  unfold MethodScope.carriesCount at h
  obtain ⟨plain, number⟩ := Bool.and_eq_true_iff.1 h
  rw [Bool.not_eq_true'] at plain
  refine ⟨plain, ?_⟩
  rw [t.scalar?_of_kind] at number
  cases kind : t.kind with
  | scalar s =>
    rw [kind] at number
    rcases Bool.or_eq_true_iff.1 number with h | h
    · rw [of_decide_eq_true h]
      exact .inl rfl
    · rw [of_decide_eq_true h]
      exact .inr (.inl rfl)
  | unsigned u => exact .inr (.inr ⟨u, rfl⟩)
  | custom name typeName =>
    rw [kind] at number
    cases number
  | bean name =>
    rw [kind] at number
    cases number

end HostType

namespace HostReturn

/-- The outputs that a type of the host program takes. Numbers of rows are only taken for plain
numbers. -/
inductive Takes : HostReturn → Output → Prop
  | unit : Takes .unit .unit
  | one (t : HostType) (d : Datum) : Takes (.single t) (.one d)
  | count {t : HostType} (number : t.TakesCount) (rows : UInt64) : Takes (.single t) (.count rows)
  | list (t : HostType) (data : List Datum) : Takes (.list t) (.many data)
  | set (t : HostType) (data : List Datum) : Takes (.set t) (.many data)
  | listCounts {t : HostType} (number : t.TakesCount) (rows : List UInt64) :
      Takes (.list t) (.counts rows)
  | setCounts {t : HostType} (number : t.TakesCount) (rows : List UInt64) :
      Takes (.set t) (.counts rows)
  | map (k v : HostType) (entries : List (Datum × Datum)) : Takes (.map k v) (.map entries)

/-- The single values of an output, each with the type that it is converted to. -/
def cells : HostReturn → Output → List (HostType × Except ConversionFailure Datum)
  | .single t, .one d => [(t, .ok d)]
  | .single t, .count n => [(t, countDatum n)]
  | .list t, .many data | .set t, .many data => data.map fun d => (t, .ok d)
  | .list t, .counts rows | .set t, .counts rows => rows.map fun n => (t, countDatum n)
  | .map k v, .map entries => entries.flatMap fun e => [(k, .ok e.1), (v, .ok e.2)]
  | _, _ => []

/-- A single value that does not convert. -/
def Refuses (r : HostReturn) (o : Output) (e : ConversionFailure) : Prop :=
  ∃ c ∈ r.cells o, (c.2 >>= c.1.ofDatum) = .error e

theorem listOf_refuses {t : HostType} {o : Output} {e : ConversionFailure}
    (takes : Takes (.list t) o) (h : listOf t o = .error e) : Refuses (.list t) o e := by
  cases takes with
  | list _ data =>
    obtain ⟨d, hd, failed⟩ := mapM_eq_error h
    exact ⟨_, List.mem_map_of_mem hd, failed⟩
  | listCounts _ rows =>
    obtain ⟨n, hn, failed⟩ := mapM_eq_error h
    exact ⟨_, List.mem_map_of_mem hn, failed⟩

/-- An output of a form that the type takes fails to convert where a single value does. -/
theorem ofOutput_refuses {r : HostReturn} {o : Output} {e : ConversionFailure} (takes : r.Takes o)
    (h : r.ofOutput o = .error e) : r.Refuses o e := by
  cases takes with
  | unit => cases h
  | one t d => exact ⟨_, List.mem_cons_self, map_eq_error.1 h⟩
  | count number n =>
    refine ⟨_, List.mem_cons_self, ?_⟩
    have failed := map_eq_error.1 h
    unfold singleOf at failed
    rw [number.plain] at failed
    exact failed
  | list t data => exact listOf_refuses (.list t data) (map_eq_error.1 h)
  | set t data => exact listOf_refuses (.list t data) (map_eq_error.1 h)
  | listCounts number rows => exact listOf_refuses (.listCounts number rows) (map_eq_error.1 h)
  | setCounts number rows => exact listOf_refuses (.listCounts number rows) (map_eq_error.1 h)
  | map k v entries =>
    obtain ⟨entry, mem, failed⟩ := mapM_eq_error (map_eq_error.1 h)
    rcases bind_eq_error.1 failed with failed | ⟨key, -, failed⟩
    · exact ⟨_, List.mem_flatMap.2 ⟨entry, mem, List.mem_cons_self⟩, failed⟩
    · rcases bind_eq_error.1 failed with failed | ⟨value, -, failed⟩
      · exact ⟨_, List.mem_flatMap.2 ⟨entry, mem, List.mem_cons_of_mem _ List.mem_cons_self⟩, failed⟩
      · cases failed

/-- A form that serves the declared type hands back what the type takes. -/
theorem takes_of_serves {r : HostReturn} {kind : StatementKind} {batched keyed : Bool} {plan : RowPlan}
    {declared : ReturnType} {form : ReturnForm} {o : Output} (same : r.returnType = declared)
    (serves : ReturnForm.Serves kind batched keyed plan declared form) (hands : form.Hands o) :
    r.Takes o := by
  subst same
  cases r with
  | unit =>
    cases serves with
    | unit _ _ =>
      cases hands
      exact .unit
  | single t =>
    cases serves with
    | row _ _ | out _ _ _ _ =>
      cases hands
      exact .one t _
    | count _ _ _ number =>
      cases hands
      exact .count (HostType.takesCount_of_carriesCount number) _
  | list t =>
    cases serves with
    | rows _ _ =>
      cases hands
      exact .list t _
    | counts _ _ _ number =>
      cases hands
      exact .listCounts (HostType.takesCount_of_carriesCount number) _
  | set t =>
    cases serves with
    | rows _ _ =>
      cases hands
      exact .set t _
    | counts _ _ _ number =>
      cases hands
      exact .setCounts (HostType.takesCount_of_carriesCount number) _
  | map k v =>
    cases serves with
    | entries _ _ _ _ =>
      cases hands
      exact .map k v _

end HostReturn

/-! ## Accepted methods -/

/-- The output has the shape that the caller declared. Whatever the database answers, an output of
an accepted method is one that the declared type takes, a number of rows only for plain numbers;
and if converting it fails, one of its values does not convert. -/
theorem MethodDeclaration.output_has_declared_shape {d : MethodDeclaration} {catalog : Catalog}
    {adapters : AdapterTable} {interface : String} {m : CompiledMethod}
    (h : d.compile catalog adapters interface = .ok m) {r : HostReturn}
    (declared : r.returnType = d.signature.returns) (i : CallContext) (args : List Bindable)
    {σ : Type} (respond : Responder σ) (state : σ) {o : Output}
    (returned : ((m.execute i args).run respond state).outcome = .ok o) :
    r.Takes o ∧ ∀ e, r.ofOutput o = .error e → r.Refuses o e := by
  obtain ⟨t, resolved, -, source⟩ := MethodScope.compile_resolvedFrom (mapError_eq_ok.1 h)
  have serves := source.serves
  have hands := m.execute_hands source.mutation_plan serves i args
  have takes := HostReturn.takes_of_serves declared serves ((hands.run respond state).2 o returned)
  exact ⟨takes, fun e => HostReturn.ofOutput_refuses takes⟩

/-- Marks each of some accounts as settled. -/
def Sample.settleEach : MethodDeclaration :=
  { name := "settle_each"
    kind := .update
    template := "UPDATE accounts SET settled = 1 WHERE id = \x7b%ids\x7d"
    signature :=
      { arguments := [⟨some "ids", .collection, ⟨.scalar .long, false⟩⟩]
        returns := .many ⟨.scalar .long, false⟩ } }

theorem Sample.settleEach_output_shape :
    let i : CallContext := ⟨⟨fun _ => true, none⟩, {}, none⟩
    let args : List Bindable := [.list [.value (.long 7), .value (.long 8)]]
    let r : HostReturn := .set ⟨.unsigned .word32, false⟩
    ∃ m o, Sample.settleEach.compile ⟨[]⟩ ⟨[]⟩ "Accounts" = .ok m ∧
      ((m.execute i args).run ScriptedDatabase.respond {}).outcome = .ok o ∧
      r.Takes o ∧ ∀ e, r.ofOutput o = .error e → r.Refuses o e := by
  intro i args r
  have checked : (match Sample.settleEach.compile ⟨[]⟩ ⟨[]⟩ "Accounts" with
      | .ok m => (failure? ((m.execute i args).run ScriptedDatabase.respond {}).outcome).isNone
      | .error _ => false) = true := by decide +kernel
  cases h : Sample.settleEach.compile ⟨[]⟩ ⟨[]⟩ "Accounts" with
  | error e => rw [h] at checked; cases checked
  | ok m =>
    rw [h] at checked
    dsimp only at checked
    cases returned : ((m.execute i args).run ScriptedDatabase.respond {}).outcome with
    | error e => rw [returned] at checked; cases checked
    | ok o =>
      have shape := MethodDeclaration.output_has_declared_shape h (r := r) rfl i args
        ScriptedDatabase.respond {} returned
      exact ⟨m, o, rfl, returned, shape⟩

end QueryMethods
