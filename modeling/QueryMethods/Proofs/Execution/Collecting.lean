/-
Collecting what was read into the types of the host program. The single values of an output convert
in order, the key of an entry before its value, and the first that does not convert is the failure.
Where all convert, a list has them in order, and a map has of each key the last one.
-/
import QueryMethods.Proofs.Bean.Writing
import QueryMethods.Proofs.Execution.Refusals
import QueryMethods.Proofs.Execution.Returns
import QueryMethods.Proofs.Host.Order

namespace QueryMethods

namespace HostReturn

/-! ## The first failure -/

theorem error?_map {ε α β : Type} (x : Except ε α) (f : α → β) : error? (x.map f) = error? x := by
  cases x <;> rfl

theorem error?_entryOf (k v : HostType) (entry : Datum × Datum) :
    error? (entryOf k v entry) = (error? (k.ofDatum entry.1)).or (error? (v.ofDatum entry.2)) :=
  error?_bind_bind _ _ Prod.mk

theorem error?_listOf {t : HostType} {o : Output} (takes : Takes (.list t) o) :
    error? (listOf t o) = ((list t).cells o).findSome? fun c => error? (c.2 >>= c.1.ofDatum) := by
  cases takes with
  | list _ data =>
    show error? (data.mapM t.ofDatum) = _
    rw [error?_mapM fun d _ => rfl, cells, List.findSome?_map]
    rfl
  | listCounts _ rows =>
    show error? (rows.mapM fun n => countDatum n >>= t.ofDatum) = _
    rw [error?_mapM fun n _ => rfl, cells, List.findSome?_map]
    rfl

/-- An output fails to convert as the first of its values that does. -/
theorem error?_ofOutput {r : HostReturn} {o : Output} (takes : r.Takes o) :
    error? (r.ofOutput o) = (r.cells o).findSome? fun c => error? (c.2 >>= c.1.ofDatum) := by
  cases takes with
  | unit => rfl
  | one t d => exact (error?_map _ _).trans (by
      rw [cells, List.findSome?_singleton]
      rfl)
  | @count t number n => exact (error?_map _ _).trans (by
      rw [singleOf, number.plain, cells, List.findSome?_singleton]
      rfl)
  | list t data => exact (error?_map _ _).trans (error?_listOf (.list t data))
  | set t data => exact (error?_map _ _).trans (error?_listOf (.list t data))
  | listCounts number rows => exact (error?_map _ _).trans (error?_listOf (.listCounts number rows))
  | setCounts number rows => exact (error?_map _ _).trans (error?_listOf (.listCounts number rows))
  | map k v entries =>
    refine (error?_map _ _).trans ?_
    show error? (entries.mapM (entryOf k v)) = _
    rw [error?_mapM fun e _ => error?_entryOf k v e, cells]
    induction entries with
    | nil => rfl
    | cons e rest ih =>
      have both : [(k, Except.ok e.1), (v, .ok e.2)].findSome? (fun c => error? (c.2 >>= c.1.ofDatum))
          = (error? (k.ofDatum e.1)).or (error? (v.ofDatum e.2)) := by
        show ([(k, _)] ++ [(v, _)]).findSome? _ = _
        rw [List.findSome?_append, List.findSome?_singleton, List.findSome?_singleton]
        rfl
      rw [List.flatMap_cons, List.findSome?_append, both, ← ih, List.findSome?_cons]
      cases (error? (k.ofDatum e.1)).or (error? (v.ofDatum e.2)) <;> rfl

/-! ## Collections -/

/-- What becomes of an output of rows whose values convert. -/
inductive Collects : HostReturn → Output → Returned → Prop
  | one {t : HostType} {d : Datum} {content : Content} (converted : t.ofDatum d = .ok content) :
      Collects (.single t) (.one d) (.single content)
  | list {t : HostType} {data : List Datum} {contents : List Content}
      (converted : List.Forall₂ (fun d c => t.ofDatum d = .ok c) data contents) :
      Collects (.list t) (.many data) (.list contents)
  | set {t : HostType} {data : List Datum} {contents : List Content}
      (converted : List.Forall₂ (fun d c => t.ofDatum d = .ok c) data contents) :
      Collects (.set t) (.many data) (.set (Content.sortDistinct contents))
  /-- The keys are those of the entries, in order, each once and with the last of its values. -/
  | map {k v : HostType} {entries : List (Datum × Datum)} {pairs sorted : List (Content × Content)}
      (converted : List.Forall₂ (fun e p => k.ofDatum e.1 = .ok p.1 ∧ v.ofDatum e.2 = .ok p.2)
        entries pairs)
      (ascending : Content.Ascending sorted)
      (own : ∀ entry ∈ sorted, entry.1 ∈ pairs.map (·.1))
      (last : ∀ key ∈ pairs.map (·.1), ∃ value, Content.lookup key sorted = some value ∧
        Content.lookup key pairs.reverse = some value)
      (exact : k.Exact → ∀ key ∈ pairs.map (·.1), ∀ key' ∈ pairs.map (·.1),
        Content.compare key key' = .eq → key = key') :
      Collects (.map k v) (.map entries) (.map sorted)

end HostReturn

/-! ## Keys -/

/-- What values become is compared by its rank, whatever the type is. -/
theorem Content.compare_rank_of_values {t : HostType} {v w : Value} {a b : Content}
    (ha : t.ofDatum (.value v) = .ok a) (hb : t.ofDatum (.value w) = .ok b) :
    compare a b = Ord.compare a.rank b.rank := by
  have typed := HostType.hasType_of_value ⟨[]⟩ ha
  have typed' := HostType.hasType_of_value ⟨[]⟩ hb
  by_cases bean : ∃ name, t.kind = .bean name
  · -- without classes only nothing is of the type of a bean
    obtain ⟨name, kind⟩ := bean
    obtain ⟨_, optional⟩ := t
    cases kind
    cases typed with
    | absent _ =>
      cases typed' with
      | absent _ => rfl
      | bean found _ => cases found
    | bean found _ => cases found
  · exact compare_rank (fun name kind => bean ⟨name, kind⟩) typed typed'

/-- The outputs that are made of rows. The keys of entries are values. -/
inductive Output.OfRows : Output → Prop
  | one (d : Datum) : OfRows (.one d)
  | many (data : List Datum) : OfRows (.many data)
  | map {entries : List (Datum × Datum)} (keys : ∀ e ∈ entries, ∃ v, e.1 = .value v) :
      OfRows (.map entries)

namespace HostReturn

theorem collects_map {k v : HostType} {entries : List (Datum × Datum)}
    {pairs : List (Content × Content)} (keys : ∀ e ∈ entries, ∃ w, e.1 = .value w)
    (converted : List.Forall₂ (fun e p => k.ofDatum e.1 = .ok p.1 ∧ v.ofDatum e.2 = .ok p.2)
      entries pairs) :
    Collects (.map k v) (.map entries) (.map (Content.sortByKey pairs)) := by
  have read : ∀ key ∈ pairs.map (·.1), ∃ w, k.ofDatum (.value w) = .ok key := by
    intro key mem
    obtain ⟨p, hp, rfl⟩ := List.mem_map.1 mem
    obtain ⟨e, he, made, -⟩ := exists_of_forall₂ converted hp
    obtain ⟨w, value⟩ := keys e he
    exact ⟨w, value ▸ made⟩
  have ranked : ∀ a b, (∃ w, k.ofDatum (.value w) = .ok a) → (∃ w, k.ofDatum (.value w) = .ok b) →
      Content.compare a b = Ord.compare a.rank b.rank :=
    fun a b ⟨_, ha⟩ ⟨_, hb⟩ => Content.compare_rank_of_values ha hb
  obtain ⟨ascending, last⟩ := Content.sortByKey_spec ranked fun p hp =>
    read p.1 (List.mem_map_of_mem hp)
  refine .map converted ascending (fun _ mem => Content.mem_sortByKey mem) (fun key mem => ?_) ?_
  · obtain ⟨p, hp, same⟩ := List.mem_map.1 mem
    have equal : Content.compare key p.1 = .eq := by
      rw [← same, ranked _ _ (read _ (List.mem_map_of_mem hp)) (read _ (List.mem_map_of_mem hp))]
      exact Std.ReflCmp.compare_self
    have found : ((pairs.reverse.find? fun entry => Content.compare key entry.1 = .eq)).isSome :=
      List.find?_isSome.2 ⟨p, List.mem_reverse.2 hp, decide_eq_true equal⟩
    obtain ⟨entry, found⟩ := Option.isSome_iff_exists.1 found
    have value : Content.lookup key pairs.reverse = some entry.2 := by
      rw [Content.lookup, found]
      rfl
    exact ⟨entry.2, (last key (read key mem)).trans value, value⟩
  · intro exact key mem key' mem' equal
    obtain ⟨w, made⟩ := read key mem
    obtain ⟨w', made'⟩ := read key' mem'
    exact Content.eq_of_compare exact (HostType.hasType_of_value ⟨[]⟩ made)
      (HostType.hasType_of_value ⟨[]⟩ made') equal

/-- An output of rows that converts is collected. -/
theorem collects_of_ofOutput {r : HostReturn} {o : Output} {result : Returned} (takes : r.Takes o)
    (rows : o.OfRows) (h : r.ofOutput o = .ok result) : r.Collects o result := by
  cases takes with
  | unit | count _ _ | listCounts _ _ | setCounts _ _ => cases rows
  | one t d =>
    obtain ⟨content, converted, rfl⟩ := map_eq_ok.1 h
    exact .one converted
  | list t data =>
    obtain ⟨contents, converted, rfl⟩ := map_eq_ok.1 h
    exact .list (mapM_eq_ok.1 converted)
  | set t data =>
    obtain ⟨contents, converted, rfl⟩ := map_eq_ok.1 h
    exact .set (mapM_eq_ok.1 converted)
  | map k v entries =>
    obtain ⟨pairs, converted, rfl⟩ := map_eq_ok.1 h
    have each : List.Forall₂ (fun e p => k.ofDatum e.1 = .ok p.1 ∧ v.ofDatum e.2 = .ok p.2)
        entries pairs := by
      refine (mapM_eq_ok.1 converted).imp fun e p made => ?_
      obtain ⟨key, hk, made⟩ := bind_eq_ok.1 made
      obtain ⟨value, hv, made⟩ := bind_eq_ok.1 made
      cases made
      exact ⟨hk, hv⟩
    cases rows with
    | map keys => exact collects_map keys each

end HostReturn

end QueryMethods
