/-
Fields that are written in another order. Behind some writes a field holds what was converted for
it, or its bean with what was written through it, or what it held before. A value that is written
leaves no bean to be written through, so the order of the writes does not show.
-/
import QueryMethods.Proofs.Bean.Writing

namespace QueryMethods

namespace Bean

/-! ## One write -/

/-- What the writing of a value changes: the field at the end of its path, or the bean in the field
that its path leads through. -/
inductive Wrote (b : Bean) (v : Value) : FieldPath → Bean → Prop
  | field {step : PathStep} {position : Nat} {m : Member} {x : Content}
      (found : b.shape.fields[step.index]? = some (position, m))
      (converted : m.type.ofDatum (.value v) = .ok x) : Wrote b v [step] (b.put position x)
  | inner {step : PathStep} {rest : FieldPath} {position : Nat} {m : Member} {inner inner' : Bean}
      (further : rest ≠ []) (found : b.shape.fields[step.index]? = some (position, m))
      (held : b.contents[position]? = some (.bean inner.shape inner.contents))
      (written : inner.writePath (.value v) rest = .ok inner') :
      Wrote b v (step :: rest) (b.put position (.bean inner'.shape inner'.contents))

theorem nested?_eq_some {b inner : Bean} {index : Nat} (h : b.nested? index = some inner) :
    ∃ position m, b.shape.fields[index]? = some (position, m) ∧
      b.contents[position]? = some (.bean inner.shape inner.contents) := by
  unfold nested? at h
  obtain ⟨⟨position, m⟩, found, h⟩ := Option.bind_eq_some_iff.1 h
  dsimp only at h
  split at h
  · split at h
    · next held =>
      cases h
      exact ⟨position, m, found, held⟩
    · cases h
  · cases h

theorem wrote_of_writePath {b b' : Bean} {v : Value} {path : FieldPath}
    (h : b.writePath (.value v) path = .ok b') : b.Wrote v path b' := by
  unfold writePath at h
  split at h
  · cases h
  · unfold set at h
    split at h
    · next position m found =>
      obtain ⟨x, converted, h⟩ := bind_eq_ok.1 h
      cases h
      exact .field found converted
    · cases h
  · next step rest further =>
    split at h
    · next inner nested =>
      obtain ⟨inner', written, rfl⟩ := map_eq_ok.1 h
      obtain ⟨position, m, found, held⟩ := nested?_eq_some nested
      unfold replaceNested
      rw [found]
      exact .inner further found held written
    · cases h

/-! ## Writes through one field -/

/-- Write values at the ends of paths, in order. -/
def writeAll (b : Bean) : List (FieldPath × Value) → Except ConversionFailure Bean
  | [] => .ok b
  | w :: rest => b.writePath (.value w.2) w.1 >>= fun b => writeAll b rest

/-- The write that is left behind the field of that index, if it is the first of its path. -/
def past? (index : Nat) (w : FieldPath × Value) : Option (FieldPath × Value) :=
  match w.1 with
  | step :: rest => if step.index = index then some (rest, w.2) else none
  | [] => none

theorem past?_eq_some {index : Nat} {w w' : FieldPath × Value} (h : past? index w = some w') :
    ∃ step, w.1 = step :: w'.1 ∧ step.index = index ∧ w'.2 = w.2 := by
  unfold past? at h
  split at h
  · next step rest path =>
    split at h
    · next same =>
      cases h
      exact ⟨step, path, same, rfl⟩
    · cases h
  · cases h

/-- What a field comes to hold by the writes behind it. -/
inductive Settles (m : Member) (writes : List (FieldPath × Value)) (old : Option Content) :
    Option Content → Prop
  | untouched (none : writes = []) : Settles m writes old old
  | replaced {v : Value} {x : Content} (mem : ([], v) ∈ writes)
      (converted : m.type.ofDatum (.value v) = .ok x) : Settles m writes old (old.map fun _ => x)
  | inner {b b' : Bean} (deeper : ∀ w ∈ writes, w.1 ≠ []) (written : writes ≠ [])
      (held : old = some (.bean b.shape b.contents)) (result : b.writeAll writes = .ok b') :
      Settles m writes old (some (.bean b'.shape b'.contents))

/-- A value does not become a bean. -/
theorem ne_bean_of_value {t : HostType} {v : Value} {x : Content} (h : t.ofDatum (.value v) = .ok x)
    (shape : BeanShape) (contents : List Content) : x ≠ .bean shape contents := by
  rintro rfl
  cases HostType.hasType_of_value ⟨[]⟩ h with
  | bean found _ => cases found

theorem eq_of_content {b b' : Bean}
    (h : Content.bean b.shape b.contents = .bean b'.shape b'.contents) : b = b' := by
  obtain ⟨shape, contents⟩ := b
  obtain ⟨shape', contents'⟩ := b'
  cases h
  rfl

/-- A write changes what one field holds. -/
theorem Wrote.put {b b' : Bean} {v : Value} {path : FieldPath} (h : b.Wrote v path b') :
    ∃ step rest position m y, path = step :: rest ∧
      b.shape.fields[step.index]? = some (position, m) ∧ b' = b.put position y := by
  cases h with
  | field found converted => exact ⟨_, _, _, _, _, rfl, found, rfl⟩
  | inner further found held written => exact ⟨_, _, _, _, _, rfl, found, rfl⟩

/-- The first write and those behind it settle what its field comes to hold. -/
theorem Wrote.settles {b b' : Bean} {v : Value} {step : PathStep} {rest : FieldPath} {position : Nat}
    {m : Member} (h : b.Wrote v (step :: rest) b')
    (found : b.shape.fields[step.index]? = some (position, m))
    {writes : List (FieldPath × Value)} {held : Option Content}
    (behind : Settles m writes b'.contents[position]? held) :
    Settles m ((rest, v) :: writes) b.contents[position]? held := by
  cases h with
  | field found' converted =>
    cases found.symm.trans found'
    rw [show (b.put position _).contents[position]? = b.contents[position]?.map _ from
      List.getElem?_set_self'] at behind
    cases behind with
    | untouched none => exact .replaced List.mem_cons_self converted
    | replaced mem converted' =>
      rw [Option.map_map]
      exact .replaced (List.mem_cons_of_mem _ mem) converted'
    | inner _ _ bean _ =>
      obtain ⟨_, -, same⟩ := Option.map_eq_some_iff.1 bean
      exact absurd same (ne_bean_of_value converted _ _)
  | @inner _ _ _ _ inner inner' further found' bean written =>
    cases found.symm.trans found'
    have inside := (List.getElem?_eq_some_iff.1 bean).1
    rw [show (b.put position _).contents[position]? = _ from List.getElem?_set_self inside] at behind
    have first (rest' : List (FieldPath × Value)) :
        inner.writeAll ((rest, v) :: rest') = inner'.writeAll rest' := by
      rw [writeAll, written]
      rfl
    cases behind with
    | untouched none =>
      subst none
      exact .inner (List.forall_mem_singleton.2 further) (List.cons_ne_nil _ _) bean (first [])
    | @replaced v' x mem converted =>
      have replaced : b.contents[position]?.map (fun _ => x) = some x := by
        rw [bean]
        rfl
      rw [show (some (Content.bean inner'.shape inner'.contents)).map (fun _ => x) = some x from rfl,
        ← replaced]
      exact .replaced (List.mem_cons_of_mem _ mem) converted
    | inner deeper _ bean' result =>
      cases eq_of_content (Option.some.inj bean')
      exact .inner (List.forall_mem_cons.2 ⟨further, deeper⟩) (List.cons_ne_nil _ _) bean
        ((first _).trans result)

/-- What each field comes to hold is settled by the writes behind it. -/
theorem settles_of_writeAll : ∀ {writes : List (FieldPath × Value)} {b b' : Bean},
    b.writeAll writes = .ok b' → b'.shape = b.shape ∧
      (∀ {index position : Nat} {m : Member}, b.shape.fields[index]? = some (position, m) →
        Settles m (writes.filterMap (past? index)) b.contents[position]? b'.contents[position]?) ∧
      ∀ position, (∀ field ∈ b.shape.fields, field.1 ≠ position) →
        b'.contents[position]? = b.contents[position]?
  | [], b, b', h => by
    cases h
    exact ⟨rfl, fun _ => .untouched rfl, fun _ _ => rfl⟩
  | (path, v) :: rest, b, b', h => by
    obtain ⟨b₁, first, h⟩ := bind_eq_ok.1 h
    have wrote := wrote_of_writePath first
    obtain ⟨step, path', position, m, y, rfl, found, rfl⟩ := wrote.put
    obtain ⟨shape, settled, others⟩ := settles_of_writeAll h
    refine ⟨shape, fun {index place n} found' => ?_, fun place none => ?_⟩
    · have behind := settled found'
      rw [List.filterMap_cons]
      by_cases same : step.index = index
      · subst same
        cases found.symm.trans found'
        rw [show past? step.index (step :: path', v) = some (path', v) from if_pos rfl]
        exact wrote.settles found behind
      · rw [show past? index (step :: path', v) = none from if_neg same]
        have apart := BeanShape.place_ne found found' (Ne.symm same)
        rwa [show (b.put position y).contents[place]? = b.contents[place]? from
          List.getElem?_set_ne apart.symm] at behind
    · have apart := none _ (List.mem_of_getElem? found)
      exact (others place none).trans (List.getElem?_set_ne apart)

/-! ## Another order -/

/-- The indices of a path, which are what it leads along. -/
def indices (path : FieldPath) : List Nat := path.map (·.index)

theorem nodup_past {writes : List (FieldPath × Value)} (index : Nat)
    (distinct : (writes.map fun w => indices w.1).Nodup) :
    ((writes.filterMap (past? index)).map fun w => indices w.1).Nodup := by
  induction writes with
  | nil => exact List.nodup_nil
  | cons w rest ih =>
    obtain ⟨apart, others⟩ := List.nodup_cons.1 distinct
    rw [List.filterMap_cons]
    cases first : past? index w with
    | none => exact ih others
    | some w' =>
      refine List.nodup_cons.2 ⟨fun mem => apart ?_, ih others⟩
      obtain ⟨y', hy', same⟩ := List.mem_map.1 mem
      obtain ⟨y, hy, behind⟩ := List.mem_filterMap.1 hy'
      -- what is behind one field determines the whole path
      obtain ⟨step, path, here, -⟩ := past?_eq_some first
      obtain ⟨step', path', here', -⟩ := past?_eq_some behind
      have both : indices w.1 = indices y.1 := by
        unfold indices at same ⊢
        rw [path, path', List.map_cons, List.map_cons, here, here', same]
      exact List.mem_map.2 ⟨y, hy, both.symm⟩

/-- Writes behind a field settle the same in every order, if those through its bean do. -/
theorem Settles.unique {m : Member} {writes writes' : List (FieldPath × Value)}
    {old held held' : Option Content} (h : Settles m writes old held)
    (h' : Settles m writes' old held') (perm : writes.Perm writes')
    (distinct : (writes.map fun w => indices w.1).Nodup)
    (within : ∀ {b b₁ b₂ : Bean}, b.writeAll writes = .ok b₁ → b.writeAll writes' = .ok b₂ → b₁ = b₂) :
    held = held' := by
  cases h with
  | untouched none =>
    subst none
    cases perm.nil_eq
    cases h' with
    | untouched _ => rfl
    | replaced mem _ => cases mem
    | inner _ written _ _ => exact absurd rfl written
  | @replaced v x mem converted =>
    have mem' := perm.subset mem
    cases h' with
    | untouched none =>
      rw [none] at mem'
      cases mem'
    | @replaced v' x' other converted' =>
      have same : (([], v) : FieldPath × Value) = ([], v') :=
        List.inj_on_of_nodup_map distinct mem (perm.symm.subset other) rfl
      cases same
      cases converted.symm.trans converted'
      rfl
    | inner deeper _ _ _ => exact absurd rfl (deeper _ mem')
  | inner deeper written held result =>
    cases h' with
    | untouched none =>
      subst none
      exact absurd perm.eq_nil written
    | replaced mem _ => exact absurd rfl (deeper _ (perm.symm.subset mem))
    | inner _ _ held' result' =>
      cases eq_of_content (Option.some.inj (held.symm.trans held'))
      rw [within result result']

theorem writeAll_perm_of_depth : ∀ (depth : Nat) {b b₁ b₂ : Bean}
    {writes writes' : List (FieldPath × Value)},
    (∀ w ∈ writes, w.1.length ≤ depth) → writes.Perm writes' →
      (writes.map fun w => indices w.1).Nodup → b.writeAll writes = .ok b₁ →
        b.writeAll writes' = .ok b₂ → b₁ = b₂
  | 0, b, b₁, b₂, writes, writes', short, perm, _, h, h' => by
    cases writes with
    | nil =>
      cases perm.nil_eq
      cases h
      cases h'
      rfl
    | cons w rest =>
      -- nothing is written at the end of an empty path
      have none : w.1 = [] := List.length_eq_zero_iff.1 (Nat.le_zero.1 (short w List.mem_cons_self))
      obtain ⟨_, first, -⟩ := bind_eq_ok.1 h
      rw [none] at first
      cases first
  | depth + 1, b, b₁, b₂, writes, writes', short, perm, distinct, h, h' => by
    obtain ⟨shape, settled, others⟩ := settles_of_writeAll h
    obtain ⟨shape', settled', others'⟩ := settles_of_writeAll h'
    have contents : b₁.contents = b₂.contents := by
      refine List.ext_getElem? fun position => ?_
      by_cases field : ∃ f ∈ b.shape.fields, f.1 = position
      · obtain ⟨⟨_, m⟩, mem, rfl⟩ := field
        obtain ⟨index, found⟩ := List.mem_iff_getElem?.1 mem
        have behind := perm.filterMap (past? index)
        have apart := nodup_past index distinct
        refine (settled found).unique (settled' found) behind apart ?_
        refine writeAll_perm_of_depth depth (fun w hw => ?_) behind apart
        obtain ⟨whole, mem, left⟩ := List.mem_filterMap.1 hw
        obtain ⟨step, path, -⟩ := past?_eq_some left
        have longer := short whole mem
        rw [path, List.length_cons] at longer
        exact Nat.le_of_succ_le_succ longer
      · have none : ∀ f ∈ b.shape.fields, f.1 ≠ position := fun f hf same => field ⟨f, hf, same⟩
        exact (others position none).trans (others' position none).symm
    obtain ⟨_, _⟩ := b₁
    obtain ⟨_, _⟩ := b₂
    cases contents
    cases shape
    cases shape'
    rfl

/-- Writes to different fields leave the same in every order in which they succeed. -/
theorem writeAll_perm {b b₁ b₂ : Bean} {writes writes' : List (FieldPath × Value)}
    (perm : writes.Perm writes') (distinct : (writes.map fun w => indices w.1).Nodup)
    (h : b.writeAll writes = .ok b₁) (h' : b.writeAll writes' = .ok b₂) : b₁ = b₂ :=
  writeAll_perm_of_depth (writes.map (·.1.length)).sum
    (fun _ hw => List.le_sum_of_mem (List.mem_map_of_mem hw)) perm distinct h h'

end Bean

end QueryMethods
