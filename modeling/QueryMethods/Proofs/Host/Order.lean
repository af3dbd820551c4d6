/-
Collections in key order. Contents that are no beans are compared like lists of numbers, which makes
their order a linear one. So a list that entries are put into by their keys has each key once, in
order, and of each key the entry that was put in last.
-/
import QueryMethods.Host.Order
import QueryMethods.Proofs.Bean.Fields

namespace QueryMethods

/-! ## Ranks -/

def Date.rank (d : Date) : List Int := [d.year, d.month, d.day]

def TimeOfDay.rank (t : TimeOfDay) : List Int := [t.hour, t.minute, t.second, t.nanosecond]

/-- A text as numbers, with an end that comes before every character. -/
def Content.textRank (cs : List Char) : List Int := cs.map (fun c => (c.toNat : Int) + 1) ++ [0]

def Content.atomsRank : List Atom → List Int
  | [] => []
  | .integer n :: rest => 0 :: n :: atomsRank rest
  | .text s :: rest => 1 :: (textRank s.toList ++ atomsRank rest)

/-- The numbers that a value is compared by. -/
def Value.rank : Value → List Int
  | .bool b => [b.toNat]
  | .byte n => [n.toInt]
  | .short n => [n.toInt]
  | .int n => [n.toInt]
  | .long n => [n.toInt]
  | .char c => [c.toNat]
  | .string s => Content.textRank s.toList
  | .date d => d.rank
  | .time t => t.rank
  | .timestamp s => s.date.rank ++ s.time.rank
  | .custom f => Content.atomsRank (f.fields.map (·.2))
  | .null | .float _ | .double _ => []

/-- The numbers that a content is compared by; nothing comes first. -/
def Content.rank : Content → List Int
  | absent => []
  | value v => 0 :: v.rank
  | unsigned n => [0, n.toNat]
  | bean _ _ => [0]

theorem compare_natCast (a b : Nat) : Ord.compare (a : Int) (b : Int) = Ord.compare a b := by
  show compareOfLessAndEq _ _ = compareOfLessAndEq _ _
  simp [compareOfLessAndEq]

theorem compare_cast_succ (a b : Nat) :
    Ord.compare ((a : Int) + 1) ((b : Int) + 1) = Ord.compare a b := by
  show compareOfLessAndEq _ _ = compareOfLessAndEq _ _
  simp [compareOfLessAndEq]

theorem compare_singleton (a b : Int) : Ord.compare [a] [b] = Ord.compare a b := by
  rw [List.compare_cons_cons]
  cases Ord.compare a b <;> rfl

theorem Date.compare_rank (a b : Date) (x y : List Int) :
    Ord.compare (a.rank ++ x) (b.rank ++ y) = (a.compare b).then (Ord.compare x y) := by
  simp only [rank, List.cons_append, List.nil_append, List.compare_cons_cons, compare_natCast,
    Date.compare, Ordering.then_assoc]

theorem TimeOfDay.compare_rank (a b : TimeOfDay) :
    Ord.compare a.rank b.rank = a.compare b := by
  simp only [rank, List.compare_cons_cons, compare_natCast, TimeOfDay.compare]
  rw [show Ord.compare ([] : List Int) [] = .eq from rfl, Ordering.then_eq]

namespace Content

theorem compare_textRank : ∀ (a b : List Char) (x y : List Int),
    Ord.compare (textRank a ++ x) (textRank b ++ y) = (compareChars a b).then (Ord.compare x y)
  | [], [], x, y => by
    simp [textRank, compareChars, List.compare_cons_cons]
  | [], b :: bs, x, y => by
    have first : Ord.compare (0 : Int) ((b.toNat : Int) + 1) = .lt := compare_lt_iff_lt.2 (by omega)
    simp [textRank, compareChars, List.compare_cons_cons, first]
  | a :: as, [], x, y => by
    have first : Ord.compare ((a.toNat : Int) + 1) (0 : Int) = .gt := compare_gt_iff_gt.2 (by omega)
    simp [textRank, compareChars, List.compare_cons_cons, first]
  | a :: as, b :: bs, x, y => by
    have ih := compare_textRank as bs x y
    unfold textRank at ih ⊢
    rw [List.map_cons, List.map_cons, List.cons_append, List.cons_append, List.cons_append,
      List.cons_append, List.compare_cons_cons, compare_cast_succ, ih, compareChars,
      Ordering.then_assoc]

theorem compare_atomsRank : ∀ a b : List Atom,
    Ord.compare (atomsRank a) (atomsRank b) = compareAtoms a b
  | [], [] => rfl
  | [], .integer n :: rest => rfl
  | [], .text s :: rest => rfl
  | .integer n :: rest, [] => rfl
  | .text s :: rest, [] => rfl
  | .integer a :: as, .text b :: bs => rfl
  | .text a :: as, .integer b :: bs => rfl
  | .integer a :: as, .integer b :: bs => by
    rw [atomsRank, atomsRank, List.compare_cons_cons, List.compare_cons_cons, compare_atomsRank,
      compareAtoms, compareAtom]
    rfl
  | .text a :: as, .text b :: bs => by
    rw [atomsRank, atomsRank, List.compare_cons_cons, compare_textRank, compare_atomsRank,
      compareAtoms, compareAtom, compareText]
    rfl

end Content

theorem Value.compare_rank {a b : Value} {s : BuiltinType} (ha : a.type? = some s)
    (hb : b.type? = some s) : Content.compareValue a b = Ord.compare a.rank b.rank := by
  -- of the pairs of values those of different types are none
  cases a <;> cases ha <;> cases b <;> cases hb
  case string.refl.string.refl a b =>
    have text := Content.compare_textRank a.toList b.toList [] []
    rw [List.append_nil, List.append_nil] at text
    exact (text.trans Ordering.then_eq).symm
  case date.refl.date.refl a b =>
    have date := a.compare_rank b [] []
    rw [List.append_nil, List.append_nil] at date
    exact (date.trans Ordering.then_eq).symm
  case time.refl.time.refl a b => exact (a.compare_rank b).symm
  case timestamp.refl.timestamp.refl a b =>
    show (a.date.compare b.date).then (a.time.compare b.time) = Ord.compare (_ ++ _) (_ ++ _)
    rw [Date.compare_rank, TimeOfDay.compare_rank]
  case bool.refl.bool.refl a b | char.refl.char.refl a b =>
    exact (compare_natCast _ _).symm.trans (compare_singleton _ _).symm
  case float.refl.float.refl | double.refl.double.refl => rfl
  all_goals exact (compare_singleton _ _).symm

namespace Content

/-- Contents of one type that are no beans are compared by their ranks. -/
theorem compare_rank {catalog : Catalog} {t : HostType} (plain : ∀ name, t.kind ≠ .bean name)
    {a b : Content} (ha : a.HasType catalog t) (hb : b.HasType catalog t) :
    compare a b = Ord.compare a.rank b.rank := by
  cases ha with
  | absent _ => cases hb <;> rfl
  | scalar ha =>
    cases hb with
    | absent _ => rfl
    | scalar hb => exact Value.compare_rank ha hb
  | @unsigned _ m _ _ =>
    cases hb with
    | absent _ => rfl
    | @unsigned _ n _ _ => exact (compare_natCast _ _).symm.trans (compare_singleton _ _).symm
  | @custom _ _ f _ _ =>
    cases hb with
    | absent _ => rfl
    | @custom _ _ g _ _ => exact (compare_atomsRank (f.fields.map (·.2)) (g.fields.map (·.2))).symm
  | bean _ _ => exact absurd rfl (plain _)

end Content

/-! ## Equal contents -/

theorem Content.textRank_injective {a b : List Char} (h : textRank a = textRank b) : a = b := by
  refine List.map_injective_iff.2 (fun c d same => ?_) (List.append_cancel_right h)
  exact Char.toNat_inj.1 (by omega)

theorem Date.rank_injective {a b : Date} (h : a.rank = b.rank) : a = b := by
  obtain ⟨year, month, day, _, _⟩ := a
  obtain ⟨year', month', day', _, _⟩ := b
  simp only [rank, List.cons.injEq, Nat.cast_inj, and_true] at h
  obtain ⟨rfl, rfl, rfl⟩ := h
  rfl

theorem TimeOfDay.rank_injective {a b : TimeOfDay} (h : a.rank = b.rank) : a = b := by
  obtain ⟨hour, minute, second, nanosecond, _, _, _, _⟩ := a
  obtain ⟨hour', minute', second', nanosecond', _, _, _, _⟩ := b
  simp only [rank, List.cons.injEq, Nat.cast_inj, and_true] at h
  obtain ⟨rfl, rfl, rfl, rfl⟩ := h
  rfl

theorem Value.rank_injective {a b : Value} {s : BuiltinType} (ha : a.type? = some s)
    (hb : b.type? = some s) (exact : s ≠ .float ∧ s ≠ .double) (h : a.rank = b.rank) : a = b := by
  cases a <;> cases ha <;> cases b <;> cases hb
  case float.refl.float.refl => exact absurd rfl exact.1
  case double.refl.double.refl => exact absurd rfl exact.2
  case string.refl.string.refl a b =>
    exact congrArg _ (String.toList_inj.1 (Content.textRank_injective h))
  case date.refl.date.refl => exact congrArg _ (Date.rank_injective h)
  case time.refl.time.refl => exact congrArg _ (TimeOfDay.rank_injective h)
  case timestamp.refl.timestamp.refl a b =>
    obtain ⟨date, time⟩ := List.append_inj h rfl
    exact congrArg₂ (fun d t => Value.timestamp ⟨d, t⟩) (Date.rank_injective date)
      (TimeOfDay.rank_injective time)
  case bool.refl.bool.refl a b => cases a <;> cases b <;> first | rfl | cases h
  case char.refl.char.refl a b =>
    exact congrArg _ (Char.toNat_inj.1 (Int.ofNat.inj (List.cons.inj h).1))
  case byte.refl.byte.refl => exact congrArg _ (Int8.toInt_inj.1 (List.cons.inj h).1)
  case short.refl.short.refl => exact congrArg _ (Int16.toInt_inj.1 (List.cons.inj h).1)
  case int.refl.int.refl => exact congrArg _ (Int32.toInt_inj.1 (List.cons.inj h).1)
  case long.refl.long.refl => exact congrArg _ (Int64.toInt_inj.1 (List.cons.inj h).1)

/-- The built-in types but the floating point ones, and the unsigned types. -/
inductive HostType.Exact : HostType → Prop
  | scalar {s : BuiltinType} {o : Bool} (exact : s ≠ .float ∧ s ≠ .double) : Exact ⟨.scalar s, o⟩
  | unsigned {u : UnsignedType} {o : Bool} : Exact ⟨.unsigned u, o⟩

namespace Content

/-- Contents of such a type are compared as equal only if they are. -/
theorem eq_of_compare {catalog : Catalog} {t : HostType} (exact : t.Exact) {a b : Content}
    (ha : a.HasType catalog t) (hb : b.HasType catalog t) (h : compare a b = .eq) : a = b := by
  have plain : ∀ name, t.kind ≠ .bean name := by cases exact <;> exact fun _ => nofun
  rw [compare_rank plain ha hb] at h
  have same := Std.LawfulEqOrd.eq_of_compare h
  cases exact with
  | scalar exact =>
    cases ha with
    | absent _ =>
      cases hb with
      | absent _ => rfl
      | scalar _ => cases same
    | scalar ha =>
      cases hb with
      | absent _ => cases same
      | scalar hb => exact congrArg _ (Value.rank_injective ha hb exact (List.cons.inj same).2)
  | unsigned =>
    cases ha with
    | absent _ =>
      cases hb with
      | absent _ => rfl
      | unsigned _ => cases same
    | unsigned _ =>
      cases hb with
      | absent _ => cases same
      | unsigned _ =>
        obtain ⟨number, -⟩ := List.cons.inj (List.cons.inj same).2
        exact congrArg _ (UInt64.toNat_inj.1 (Int.ofNat.inj number))

/-! ## Entries by their keys -/

section

variable {α : Type}

/-- The entry of a key. -/
def lookup (key : Content) (entries : List (Content × α)) : Option α :=
  (entries.find? fun entry => compare key entry.1 = .eq).map (·.2)

/-- The keys are in order, each of them once. -/
def Ascending (entries : List (Content × α)) : Prop :=
  entries.Pairwise fun a b => compare a.1 b.1 = .lt

theorem lookup_cons (x key : Content) (entry : α) (rest : List (Content × α)) :
    lookup x ((key, entry) :: rest) = if compare x key = .eq then some entry else lookup x rest := by
  unfold lookup
  rw [List.find?_cons]
  by_cases same : compare x key = .eq <;> simp [same]

theorem lookup_append (x : Content) (a b : List (Content × α)) :
    lookup x (a ++ b) = (lookup x a).or (lookup x b) := by
  unfold lookup
  rw [List.find?_append]
  cases a.find? fun entry => compare x entry.1 = .eq <;> rfl

theorem mem_insertByKey {key : Content} {entry : α} : ∀ {entries : List (Content × α)}
    {x : Content × α}, x ∈ insertByKey key entry entries → x.1 = key ∨ x.1 ∈ entries.map (·.1)
  | [], x, h => .inl (congrArg (·.1) (List.mem_singleton.1 h))
  | (k, old) :: rest, x, h => by
    unfold insertByKey at h
    split at h
    · rcases List.mem_cons.1 h with rfl | h
      · exact .inl rfl
      · exact .inr (List.mem_map_of_mem h)
    · rcases List.mem_cons.1 h with rfl | h
      · exact .inr List.mem_cons_self
      · exact .inr (List.mem_cons_of_mem _ (List.mem_map_of_mem h))
    · rcases List.mem_cons.1 h with rfl | h
      · exact .inr List.mem_cons_self
      · exact (mem_insertByKey h).imp_right (List.mem_cons_of_mem _)

theorem sortByKey_eq (entries : List (Content × α)) :
    sortByKey entries = entries.foldl (fun sorted e => insertByKey e.1 e.2 sorted) [] := rfl

theorem mem_sortByKey {entries : List (Content × α)} {x : Content × α} (h : x ∈ sortByKey entries) :
    x.1 ∈ entries.map (·.1) := by
  suffices step : ∀ {sorted : List (Content × α)},
      x ∈ entries.foldl (fun sorted e => insertByKey e.1 e.2 sorted) sorted →
        x.1 ∈ sorted.map (·.1) ∨ x.1 ∈ entries.map (·.1) from
    (step (sortByKey_eq entries ▸ h)).resolve_left List.not_mem_nil
  clear h
  induction entries with
  | nil => exact fun h => .inl (List.mem_map_of_mem h)
  | cons e rest ih =>
    intro sorted h
    rcases ih h with inserted | behind
    · obtain ⟨x', mem, same⟩ := List.mem_map.1 inserted
      rw [← same]
      exact (mem_insertByKey mem).elim (fun own => .inr (own ▸ List.mem_cons_self)) .inl
    · exact .inr (List.mem_cons_of_mem _ behind)

variable {K : Content → Prop} (ranked : ∀ a b, K a → K b → compare a b = Ord.compare a.rank b.rank)

include ranked

/-- What is put in is found by its key, and nothing else is changed. -/
theorem lookup_insertByKey {x key : Content} (hx : K x) (hk : K key) (entry : α) :
    ∀ {entries : List (Content × α)}, (∀ e ∈ entries, K e.1) →
      lookup x (insertByKey key entry entries) =
        if compare x key = .eq then some entry else lookup x entries
  | [], _ => lookup_cons x key entry []
  | (k, old) :: rest, keys => by
    obtain ⟨own, others⟩ := List.forall_mem_cons.1 keys
    have first := ranked key k hk own
    have xk := ranked x k hx own
    have xkey := ranked x key hx hk
    unfold insertByKey
    split
    · exact lookup_cons x key entry _
    · next same =>
      -- the two keys have one rank, so that they are found alike
      rw [same] at first
      have alike : compare x k = compare x key := by
        rw [xk, xkey, Std.LawfulEqOrd.eq_of_compare first.symm]
      rw [lookup_cons, lookup_cons, alike]
      split <;> rfl
    · next greater =>
      rw [lookup_cons, lookup_cons, lookup_insertByKey hx hk entry others]
      by_cases at' : compare x k = .eq
      · have other : compare x key ≠ .eq := by
          intro same
          rw [xkey] at same
          rw [xk, Std.LawfulEqOrd.eq_of_compare same, ← first, greater] at at'
          cases at'
        rw [if_pos at', if_neg other, if_pos at']
      · rw [if_neg at', if_neg at']

theorem ascending_insertByKey {key : Content} (hk : K key) (entry : α) :
    ∀ {entries : List (Content × α)}, (∀ e ∈ entries, K e.1) → Ascending entries →
      Ascending (insertByKey key entry entries)
  | [], _, _ => List.pairwise_singleton _ _
  | (k, old) :: rest, keys, ascending => by
    obtain ⟨own, others⟩ := List.forall_mem_cons.1 keys
    obtain ⟨above, behind⟩ := List.pairwise_cons.1 ascending
    have first := ranked key k hk own
    unfold insertByKey
    split
    · next less =>
      refine List.pairwise_cons.2 ⟨List.forall_mem_cons.2 ⟨less, fun e he => ?_⟩, ascending⟩
      have next := above e he
      rw [ranked _ _ own (others e he)] at next
      rw [ranked _ _ hk (others e he)]
      exact Std.TransCmp.lt_trans (first.symm.trans less) next
    · exact List.pairwise_cons.2 ⟨above, behind⟩
    · next greater =>
      refine List.pairwise_cons.2 ⟨fun e he => ?_, ascending_insertByKey hk entry others behind⟩
      rcases mem_insertByKey he with same | mem
      · have swapped : Ord.compare k.rank key.rank = (Ord.compare key.rank k.rank).swap :=
          Std.OrientedCmp.eq_swap
        rw [same, ranked _ _ own hk, swapped, ← first, greater]
        rfl
      · obtain ⟨e', he', same⟩ := List.mem_map.1 mem
        rw [← same]
        exact above e' he'

/-- A sorted list has each key once, in order, and of each key the last entry. -/
theorem sortByKey_spec {entries : List (Content × α)} (keys : ∀ e ∈ entries, K e.1) :
    Ascending (sortByKey entries) ∧ ∀ x, K x →
      lookup x (sortByKey entries) = lookup x entries.reverse := by
  -- what is sorted already is looked up behind the entries that are still to be put in
  suffices step : ∀ sorted : List (Content × α), (∀ e ∈ sorted, K e.1) → Ascending sorted →
      let all := entries.foldl (fun sorted e => insertByKey e.1 e.2 sorted) sorted
      Ascending all ∧ ∀ x, K x → lookup x all = (lookup x entries.reverse).or (lookup x sorted) by
    rw [sortByKey_eq]
    obtain ⟨ascending, found⟩ := step [] nofun .nil
    exact ⟨ascending, fun x hx => (found x hx).trans Option.or_none⟩
  induction entries with
  | nil => exact fun sorted _ ascending => ⟨ascending, fun _ _ => rfl⟩
  | cons e rest ih =>
    intro sorted own ascending
    obtain ⟨key, entry⟩ := e
    obtain ⟨hk, others⟩ := List.forall_mem_cons.1 keys
    have inserted : ∀ e ∈ insertByKey key entry sorted, K e.1 := by
      intro e he
      rcases mem_insertByKey he with same | mem
      · rw [same]
        exact hk
      · obtain ⟨e', he', same⟩ := List.mem_map.1 mem
        rw [← same]
        exact own e' he'
    obtain ⟨ascending', found⟩ := ih others (insertByKey key entry sorted) inserted
      (ascending_insertByKey ranked hk entry own ascending)
    refine ⟨ascending', fun x hx => (found x hx).trans ?_⟩
    rw [List.reverse_cons, lookup_append, lookup_cons, lookup_insertByKey ranked hx hk entry own,
      Option.or_assoc]
    congr 1
    split <;> rfl

end

end Content

end QueryMethods
