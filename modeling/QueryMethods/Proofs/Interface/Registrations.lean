/-
Laws of the adapter table: what a lookup finds after a registration, and that registrations under
different keys may be made in any order.
-/
import Mathlib.Data.List.Nodup
import Mathlib.Data.String.Basic
import QueryMethods.Adapter.Table

namespace QueryMethods

namespace AdapterTable

/-! ## Insertion in key order -/

theorem find?_insertSorted_of_ne {key key' : String} {a : Adapter} (ne : key' ≠ key) :
    ∀ entries, (insertSorted key a entries).find? (·.1 = key') = entries.find? (·.1 = key')
  | [] => by simp [insertSorted, ne.symm]
  | (k, b) :: rest => by
    unfold insertSorted
    split
    · simp [List.find?_cons, ne.symm]
    · rw [List.find?_cons, List.find?_cons, find?_insertSorted_of_ne ne rest]

theorem find?_insertSorted_self {key : String} {a : Adapter} :
    ∀ {entries}, entries.find? (fun e : String × Adapter => e.1 = key) = none →
      (insertSorted key a entries).find? (·.1 = key) = some (key, a)
  | [], _ => by simp [insertSorted]
  | (k, b) :: rest, absent => by
    have ne : k ≠ key := by
      intro eq
      simp [eq] at absent
    have behind : rest.find? (fun e : String × Adapter => e.1 = key) = none := by
      simpa [List.find?_cons, ne] using absent
    unfold insertSorted
    split
    · simp
    · rw [List.find?_cons_of_neg (by simpa using ne), find?_insertSorted_self behind]

/-- Insertions under different keys may change places. -/
theorem insertSorted_comm {key key' : String} {a a' : Adapter} (ne : key ≠ key') :
    ∀ entries, insertSorted key a (insertSorted key' a' entries) =
      insertSorted key' a' (insertSorted key a entries)
  | [] => by
    rcases lt_or_gt_of_ne ne with lt | gt
    · simp [insertSorted, lt, lt.not_gt]
    · simp [insertSorted, gt, gt.not_gt]
  | (k, b) :: rest => by
    have ih : insertSorted key a (insertSorted key' a' rest) =
        insertSorted key' a' (insertSorted key a rest) := insertSorted_comm ne rest
    -- where both go in front of `k`, the order of the two keys decides
    by_cases h : key < k <;> by_cases h' : key' < k
    · rcases lt_or_gt_of_ne ne with lt | gt
      · simp [insertSorted, h, h', lt, lt.not_gt]
      · simp [insertSorted, h, h', gt, gt.not_gt]
    · have lt : key < key' := h.trans_le (not_lt.1 h')
      simp [insertSorted, h, h', lt.not_gt]
    · have lt : key' < key := h'.trans_le (not_lt.1 h)
      simp [insertSorted, h, h', lt.not_gt]
    · simp [insertSorted, h, h', ih]

/-! ## One registration -/

/-- The table after an attempt to register: a rejected one changes nothing. -/
def accept (t : AdapterTable) (key : String) (a : Adapter) : AdapterTable :=
  if t.isFree key then ⟨insertSorted key a t.entries⟩ else t

theorem accept_of_free {t : AdapterTable} {key : String} {a : Adapter}
    (free : t.isFree key = true) : t.accept key a = ⟨insertSorted key a t.entries⟩ :=
  if_pos free

theorem accept_of_taken {t : AdapterTable} {key : String} {a : Adapter}
    (taken : t.isFree key = false) : t.accept key a = t := by
  simp [accept, taken]

theorem register_of_free {t : AdapterTable} {key : String} {a : Adapter}
    (free : t.isFree key = true) : t.register key a = .ok (t.accept key a) := by
  rw [accept_of_free free]
  exact if_pos free

theorem register_of_taken {t : AdapterTable} {key : String} {a : Adapter}
    (taken : t.isFree key = false) : t.register key a = .error (.duplicateAdapter key) := by
  simp [register, taken]

theorem get?_accept_of_ne (t : AdapterTable) {key key' : String} {a : Adapter}
    (ne : key' ≠ key) : (t.accept key a).get? key' = t.get? key' := by
  unfold accept
  split
  · simp only [get?, find?_insertSorted_of_ne ne]
  · rfl

theorem get?_accept_self {t : AdapterTable} {key : String} {a : Adapter}
    (free : t.isFree key = true) : (t.accept key a).get? key = some a := by
  have absent : t.entries.find? (fun e => e.1 = key) = none := by
    simp only [isFree, get?, Bool.and_eq_true, Option.isNone_iff_eq_none,
      Option.map_eq_none_iff] at free
    exact free.2
  rw [accept_of_free free, get?, find?_insertSorted_self absent]
  rfl

theorem isFree_accept_of_ne (t : AdapterTable) {key key' : String} {a : Adapter}
    (ne : key' ≠ key) : (t.accept key a).isFree key' = t.isFree key' := by
  simp only [isFree, get?_accept_of_ne t ne]

/-- Attempts under different keys may change places. -/
theorem accept_comm (t : AdapterTable) {key key' : String} {a a' : Adapter} (ne : key ≠ key') :
    (t.accept key a).accept key' a' = (t.accept key' a').accept key a := by
  have other := isFree_accept_of_ne t (a := a) ne.symm
  have other' := isFree_accept_of_ne t (a := a') ne
  cases free : t.isFree key <;> cases free' : t.isFree key'
  · rw [accept_of_taken free, accept_of_taken free', accept_of_taken free]
  · rw [accept_of_taken free, accept_of_taken (other'.trans free)]
  · rw [accept_of_taken free', accept_of_taken (other.trans free')]
  · rw [accept_of_free (other.trans free'), accept_of_free (other'.trans free),
      accept_of_free free, accept_of_free free', insertSorted_comm ne]

/-! ## Many registrations -/

/-- The table after attempts made one by one. -/
def acceptAll (t : AdapterTable) (attempts : List (String × Adapter)) : AdapterTable :=
  attempts.foldl (fun t e => t.accept e.1 e.2) t

theorem acceptAll_append (t : AdapterTable) (attempts more : List (String × Adapter)) :
    t.acceptAll (attempts ++ more) = (t.acceptAll attempts).acceptAll more :=
  List.foldl_append

/-- The order of attempts under pairwise different keys does not matter. -/
theorem acceptAll_perm (t : AdapterTable) {attempts attempts' : List (String × Adapter)}
    (perm : attempts.Perm attempts') (distinct : (attempts.map (·.1)).Nodup) :
    t.acceptAll attempts = t.acceptAll attempts' := by
  refine perm.foldl_eq' (fun e mem e' mem' t => ?_) t
  by_cases same : e.1 = e'.1
  · rw [List.inj_on_of_nodup_map distinct mem mem' same]
  · exact accept_comm t same

theorem get?_acceptAll_of_notMem {key : String} : ∀ (t : AdapterTable)
    {attempts : List (String × Adapter)}, key ∉ attempts.map (·.1) →
      (t.acceptAll attempts).get? key = t.get? key
  | _, [], _ => rfl
  | t, e :: attempts, absent => by
    simp only [List.map_cons, List.mem_cons, not_or] at absent
    exact (get?_acceptAll_of_notMem (t.accept e.1 e.2) absent.2).trans
      (get?_accept_of_ne t absent.1)

/-- An adapter that was registered under a free key is found under it, if the other attempts
were made under other keys. -/
theorem get?_acceptAll {key : String} {a : Adapter} : ∀ (t : AdapterTable)
    {attempts : List (String × Adapter)}, (attempts.map (·.1)).Nodup → (key, a) ∈ attempts →
      t.isFree key = true → (t.acceptAll attempts).get? key = some a
  | t, e :: attempts, distinct, mem, free => by
    simp only [List.map_cons, List.nodup_cons] at distinct
    rcases List.mem_cons.1 mem with rfl | mem
    · exact (get?_acceptAll_of_notMem (t.accept key a) distinct.1).trans (get?_accept_self free)
    · have ne : key ≠ e.1 := by
        rintro rfl
        exact distinct.1 (List.mem_map_of_mem (f := (·.1)) mem)
      exact get?_acceptAll (t.accept e.1 e.2) distinct.2 mem
        ((isFree_accept_of_ne t ne).trans free)

end AdapterTable

end QueryMethods
