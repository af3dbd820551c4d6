/-
Numbering in the order of the text: where markers are numbered without a gap, every value starts
behind the slots of the values before it, the slots are all numbers up to the last, and writing
out the wide values puts as many markers in the place of each as it has slots.
-/
import QueryMethods.Method.Numbering
import QueryMethods.Proofs.Template.Order

namespace QueryMethods

open Sql

namespace WideMarker

/-! ## Starts -/

/-- The number of slots of all the markers. -/
def extent (markers : List WideMarker) : Nat := (markers.map (·.width)).sum

@[simp] theorem extent_nil : extent [] = 0 := rfl

@[simp] theorem extent_cons (m : WideMarker) (rest : List WideMarker) :
    extent (m :: rest) = m.width + extent rest := List.sum_cons

@[simp] theorem extent_append (a b : List WideMarker) : extent (a ++ b) = extent a + extent b := by
  unfold extent
  rw [List.map_append, List.sum_append]

/-- Markers in the order of the text, numbered from `first` on, none without slots. -/
def Numbered : Nat → List WideMarker → Prop
  | _, [] => True
  | first, m :: rest => m.slot = first ∧ 1 ≤ m.width ∧ Numbered (first + 1) rest

theorem numbered_of_range : ∀ {first : Nat} {markers : List WideMarker},
    markers.map (·.slot) = List.range' first markers.length → (∀ m ∈ markers, 1 ≤ m.width) →
    Numbered first markers
  | _, [], _, _ => trivial
  | first, m :: rest, h, wide => by
    obtain ⟨hm, hr⟩ := List.cons.inj h
    obtain ⟨hw, hwr⟩ := List.forall_mem_cons.1 wide
    exact ⟨hm, hw, numbered_of_range hr hwr⟩

theorem Numbered.wide : ∀ {first : Nat} {markers : List WideMarker}, Numbered first markers →
    ∀ m ∈ markers, 1 ≤ m.width
  | _, [], _, _, hm => absurd hm List.not_mem_nil
  | _, _ :: _, h, m, hm => by
    rcases List.mem_cons.1 hm with rfl | hm
    · exact h.2.1
    · exact Numbered.wide h.2.2 m hm

theorem Numbered.split : ∀ {first : Nat} {a b : List WideMarker}, Numbered first (a ++ b) →
    Numbered first a ∧ Numbered (first + a.length) b
  | _, [], _, h => ⟨trivial, h⟩
  | first, m :: a, b, h => by
    obtain ⟨hm, hw, hr⟩ := h
    obtain ⟨ha, hb⟩ := Numbered.split hr
    refine ⟨⟨hm, hw, ha⟩, ?_⟩
    rw [List.length_cons, show first + (a.length + 1) = first + 1 + a.length by omega]
    exact hb

theorem shift_append (slot : Nat) : ∀ a b : List WideMarker,
    shift (a ++ b) slot = shift a slot + shift b slot
  | [], b => (Nat.zero_add _).symm
  | m :: a, b => by
    rw [List.cons_append, shift, shift, shift_append slot a b, Nat.add_assoc]

/-- Markers push what follows them by the slots they have beyond their own. -/
theorem shift_before (slot : Nat) : ∀ {first : Nat} {markers : List WideMarker},
    Numbered first markers → first + markers.length ≤ slot →
    markers.length + shift markers slot = extent markers
  | _, [], _, _ => rfl
  | first, m :: rest, h, hs => by
    obtain ⟨hm, hw, hr⟩ := h
    rw [List.length_cons] at hs
    have ih := shift_before slot hr (by omega)
    rw [List.length_cons, shift, if_pos (by omega), extent_cons]
    omega

theorem shift_behind (slot : Nat) : ∀ {first : Nat} {markers : List WideMarker},
    Numbered first markers → slot ≤ first → shift markers slot = 0
  | _, [], _, _ => rfl
  | first, m :: rest, h, hs => by
    obtain ⟨hm, hw, hr⟩ := h
    have ih := shift_behind slot hr (by omega)
    rw [shift, if_neg (by omega), ih]

/-- A value starts behind the slots of the values before it. -/
theorem start_eq {a b : List WideMarker} {m : WideMarker} (h : Numbered 1 (a ++ m :: b)) :
    m.slot + shift (a ++ m :: b) m.slot = 1 + extent a := by
  obtain ⟨ha, hm, hw, hb⟩ := h.split
  have before := shift_before m.slot ha (by omega)
  have behind := shift_behind m.slot hb (by omega)
  rw [shift_append, shift, if_neg (Nat.lt_irrefl _), behind]
  omega

/-! ## Sorting -/

theorem Numbered.le_slot : ∀ {first : Nat} {markers : List WideMarker},
    Numbered first markers → ∀ m ∈ markers, first ≤ m.slot
  | _, [], _, _, hm => absurd hm List.not_mem_nil
  | first, w :: rest, h, m, hm => by
    rcases List.mem_cons.1 hm with rfl | hm
    · exact Nat.le_of_eq h.1.symm
    · have := h.2.2.le_slot m hm
      omega

theorem Numbered.sorted : ∀ {first : Nat} {markers : List WideMarker},
    Numbered first markers → markers.Pairwise fun a b => a.slot < b.slot
  | _, [], _ => .nil
  | first, w :: rest, h =>
    List.pairwise_cons.2 ⟨fun m hm => by have := h.2.2.le_slot m hm; have := h.1; omega, h.2.2.sorted⟩

/-- Sorting finds the order of the text. -/
theorem sort_eq {markers sorted : List WideMarker} (perm : markers.Perm sorted)
    (numbered : Numbered 1 sorted) : sort markers = sorted := by
  have order := numbered.sorted
  have total : (sort markers).Pairwise fun a b => a.slot ≤ b.slot := by
    have := @List.pairwise_mergeSort WideMarker (fun a b => decide (a.slot ≤ b.slot))
      (fun a b c hab hbc => by simp only [decide_eq_true_eq] at *; omega)
      (fun a b => by simp only [Bool.or_eq_true, decide_eq_true_eq]; omega) markers
    exact this.imp fun h => of_decide_eq_true h
  have perm' : (sort markers).Perm sorted := (List.mergeSort_perm _ _).trans perm
  refine List.Perm.eq_of_pairwise (fun a b ha hb hab hba => ?_) total
    (order.imp fun h => Nat.le_of_lt h) perm'
  have nodup : (sorted.map (·.slot)).Nodup :=
    List.pairwise_map.2 (order.imp fun h => Nat.ne_of_lt h)
  exact List.inj_on_of_nodup_map nodup (perm'.subset ha) hb (Nat.le_antisymm hab hba)

/-! ## Slots -/

theorem slots_eq {a b : List WideMarker} {m : WideMarker} (h : Numbered 1 (a ++ m :: b)) :
    slots (a ++ m :: b) m.slot m.width = List.range' (1 + extent a) m.width := by
  unfold slots
  rw [start_eq h]

theorem flatMap_slots_from (a : List WideMarker) : ∀ b : List WideMarker, Numbered 1 (a ++ b) →
    b.flatMap (fun m => slots (a ++ b) m.slot m.width) = List.range' (1 + extent a) (extent b)
  | [], _ => rfl
  | m :: rest, h => by
    have eq : a ++ m :: rest = (a ++ [m]) ++ rest := by simp
    have ih := flatMap_slots_from (a ++ [m]) rest (eq ▸ h)
    rw [List.flatMap_cons, slots_eq h, eq, ih, extent_append, extent_cons, extent_cons, extent_nil,
      Nat.add_zero, ← Nat.add_assoc, List.range'_append_1]

/-- The slots of all values are the numbers up to their number, each once. -/
theorem flatMap_slots {markers : List WideMarker} (h : Numbered 1 markers) :
    markers.flatMap (fun m => slots markers m.slot m.width) = List.range' 1 (extent markers) :=
  flatMap_slots_from [] markers h

theorem lastSlot_from (a : List WideMarker) : ∀ (b : List WideMarker), Numbered 1 (a ++ b) →
    (b.map fun m => m.slot + shift (a ++ b) m.slot + m.width - 1).foldl max (extent a) =
      extent (a ++ b)
  | [], _ => by rw [List.append_nil]; rfl
  | m :: rest, h => by
    have eq : a ++ m :: rest = (a ++ [m]) ++ rest := by simp
    have ih := lastSlot_from (a ++ [m]) rest (eq ▸ h)
    have last : max (extent a) (1 + extent a + m.width - 1) = extent (a ++ [m]) := by
      rw [extent_append, extent_cons, extent_nil]
      omega
    rw [List.map_cons, List.foldl_cons, start_eq h, last, eq, ih]

theorem lastSlot_eq {markers : List WideMarker} (h : Numbered 1 markers) :
    lastSlot markers = extent markers := lastSlot_from [] markers h

/-! ## Writing out -/

/-- The markers of a wide value. -/
def group (m : WideMarker) : MarkerGroup := ⟨separator.toList, m.width⟩

theorem sum_count_group (markers : List WideMarker) :
    ((markers.map group).map (·.count)).sum = extent markers := by
  rw [List.map_map]
  rfl

theorem plain_separator : IsPlainSeparator separator.toList := by
  intro c hc
  have : c = ',' ∨ c = ' ' := by simpa [separator] using hc
  rcases this with rfl | rfl <;> decide

theorem plainGroups_map_group (markers : List WideMarker) :
    Segment.PlainGroups (markers.map group) := by
  intro g hg
  obtain ⟨m, -, rfl⟩ := List.mem_map.1 hg
  exact plain_separator

section

variable {form : TemplateForm} {bracketed : Bool} {segments : List Segment} {before after : List Char}
  (wf : Segment.WellFormed bracketed segments) (markless : countMarkers .code before = 0)
  (code : SqlMode.code.after before = .code)
  (noFalse : ∀ groups : List MarkerGroup, (∀ g ∈ groups, g.count ≠ 0) →
    Segment.NoFalseComment form segments groups)

include wf markless code noFalse

theorem expand_from (a : List WideMarker) : ∀ b : List WideMarker, Numbered 1 (a ++ b) →
    (a ++ b).length = (Segment.marks form segments).length →
    b.foldl
      (fun text m =>
        if 1 < m.width then replaceMarker text (m.slot + shift (a ++ b) m.slot) m.width separator
        else text)
      (String.ofList (before ++
        Segment.layout form segments (a.map group ++ b.map fun _ => .one) ++ after)) =
    String.ofList (before ++ Segment.layout form segments ((a ++ b).map group) ++ after)
  | [], _, _ => by simp
  | m :: rest, h, all => by
    have eq : a ++ m :: rest = (a ++ [m]) ++ rest := by simp
    have ih := expand_from (a ++ [m]) rest (eq ▸ h) (eq ▸ all)
    obtain ⟨ha, hm, hw, hb⟩ := h.split
    have single : ∀ markers : List WideMarker, ∀ g ∈ markers.map (fun _ => MarkerGroup.one), g.count = 1 := by
      intro markers g hg
      obtain ⟨_, -, rfl⟩ := List.mem_map.1 hg
      rfl
    have texts : (a ++ [m]).map group ++ rest.map (fun _ => MarkerGroup.one) =
        a.map group ++ group m :: rest.map fun _ => .one := by simp
    rw [← eq, texts] at ih
    rw [List.foldl_cons, start_eq h, List.map_cons]
    split
    · -- the single marker of a wide value is written out
      have more : (a.map group).length < (Segment.marks form segments).length := by
        rw [List.length_map, ← all, List.length_append, List.length_cons]
        omega
      have counts : ∀ g ∈ a.map group ++ MarkerGroup.one :: rest.map (fun _ => .one), g.count ≠ 0 := by
        intro g hg
        rcases List.mem_append.1 hg with hg | hg
        · obtain ⟨w, hw', rfl⟩ := List.mem_map.1 hg
          exact Nat.one_le_iff_ne_zero.1 (ha.wide w hw')
        · rw [single (m :: rest) g hg]
          exact Nat.one_ne_zero
      rw [Nat.add_comm 1, ← sum_count_group]
      rw [Segment.replaceMarker_layout wf (plainGroups_map_group a) rfl (noFalse _ counts) more
        markless code]
      exact ih
    · have one : m.width = 1 := by omega
      have same : MarkerGroup.one.text = (group m).text := by
        rw [MarkerGroup.text_of_count (g := group m) one]
        rfl
      rw [Segment.layout_exchange same]
      exact ih

/-- Writing out the wide values gives the layout with a group for every marker. -/
theorem expand_eq {markers : List WideMarker} (h : Numbered 1 markers)
    (all : markers.length = (Segment.marks form segments).length) :
    expand markers (String.ofList (before ++ Segment.layout form segments [] ++ after)) =
      String.ofList (before ++ Segment.layout form segments (markers.map group) ++ after) := by
  have single : ∀ g ∈ markers.map (fun _ => MarkerGroup.one), g.count = 1 := by
    intro g hg
    obtain ⟨_, -, rfl⟩ := List.mem_map.1 hg
    rfl
  rw [← Segment.layout_ones single]
  exact expand_from wf markless code noFalse [] markers h all

end

end WideMarker

end QueryMethods
