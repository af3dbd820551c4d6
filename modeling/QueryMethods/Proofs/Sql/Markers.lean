/-
Markers in the reader's modes: a marker met in code is found by its ordinal and replaced, and a
text is passed in code if it neither opens nor closes anything. The places of all markers say what
stands before and behind each.
-/
import QueryMethods.Sql.Marker
import Mathlib.Tactic

namespace QueryMethods

/-! ## Modes -/

namespace SqlMode

/-- In code nothing but a quote or a slash changes the mode. -/
theorem next_of_isCode {m : SqlMode} {c : Char} (h : m.isCode = true) (quote : c ≠ '\'')
    (slash : c ≠ '/') (star : m = .slash → c ≠ '*') : m.next c = .code := by
  cases m with
  | code => simp only [next, if_neg quote, if_neg slash]
  | slash => simp only [next, if_neg quote, if_neg slash, if_neg (star rfl)]
  | comment | commentStar | literal => exact absurd h (by decide)

theorem isMarker_of_isCode {m : SqlMode} (h : m.isCode = true) (c : Char) :
    m.isMarker c = decide (c = '?') := by
  unfold isMarker
  rw [h, Bool.and_true]

theorem isMarker_of_ne {c : Char} (h : c ≠ '?') (m : SqlMode) : m.isMarker c = false := by
  unfold isMarker
  rw [decide_eq_false h, Bool.false_and]

theorem isMarker_of_not_isCode {m : SqlMode} (h : m.isCode = false) (c : Char) :
    m.isMarker c = false := by
  unfold isMarker
  rw [h, Bool.and_false]

/-- A text without quotes and slashes is passed in code. -/
theorem after_code {cs : List Char} (h : ∀ c ∈ cs, c ≠ '\'' ∧ c ≠ '/') :
    SqlMode.code.after cs = .code := by
  induction cs with
  | nil => rfl
  | cons c rest ih =>
    obtain ⟨⟨quote, slash⟩, hr⟩ := List.forall_mem_cons.1 h
    have next : SqlMode.code.next c = .code := next_of_isCode rfl quote slash (by simp)
    rw [after_cons, next]
    exact ih hr

end SqlMode

namespace Sql

/-! ## Counting -/

theorem countMarkers_cons (m : SqlMode) (c : Char) (rest : List Char) :
    countMarkers m (c :: rest) = (if m.isMarker c then 1 else 0) + countMarkers (m.next c) rest := rfl

theorem countMarkers_cons_of_not {m : SqlMode} {c : Char} (h : m.isMarker c = false)
    (rest : List Char) : countMarkers m (c :: rest) = countMarkers (m.next c) rest := by
  rw [countMarkers_cons, h]
  exact Nat.zero_add _

@[simp] theorem countMarkers_nil (m : SqlMode) : countMarkers m [] = 0 := rfl

theorem countMarkers_of_not_mem {cs : List Char} (h : '?' ∉ cs) :
    ∀ m : SqlMode, countMarkers m cs = 0 := by
  induction cs with
  | nil => exact fun _ => rfl
  | cons c rest ih =>
    intro m
    have hc : c ≠ '?' := fun e => h (e ▸ List.mem_cons_self)
    rw [countMarkers_cons_of_not (SqlMode.isMarker_of_ne hc m)]
    exact ih (fun hm => h (List.mem_cons_of_mem _ hm)) _

/-- In a text that is passed in code every question mark is a marker. -/
theorem countMarkers_code {cs : List Char} : ∀ {m : SqlMode}, (∀ c ∈ cs, c ≠ '\'' ∧ c ≠ '/') →
    m.isCode = true → (m = .slash → cs.head? ≠ some '*') → countMarkers m cs = cs.count '?' := by
  induction cs with
  | nil => intro m _ _ _; rfl
  | cons c rest ih =>
    intro m h hm star
    obtain ⟨⟨quote, slash⟩, others⟩ := List.forall_mem_cons.1 h
    have next : m.next c = .code :=
      SqlMode.next_of_isCode hm quote slash fun hs e => star hs (congrArg some e)
    have behind : countMarkers .code rest = rest.count '?' := ih others rfl nofun
    rw [countMarkers_cons, SqlMode.isMarker_of_isCode hm, next, behind, List.count_cons]
    by_cases marker : c = '?' <;> simp [marker, Nat.add_comm]

/-! ## Finding -/

/-- A question mark met in code is the marker whose ordinal is the number of markers before it. -/
theorem splitAtMarker?_append {b : List Char} : ∀ {m : SqlMode} {a : List Char},
    (m.after a).isCode = true →
      splitAtMarker? m (countMarkers m a) (a ++ '?' :: b) = some (a, b)
  | m, [], h => by
    have hm : m.isMarker '?' = true := by
      rw [SqlMode.after_nil] at h
      rw [SqlMode.isMarker_of_isCode h]; rfl
    rw [List.nil_append, splitAtMarker?.eq_def]
    simp only [hm, if_true]
    rfl
  | m, c :: rest, h => by
    have ih := splitAtMarker?_append (b := b) (m := m.next c) (a := rest) h
    rw [List.cons_append, splitAtMarker?.eq_def, countMarkers_cons]
    cases hm : m.isMarker c with
    | true =>
      simp only [hm, if_true, Nat.add_comm 1]
      rw [ih]
      rfl
    | false =>
      simp only [hm, Bool.false_eq_true, if_false, Nat.zero_add]
      rw [ih]
      rfl

theorem replaceMarker_append {a b : List Char} {n : Nat} (count : countMarkers .code a = n)
    (code : (SqlMode.code.after a).isCode = true) (k : Nat) (separator : String) :
    replaceMarker (String.ofList (a ++ '?' :: b)) (n + 1) k separator =
      String.ofList (a ++ joinedMarkers separator.toList k ++ b) := by
  unfold replaceMarker
  subst count
  simp only [String.toList_ofList]
  rw [splitAtMarker?_append code]

/-! ## Joined markers -/

/-- What a separator of markers may not hold, to be passed in code. -/
def IsCodeSeparator (separator : List Char) : Prop := ∀ c ∈ separator, c ∉ ['\'', '?', '/']

instance (separator : List Char) : Decidable (IsCodeSeparator separator) :=
  List.decidableBAll _ separator

/-- What a separator of markers may not hold, to be passed in code and to spell nothing in a
template. -/
def IsPlainSeparator (separator : List Char) : Prop :=
  ∀ c ∈ separator, c ∉ ['\'', '{', '}', '?', '/', '\\']

instance (separator : List Char) : Decidable (IsPlainSeparator separator) :=
  List.decidableBAll _ separator

theorem IsPlainSeparator.code {separator : List Char} (h : IsPlainSeparator separator) :
    IsCodeSeparator separator := by
  intro c hc hm
  refine h c hc ?_
  simp only [List.mem_cons, List.not_mem_nil, or_false] at hm ⊢
  tauto

section

variable {separator : List Char} (h : IsCodeSeparator separator)

include h

theorem after_separator : SqlMode.code.after separator = .code :=
  SqlMode.after_code fun c hc => by
    have := h c hc
    simp only [List.mem_cons, List.not_mem_nil, or_false, not_or] at this
    exact ⟨this.1, this.2.2⟩

theorem countMarkers_separator (m : SqlMode) : countMarkers m separator = 0 :=
  countMarkers_of_not_mem (fun hm => h '?' hm (by decide)) m

/-- Joined markers are as many markers as are joined, and code follows them. -/
theorem joinedMarkers_in_code : ∀ (n : Nat) {m : SqlMode}, m.isCode = true →
    countMarkers m (joinedMarkers separator n) = n ∧
      m.after (joinedMarkers separator n) = if n = 0 then m else .code
  | 0, _, _ => ⟨rfl, rfl⟩
  | 1, m, hm => by
    refine ⟨?_, SqlMode.next_of_isCode hm (by decide) (by decide) fun _ => by decide⟩
    unfold joinedMarkers
    rw [countMarkers_cons, SqlMode.isMarker_of_isCode hm]
    rfl
  | n + 2, m, hm => by
    obtain ⟨count, after⟩ := joinedMarkers_in_code (n + 1) (m := .code) rfl
    have next : m.next '?' = .code :=
      SqlMode.next_of_isCode hm (by decide) (by decide) fun _ => by decide
    unfold joinedMarkers
    rw [List.cons_append, countMarkers_cons, SqlMode.isMarker_of_isCode hm, next,
      countMarkers_append, countMarkers_separator h, after_separator h, count, SqlMode.after_cons,
      next, SqlMode.after_append, after_separator h, after]
    refine ⟨?_, rfl⟩
    simp only [decide_true, if_true]
    omega

end

theorem joinedMarkers_head (separator : List Char) {n : Nat} (h : n ≠ 0) :
    ∃ rest, joinedMarkers separator n = '?' :: rest := by
  match n, h with
  | 1, _ => exact ⟨[], rfl⟩
  | n + 2, _ => exact ⟨separator ++ joinedMarkers separator (n + 1), rfl⟩

/-! ## Places -/

/-- A pair of what stands before a place and what stands behind it, with more text around. -/
def within (front back : List Char) (place : List Char × List Char) : List Char × List Char :=
  (front ++ place.1, place.2 ++ back)

/-- The markers of a text read from mode `m`, each with what stands before it and behind it. -/
def markers (m : SqlMode) : List Char → List (List Char × List Char)
  | [] => []
  | c :: rest =>
    let others := (markers (m.next c) rest).map (within [c] [])
    if m.isMarker c then ([], rest) :: others else others

theorem within_nil : within [] [] = id :=
  funext fun place => by simp [within]

theorem within_comp (a b c d : List Char) : within a b ∘ within c d = within (a ++ c) (d ++ b) :=
  funext fun place => by simp [within]

/-- The place of a marker is where the reader splits the text at its ordinal. -/
theorem splitAtMarker?_eq_getElem? (cs : List Char) :
    ∀ (m : SqlMode) (n : Nat), splitAtMarker? m n cs = (markers m cs)[n]? := by
  induction cs with
  | nil => exact fun _ _ => rfl
  | cons c rest ih =>
    intro m n
    rw [splitAtMarker?.eq_def, markers]
    cases hm : m.isMarker c with
    | false =>
      simp only [hm, Bool.false_eq_true, if_false]
      rw [List.getElem?_map, ← ih]
      exact Option.map_congr fun place _ => by simp [within]
    | true =>
      cases n with
      | zero => simp [hm]
      | succ n =>
        simp only [hm, if_true]
        rw [List.getElem?_cons_succ, List.getElem?_map, ← ih]
        exact Option.map_congr fun place _ => by simp [within]

theorem length_markers (cs : List Char) :
    ∀ m : SqlMode, (markers m cs).length = countMarkers m cs := by
  induction cs with
  | nil => exact fun _ => rfl
  | cons c rest ih =>
    intro m
    rw [markers, countMarkers_cons, ← ih]
    cases m.isMarker c with
    | false => simp
    | true => simp [Nat.add_comm]

/-- The markers of two texts in a row are those of the first and then those of the second. -/
theorem markers_append (a b : List Char) : ∀ m : SqlMode, markers m (a ++ b) =
    (markers m a).map (within [] b) ++ (markers (m.after a) b).map (within a []) := by
  induction a with
  | nil =>
    intro m
    simp [markers, within_nil]
  | cons c rest ih =>
    intro m
    rw [List.cons_append, markers, markers, ih]
    cases m.isMarker c with
    | false => simp [within_comp]
    | true => simp [within_comp, within]

/-- In code it does not matter whether a slash was read last, unless a star follows. -/
theorem markers_of_isCode {m : SqlMode} {cs : List Char} (code : m.isCode = true)
    (star : cs.head? ≠ some '*') : markers m cs = markers .code cs := by
  cases cs with
  | nil => rfl
  | cons c rest =>
    have open' : c ≠ '*' := fun e => star (congrArg some e)
    have next : m.next c = SqlMode.code.next c := by
      cases m with
      | code => rfl
      | slash => simp only [SqlMode.next, if_neg open']
      | comment | commentStar | literal => exact absurd code (by decide)
    rw [markers, markers, next, SqlMode.isMarker_of_isCode code, SqlMode.isMarker_of_isCode rfl]

theorem markers_of_not_mem {cs : List Char} (h : '?' ∉ cs) (m : SqlMode) : markers m cs = [] :=
  List.eq_nil_of_length_eq_zero ((length_markers cs m).trans (countMarkers_of_not_mem h m))

end Sql

end QueryMethods
