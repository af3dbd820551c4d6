/-
Replacing markers one after the other. Every replacement changes the text in which the next marker
is looked for, and moves the markers behind it. As long as no marker stands behind a slash this
comes to the same as putting all groups into their places at once: a group is passed in code, so
comments, literals and markers behind it are read as they were before.
-/
import QueryMethods.Execution.Binding
import QueryMethods.Proofs.Method.Numbering

namespace QueryMethods

open Sql

namespace Sql

/-! ## Places of markers -/

/-- The places of markers are those of the question marks in code, in the order of their number. -/
theorem getElem?_markers {cs a b : List Char} {m : SqlMode} {n : Nat} :
    (markers m cs)[n]? = some (a, b) ↔
      cs = a ++ '?' :: b ∧ countMarkers m a = n ∧ (m.after a).isCode = true := by
  constructor
  · intro h
    induction cs generalizing m n a with
    | nil => cases h
    | cons c rest ih =>
      have behind {k : Nat} (h : ((markers (m.next c) rest).map (within [c] []))[k]? = some (a, b)) :
          ∃ a', a = c :: a' ∧ (markers (m.next c) rest)[k]? = some (a', b) := by
        rw [List.getElem?_map, Option.map_eq_some_iff] at h
        obtain ⟨place, hp, he⟩ := h
        simp only [within, List.append_nil, Prod.mk.injEq] at he
        exact ⟨place.1, he.1.symm, by rw [hp, ← he.2]⟩
      rw [markers] at h
      cases marker : m.isMarker c with
      | false =>
        rw [marker] at h
        obtain ⟨a', rfl, ha⟩ := behind h
        obtain ⟨rfl, count, code⟩ := ih ha
        exact ⟨rfl, by rw [countMarkers_cons_of_not marker, count], code⟩
      | true =>
        rw [marker] at h
        cases n with
        | zero =>
          cases h
          have both := Bool.and_eq_true_iff.1 marker
          exact ⟨by rw [of_decide_eq_true both.1]; rfl, rfl, both.2⟩
        | succ n =>
          obtain ⟨a', rfl, ha⟩ := behind h
          obtain ⟨rfl, count, code⟩ := ih ha
          refine ⟨rfl, ?_, code⟩
          rw [countMarkers_cons, marker, count, if_pos rfl, Nat.add_comm]
  · rintro ⟨rfl, rfl, code⟩
    rw [← splitAtMarker?_eq_getElem?]
    exact splitAtMarker?_append code

theorem exists_marker {cs : List Char} {m : SqlMode} {n : Nat} (h : n < countMarkers m cs) :
    ∃ a b, cs = a ++ '?' :: b ∧ countMarkers m a = n ∧ (m.after a).isCode = true := by
  rw [← length_markers] at h
  exact ⟨_, _, getElem?_markers.1 (List.getElem?_eq_getElem h)⟩

/-- No marker is read right behind a slash. -/
def Apart (m : SqlMode) (cs : List Char) : Prop :=
  ∀ place ∈ markers m cs, m.after place.1 ≠ .slash

theorem after_slash {m : SqlMode} {cs : List Char} (h : m.after cs = .slash) :
    cs = [] ∧ m = .slash ∨ cs.getLast? = some '/' := by
  rcases List.eq_nil_or_concat' cs with rfl | ⟨front, c, rfl⟩
  · exact .inl ⟨rfl, h⟩
  · right
    rw [SqlMode.after_append, SqlMode.after_cons, SqlMode.after_nil] at h
    have slash : c = '/' := by
      by_contra other
      cases mode : m.after front <;> rw [mode] at h <;> simp only [SqlMode.next] at h <;>
        split_ifs at h
    rw [slash, List.getLast?_concat]

theorem apart_of_getLast {cs : List Char}
    (h : ∀ place ∈ markers .code cs, place.1.getLast? ≠ some '/') : Apart .code cs := by
  intro place hp slash
  rcases after_slash slash with ⟨-, code⟩ | last
  · cases code
  · exact h place hp last

theorem Apart.tail {m : SqlMode} {c : Char} {rest : List Char} (h : Apart m (c :: rest)) :
    Apart (m.next c) rest := by
  intro place hp
  refine h (within [c] [] place) ?_
  have mem := List.mem_map_of_mem (f := within [c] []) hp
  rw [markers]
  split
  · exact List.mem_cons_of_mem _ mem
  · exact mem

theorem Apart.append {m : SqlMode} : ∀ {a b : List Char}, Apart m (a ++ b) →
    Apart m a ∧ Apart (m.after a) b := by
  intro a b h
  constructor
  · intro place hp
    have mem := List.mem_map_of_mem (f := within [] b) hp
    exact h (within [] b place) (by rw [markers_append]; exact List.mem_append_left _ mem)
  · intro place hp slash
    have mem := List.mem_map_of_mem (f := within a []) hp
    refine h (within a [] place) (by rw [markers_append]; exact List.mem_append_right _ mem) ?_
    exact (SqlMode.after_append m a place.1).trans slash

/-- A marker is read in code. -/
theorem Apart.code {m : SqlMode} {c : Char} {rest : List Char} (h : Apart m (c :: rest))
    (marker : m.isMarker c = true) : c = '?' ∧ m = .code := by
  have both := Bool.and_eq_true_iff.1 marker
  refine ⟨of_decide_eq_true both.1, ?_⟩
  have first : m ≠ .slash := h ([], rest) (by rw [markers, if_pos marker]; exact List.mem_cons_self)
  cases m with
  | code => rfl
  | slash => exact absurd rfl first
  | comment | commentStar | literal => exact absurd both.2 (by decide)

/-! ## Groups in the places of markers -/

/-- The text with groups in the places of its markers, read from mode `m`; `number` is that of its
first marker. All other characters stay. -/
def withGroups (groups : Nat → MarkerGroup) (m : SqlMode) (number : Nat) : List Char → List Char
  | [] => []
  | c :: rest =>
    if m.isMarker c then (groups number).text ++ withGroups groups (m.next c) (number + 1) rest
    else c :: withGroups groups (m.next c) number rest

section

variable {groups groups' : Nat → MarkerGroup}

theorem withGroups_append (a b : List Char) : ∀ (m : SqlMode) (number : Nat),
    withGroups groups m number (a ++ b) = withGroups groups m number a ++
      withGroups groups (m.after a) (number + countMarkers m a) b := by
  induction a with
  | nil => exact fun _ _ => rfl
  | cons c rest ih =>
    intro m number
    rw [List.cons_append, withGroups, withGroups, countMarkers_cons]
    cases m.isMarker c with
    | false => simp only [ih, Bool.false_eq_true, if_false, Nat.zero_add]; rfl
    | true =>
      simp only [ih, if_true, List.append_assoc, Nat.add_assoc]
      rfl

/-- A marker in code is where its group is put. -/
theorem withGroups_marker {a b : List Char} {m : SqlMode} {number : Nat}
    (code : (m.after a).isCode = true) :
    withGroups groups m number (a ++ '?' :: b) = withGroups groups m number a ++
      ((groups (number + countMarkers m a)).text ++
        withGroups groups ((m.after a).next '?') (number + countMarkers m a + 1) b) := by
  have marker : (m.after a).isMarker '?' = true := by
    rw [SqlMode.isMarker_of_isCode code]
    rfl
  rw [withGroups_append, withGroups, if_pos marker]

/-- Only the groups of the markers that the text has matter. -/
theorem withGroups_congr (cs : List Char) : ∀ {m : SqlMode} {number : Nat},
    (∀ n, number ≤ n → n < number + countMarkers m cs → (groups n).text = (groups' n).text) →
      withGroups groups m number cs = withGroups groups' m number cs := by
  induction cs with
  | nil => exact fun _ => rfl
  | cons c rest ih =>
    intro m number same
    rw [countMarkers_cons] at same
    rw [withGroups, withGroups]
    cases marker : m.isMarker c with
    | false =>
      rw [marker] at same
      simp only [Bool.false_eq_true, if_false] at same ⊢
      rw [ih fun n low high => same n low (by omega)]
    | true =>
      rw [marker] at same
      simp only [if_true] at same ⊢
      rw [same number (Nat.le_refl _) (by omega), ih fun n low high => same n (by omega) (by omega)]

/-- A group of markers is passed in code. -/
theorem group_in_code {g : MarkerGroup} (silent : IsCodeSeparator g.separator) :
    countMarkers .code g.text = g.count ∧ SqlMode.code.after g.text = .code := by
  obtain ⟨count, after⟩ := joinedMarkers_in_code silent g.count (m := .code) rfl
  exact ⟨count, after.trans (ite_self _)⟩

/-- With single markers in their places the text is the same. -/
theorem withGroups_one (cs : List Char) : ∀ (m : SqlMode) (number : Nat),
    withGroups (fun _ => .one) m number cs = cs := by
  induction cs with
  | nil => exact fun _ _ => rfl
  | cons c rest ih =>
    intro m number
    rw [withGroups, ih, ih]
    split
    · next marker =>
      rw [of_decide_eq_true (Bool.and_eq_true_iff.1 marker).1]
      rfl
    · rfl

variable (silent : ∀ n, IsCodeSeparator (groups n).separator)

include silent

/-- Groups are passed in code, so everything behind them is read as before. -/
theorem after_withGroups (cs : List Char) : ∀ {m : SqlMode} {number : Nat}, Apart m cs →
    m.after (withGroups groups m number cs) = m.after cs := by
  induction cs with
  | nil => exact fun _ => rfl
  | cons c rest ih =>
    intro m number apart
    rw [withGroups, SqlMode.after_cons]
    split
    · next marker =>
      obtain ⟨rfl, rfl⟩ := apart.code marker
      rw [SqlMode.after_append, (group_in_code (silent number)).2]
      exact ih apart.tail
    · exact ih apart.tail

end

/-! ## Choices of markers -/

/-- A marker that is chosen, by its number from 1 on, and what is put in its place: so many markers
with the separator between each two. -/
structure MarkerChoice where
  number : Nat
  count : Nat
  separator : String
  deriving DecidableEq, Repr

namespace MarkerChoice

/-- The markers in the place of the chosen one. -/
def group (c : MarkerChoice) : MarkerGroup := ⟨c.separator.toList, c.count⟩

/-- The group in the place of the marker with that number; a marker that is not chosen stays. -/
def groupAt (choices : List MarkerChoice) (number : Nat) : MarkerGroup :=
  ((choices.find? (·.number = number)).map group).getD .one

/-- By how much the choices in front of it move the marker with that number. -/
def growth (choices : List MarkerChoice) (number : Nat) : Int :=
  (choices.map fun c => if c.number < number then (c.count : Int) - 1 else 0).sum

/-- In ascending order, from `first` on. -/
def Ascending : Nat → List MarkerChoice → Prop
  | _, [] => True
  | first, c :: rest => first ≤ c.number ∧ Ascending (c.number + 1) rest

theorem Ascending.le : ∀ {first : Nat} {choices : List MarkerChoice}, Ascending first choices →
    ∀ c ∈ choices, first ≤ c.number
  | _, [], _, _, hc => absurd hc List.not_mem_nil
  | _, c :: rest, h, c', hc => by
    rcases List.mem_cons.1 hc with rfl | hc
    · exact h.1
    · have := h.2.le c' hc
      have := h.1
      omega

theorem groupAt_cons (c : MarkerChoice) (rest : List MarkerChoice) (number : Nat) :
    groupAt (c :: rest) number = if c.number = number then c.group else groupAt rest number := by
  unfold groupAt
  rw [List.find?_cons]
  by_cases here : c.number = number <;> simp [here]

theorem groupAt_of_forall_ne {choices : List MarkerChoice} {number : Nat}
    (h : ∀ c ∈ choices, c.number ≠ number) : groupAt choices number = .one := by
  unfold groupAt
  rw [List.find?_eq_none.2 fun c hc => by simpa using h c hc]
  rfl

theorem silent_groupAt {choices : List MarkerChoice}
    (h : ∀ c ∈ choices, IsCodeSeparator c.separator.toList) (number : Nat) :
    IsCodeSeparator (groupAt choices number).separator := by
  induction choices with
  | nil => exact nofun
  | cons c rest ih =>
    obtain ⟨first, others⟩ := List.forall_mem_cons.1 h
    rw [groupAt_cons]
    split
    · exact first
    · exact ih others

theorem growth_cons (c : MarkerChoice) (rest : List MarkerChoice) (number : Nat) :
    growth (c :: rest) number =
      (if c.number < number then (c.count : Int) - 1 else 0) + growth rest number :=
  List.sum_cons

/-- Choices behind a marker do not move it. -/
theorem growth_of_le {choices : List MarkerChoice} {number : Nat}
    (h : ∀ c ∈ choices, number ≤ c.number) : growth choices number = 0 := by
  induction choices with
  | nil => rfl
  | cons c rest ih =>
    obtain ⟨first, others⟩ := List.forall_mem_cons.1 h
    rw [growth_cons, if_neg (by omega), ih others, Int.zero_add]

/-- Behind all choices the text has moved by all of them. -/
theorem growth_of_lt {choices : List MarkerChoice} {number : Nat}
    (h : ∀ c ∈ choices, c.number < number) :
    growth choices number = (choices.map fun c => (c.count : Int) - 1).sum := by
  induction choices with
  | nil => rfl
  | cons c rest ih =>
    obtain ⟨first, others⟩ := List.forall_mem_cons.1 h
    rw [growth_cons, if_pos first, ih others, List.map_cons, List.sum_cons]

/-- The marker behind another one is moved by that one's group too. -/
theorem growth_succ : ∀ {first : Nat} {choices : List MarkerChoice} (number : Nat),
    Ascending first choices →
      growth choices (number + 1) = growth choices number + ((groupAt choices number).count - 1)
  | _, [], _, _ => rfl
  | _, c :: rest, number, h => by
    rw [growth_cons, growth_cons, groupAt_cons]
    by_cases here : c.number = number
    · have behind := h.2.le
      rw [growth_of_le fun c' hc => by have := behind c' hc; omega,
        growth_of_le fun c' hc => by have := behind c' hc; omega, if_pos (by omega),
        if_neg (by omega), if_pos here]
      show (c.count : Int) - 1 + 0 = 0 + 0 + (c.count - 1)
      omega
    · have ih := growth_succ number h.2
      rw [ih, if_neg here]
      split <;> split <;> omega

/-! ## One after the other -/

/-- Replace the chosen markers in turn; `shift` is how far the replacements before have moved the
markers behind them. -/
def replaceEach (shift : Int) (sql : String) : List MarkerChoice → String
  | [] => sql
  | c :: rest =>
    replaceEach (shift + ((c.count : Int) - 1))
      (replaceMarker sql (c.number + shift).toNat c.count c.separator) rest

/-- Up to the first marker that is chosen nothing is replaced, and behind it the other choices are. -/
theorem withGroups_choice {c : MarkerChoice} {rest : List MarkerChoice} {a b : List Char}
    {first : Nat} (ascending : Ascending first (c :: rest))
    (count : countMarkers .code a = c.number - first) (code : SqlMode.code.after a = .code) :
    withGroups (groupAt (c :: rest)) .code first (a ++ '?' :: b) =
      a ++ (c.group.text ++ withGroups (groupAt rest) .code (c.number + 1) b) := by
  obtain ⟨low, behind⟩ := ascending
  have next : SqlMode.code.next '?' = .code := by decide
  -- no marker in front of this one is chosen, and none behind it is this one
  have before : withGroups (groupAt (c :: rest)) .code first a = a := by
    have single : withGroups (groupAt (c :: rest)) .code first a =
        withGroups (fun _ => .one) .code first a := by
      refine withGroups_congr a fun n _ hn => ?_
      rw [count] at hn
      rw [groupAt_of_forall_ne]
      refine List.forall_mem_cons.2 ⟨by omega, fun c' hc => ?_⟩
      have := behind.le c' hc
      omega
    rw [single, withGroups_one]
  have rest' : withGroups (groupAt (c :: rest)) .code (c.number + 1) b =
      withGroups (groupAt rest) .code (c.number + 1) b := by
    refine withGroups_congr b fun n hn _ => ?_
    rw [groupAt_cons, if_neg (by omega)]
  have here : groupAt (c :: rest) c.number = c.group := by
    rw [groupAt_cons, if_pos rfl]
  rw [withGroups_marker (by rw [code]; rfl), before, code, next, count,
    show first + (c.number - first) = c.number by omega, rest', here]

/-- Behind a text that is left as it is, replacing the markers in turn puts every group into the
place of its marker. -/
theorem replaceEach_eq : ∀ {choices : List MarkerChoice} {front cs : List Char} {first : Nat}
    {shift : Int}, Ascending first choices →
    (∀ c ∈ choices, c.number < first + countMarkers .code cs) →
    (∀ c ∈ choices, IsCodeSeparator c.separator.toList) → Apart .code cs →
    SqlMode.code.after front = .code → (countMarkers .code front : Int) + 1 = first + shift →
    replaceEach shift (String.ofList (front ++ cs)) choices =
      String.ofList (front ++ withGroups (groupAt choices) .code first cs)
  | [], front, cs, first, shift, _, _, _, _, _, _ => by
    rw [replaceEach, withGroups_congr cs fun n _ _ => by rw [groupAt_of_forall_ne (List.forall_mem_nil _)],
      withGroups_one]
  | c :: rest, front, cs, first, shift, ascending, there, silent, apart, start, moved => by
    have low := ascending.1
    have behind := ascending.2
    obtain ⟨high, others⟩ := List.forall_mem_cons.1 there
    obtain ⟨separator, separators⟩ := List.forall_mem_cons.1 silent
    have inside : c.number - first < countMarkers .code cs := by omega
    obtain ⟨a, b, rfl, count, code⟩ := exists_marker inside
    obtain ⟨-, apart'⟩ := apart.append
    have marker : (SqlMode.code.after a).isMarker '?' = true := by
      rw [SqlMode.isMarker_of_isCode code]
      rfl
    have inCode := (apart'.code marker).2
    rw [inCode] at apart'
    have next : SqlMode.code.next '?' = .code := by decide
    -- the marker is found by the markers in front of it, wherever it has been moved to
    have slot : (c.number + shift).toNat = countMarkers .code (front ++ a) + 1 := by
      rw [countMarkers_append, start, count]
      omega
    have found : (SqlMode.code.after (front ++ a)).isCode = true := by
      rw [SqlMode.after_append, start, inCode]
      rfl
    have replaced : replaceMarker (String.ofList (front ++ (a ++ '?' :: b))) (c.number + shift).toNat
        c.count c.separator = String.ofList (front ++ (a ++ (c.group.text ++ b))) := by
      rw [slot, ← List.append_assoc, replaceMarker_append rfl found, List.append_assoc,
        List.append_assoc]
      rfl
    -- its group is left behind, and the rest is read in code again
    obtain ⟨counted, after⟩ := group_in_code (g := c.group) separator
    have start' : SqlMode.code.after (front ++ (a ++ c.group.text)) = .code := by
      rw [SqlMode.after_append, start, SqlMode.after_append, inCode, after]
    have count' : countMarkers .code (front ++ (a ++ c.group.text)) =
        countMarkers .code front + (c.number - first) + c.count := by
      rw [countMarkers_append, start, countMarkers_append, count, inCode, counted, Nat.add_assoc]
      rfl
    have all : countMarkers .code (a ++ '?' :: b) = c.number - first + 1 + countMarkers .code b := by
      rw [countMarkers_append, count, inCode, countMarkers_cons, next, Nat.add_assoc]
      rfl
    have ih : replaceEach (shift + ((c.count : Int) - 1))
        (String.ofList ((front ++ (a ++ c.group.text)) ++ b)) rest =
        String.ofList ((front ++ (a ++ c.group.text)) ++
          withGroups (groupAt rest) .code (c.number + 1) b) :=
      replaceEach_eq behind (fun c' hc => by have := others c' hc; omega) separators
        (next ▸ apart'.tail) start' (by rw [count']; push_cast; omega)
    rw [withGroups_choice ascending count inCode, replaceEach, replaced]
    simpa only [List.append_assoc] using ih

end MarkerChoice

/-! ## Counting and keeping -/

section

open MarkerChoice

variable {choices : List MarkerChoice} {first : Nat} (ascending : Ascending first choices)
  (silent : ∀ c ∈ choices, IsCodeSeparator c.separator.toList)

include ascending silent

/-- A text with its groups has as many more markers as its groups add. -/
theorem countMarkers_withGroups (cs : List Char) : ∀ {m : SqlMode} (number : Nat), Apart m cs →
    (countMarkers m (withGroups (groupAt choices) m number cs) : Int) + growth choices number =
      countMarkers m cs + growth choices (number + countMarkers m cs) := by
  induction cs with
  | nil => exact fun _ _ => rfl
  | cons c rest ih =>
    intro m number apart
    have behind := ih (number + 1) apart.tail
    have same := ih number apart.tail
    rw [withGroups, countMarkers_cons]
    cases marker : m.isMarker c with
    | false =>
      simp only [Bool.false_eq_true, if_false, Nat.zero_add]
      rw [countMarkers_cons_of_not marker]
      exact same
    | true =>
      obtain ⟨rfl, rfl⟩ := apart.code marker
      obtain ⟨count, after⟩ := group_in_code (silent_groupAt silent number)
      have next : SqlMode.code.next '?' = .code := by decide
      have step := growth_succ number ascending
      rw [next] at behind ⊢
      simp only [if_true]
      rw [countMarkers_append, count, after, ← Nat.add_assoc number]
      push_cast
      omega

/-- A marker that is not chosen moves by the choices in front of it. -/
theorem markers_withGroups {cs front back : List Char} (apart : Apart .code cs) {n : Nat}
    (found : (markers .code cs)[n]? = some (front, back))
    (start : ∀ c ∈ choices, 1 ≤ c.number) (other : ∀ c ∈ choices, c.number ≠ n + 1) :
    ∃ k : Nat, (k : Int) = n + growth choices (n + 1) ∧
      (markers .code (withGroups (groupAt choices) .code 1 cs))[k]? =
        some (withGroups (groupAt choices) .code 1 front,
          withGroups (groupAt choices) .code (n + 2) back) := by
  obtain ⟨rfl, count, code⟩ := getElem?_markers.1 found
  obtain ⟨apart', marker⟩ := apart.append
  have inCode := (marker.code (c := '?') (by rw [SqlMode.isMarker_of_isCode code]; rfl)).2
  have single : (groupAt choices (1 + n)).text = ['?'] := by
    rw [Nat.add_comm, groupAt_of_forall_ne other]
    rfl
  have moved := countMarkers_withGroups ascending silent front 1 apart'
  rw [growth_of_le start, count, Nat.add_comm 1 n] at moved
  refine ⟨_, by rw [← moved, Int.add_zero], ?_⟩
  rw [withGroups_marker code, count, single, inCode, Nat.add_comm 1 n]
  refine getElem?_markers.2 ⟨rfl, rfl, ?_⟩
  rw [after_withGroups (silent_groupAt silent) front apart', inCode]
  rfl

end

/-! ## Single replacements -/

/-- A marker in its own place changes nothing. -/
theorem replaceMarker_one (sql : String) (number : Nat) (separator : String) :
    replaceMarker sql number 1 separator = sql := by
  unfold replaceMarker
  split
  · rfl
  · split
    · next split =>
      have whole := splitAtMarker?_eq split
      rw [joinedMarkers, List.append_assoc, List.singleton_append, ← whole, String.ofList_toList]
    · rfl

/-- There is nothing to replace behind the last marker. -/
theorem replaceMarker_beyond {sql : String} {number : Nat} (h : markerCount sql < number)
    (count : Nat) (separator : String) : replaceMarker sql number count separator = sql := by
  unfold replaceMarker
  split
  · rfl
  · next n =>
    have none : splitAtMarker? .code n sql.toList = none := by
      rw [splitAtMarker?_eq_getElem?, List.getElem?_eq_none_iff, length_markers]
      exact Nat.le_of_lt_succ h
    rw [none]

end Sql

open MarkerChoice

/-! ## The lists of a call -/

namespace FilledParameter

/-- The markers of the lists, with the number of their values. -/
def choices (es : List FilledParameter) : List MarkerChoice :=
  es.filterMap fun e =>
    if e.parameter.isIterated then
      some ⟨e.parameter.mapping.firstSlot, e.values.length, e.parameter.separator⟩
    else none

theorem choices_cons (e : FilledParameter) (rest : List FilledParameter) :
    choices (e :: rest) =
      if e.parameter.isIterated then
        ⟨e.parameter.mapping.firstSlot, e.values.length, e.parameter.separator⟩ :: choices rest
      else choices rest := by
  unfold choices
  rw [List.filterMap_cons]
  split <;> split <;> simp_all

/-- Lists are written out in turn, as long as the slots that they are moved to are 64-bit words. -/
theorem expandFrom_choices : ∀ {es : List FilledParameter} {first : Nat} {shift : Int}
    (sql : String), Ascending first (choices es) → 1 ≤ first + shift →
    (∀ c ∈ choices es, c.number + shift + MarkerChoice.growth (choices es) c.number < UInt64.size) →
      expandFrom shift sql es = .ok (replaceEach shift sql (choices es))
  | [], _, _, _, _, _, _ => rfl
  | e :: rest, first, shift, sql, ascending, positive, small => by
    rw [choices_cons] at ascending small ⊢
    rw [expandFrom]
    by_cases iterated : e.parameter.isIterated = true
    · rw [if_pos iterated] at ascending small ⊢
      rw [if_pos iterated]
      obtain ⟨low, behind⟩ := ascending
      obtain ⟨here, others⟩ := List.forall_mem_cons.1 small
      have still := growth_of_le fun c hc => Nat.le_of_lt (behind.le c hc)
      simp only [growth_cons, Nat.lt_irrefl, if_false, still] at low behind here others
      have grown : e.growth = (e.values.length : Int) - 1 := if_pos iterated
      have slot : e.parameter.movedSlot shift =
          .ok (e.parameter.mapping.firstSlot + shift).toNat :=
        ParameterBinding.movedSlot_eq_ok.2 ⟨by omega, by omega, by omega⟩
      rw [slot, grown]
      refine expandFrom_choices _ behind (by omega) fun c hc => ?_
      have later : e.parameter.mapping.firstSlot < c.number := behind.le c hc
      have := others c hc
      rw [if_pos later] at this
      omega
    · rw [if_neg iterated] at ascending small ⊢
      rw [if_neg iterated]
      exact expandFrom_choices sql ascending positive small

end FilledParameter

/-! ## The slots of wide values -/

namespace WideMarker

/-- The marker of a wide value, with the number of its slots. -/
def choice (m : WideMarker) : MarkerChoice := ⟨m.slot, m.width, separator⟩

theorem shift_of_lt {markers : List WideMarker} {slot : Nat} (h : ∀ m ∈ markers, m.slot < slot) :
    shift markers slot = (markers.map fun m => m.width - 1).sum := by
  induction markers with
  | nil => rfl
  | cons m rest ih =>
    obtain ⟨first, others⟩ := List.forall_mem_cons.1 h
    rw [shift, if_pos first, ih others, List.map_cons, List.sum_cons]

theorem shift_of_le {markers : List WideMarker} {slot : Nat} (h : ∀ m ∈ markers, slot ≤ m.slot) :
    shift markers slot = 0 := by
  induction markers with
  | nil => rfl
  | cons m rest ih =>
    obtain ⟨first, others⟩ := List.forall_mem_cons.1 h
    rw [shift, if_neg (by omega), ih others]

/-- Wide values are written out in turn, those before them having moved their markers. -/
theorem expand_choices (done : List WideMarker) : ∀ {rest : List WideMarker} {first : Nat}
    (sql : String), (∀ m ∈ done, m.slot < first) → Ascending first (rest.map choice) →
    (∀ m ∈ rest, 1 ≤ m.width) →
    rest.foldl
        (fun text m =>
          if 1 < m.width then
            replaceMarker text (m.slot + shift (done ++ rest) m.slot) m.width separator
          else text)
        sql =
      replaceEach ((done.map fun m => m.width - 1).sum : Nat) sql (rest.map choice)
  | [], _, _, _, _, _ => rfl
  | m :: rest, first, sql, before, ascending, wide => by
    obtain ⟨low, behind⟩ := ascending
    obtain ⟨one, others⟩ := List.forall_mem_cons.1 wide
    have all : done ++ m :: rest = (done ++ [m]) ++ rest := by simp
    have before' : ∀ m' ∈ done ++ [m], m'.slot < m.slot + 1 := by
      intro m' hm
      have slot : m.choice.number = m.slot := rfl
      rcases List.mem_append.1 hm with hm | hm
      · have := before m' hm
        omega
      · rw [List.mem_singleton.1 hm]
        exact Nat.lt_succ_self _
    have ih := expand_choices (done ++ [m]) (if 1 < m.width then
      replaceMarker sql (m.slot + shift (done ++ m :: rest) m.slot) m.width separator else sql)
      before' behind others
    rw [← all, List.map_append, List.sum_append, List.map_singleton, List.sum_singleton] at ih
    -- only the values before this one have moved its marker
    have moved : shift (done ++ m :: rest) m.slot = (done.map fun m => m.width - 1).sum := by
      have slot : m.choice.number = m.slot := rfl
      rw [shift_append, shift_of_lt fun m' hm => by have := before m' hm; omega, shift_of_le,
        Nat.add_zero]
      refine List.forall_mem_cons.2 ⟨Nat.le_refl _, fun m' hm => ?_⟩
      have : m.slot + 1 ≤ m'.slot := behind.le m'.choice (List.mem_map_of_mem hm)
      omega
    have text : (if 1 < m.width then
        replaceMarker sql (m.slot + shift (done ++ m :: rest) m.slot) m.width separator else sql) =
        replaceMarker sql (m.slot + (done.map fun m => m.width - 1).sum) m.width separator := by
      split
      · rw [moved]
      · rw [show m.width = 1 by omega, replaceMarker_one]
    have shifted : (((done.map fun m => m.width - 1).sum + (m.width - 1) : Nat) : Int) =
        ((done.map fun m => m.width - 1).sum : Nat) + ((m.width : Int) - 1) := by omega
    rw [List.foldl_cons, ih, text, shifted]
    rfl

end WideMarker

namespace Sql

/-! ## All at once -/

/-- Replacing chosen markers of a text in turn is replacing all of them at once. -/
structure ReplacesAtOnce (sql : String) (choices : List MarkerChoice) : Prop where
  /-- Every chosen marker is replaced by its group, and all else stays. -/
  text : replaceEach 0 sql choices =
    String.ofList (withGroups (groupAt choices) .code 1 sql.toList)
  /-- So are the markers of the lists of a call; the slots that they are moved to are words. -/
  lists : ∀ es : List FilledParameter, FilledParameter.choices es = choices →
    (∀ c ∈ choices, c.number + growth choices c.number < UInt64.size) →
      FilledParameter.expand sql es = .ok (replaceEach 0 sql choices)
  /-- So are the markers of values that take several slots. -/
  wide : ∀ values : List WideMarker, values.map WideMarker.choice = choices →
    (∀ m ∈ values, 1 ≤ m.width) → WideMarker.expand values sql = replaceEach 0 sql choices
  /-- What stands behind a place of the text is read there as it was before. -/
  modes : ∀ front back, sql.toList = front ++ back →
    SqlMode.code.after (withGroups (groupAt choices) .code 1 front) = SqlMode.code.after front
  count : (markerCount (replaceEach 0 sql choices) : Int) =
    markerCount sql + (choices.map fun c => (c.count : Int) - 1).sum
  /-- A marker that is not chosen is moved by the choices in front of it, and has around it what it
  had, with the groups put in. -/
  kept : ∀ n front back, (markers .code sql.toList)[n]? = some (front, back) →
    (∀ c ∈ choices, c.number ≠ n + 1) → ∃ k : Nat, (k : Int) = n + growth choices (n + 1) ∧
      (markers .code (replaceEach 0 sql choices).toList)[k]? =
        some (withGroups (groupAt choices) .code 1 front,
          withGroups (groupAt choices) .code (n + 2) back)

/-- Choose some markers of a text, in ascending order, each with a number of markers to put in its
place and a separator that holds no quote, slash or question mark. If no marker of the text stands
behind a slash, then replacing the chosen ones in turn, each where the ones before have moved it,
puts all the groups into their places at once and changes nothing else. Replacing a marker by one
marker changes nothing, nor does replacing one behind the last. -/
theorem replaced_at_once {sql : String} {choices : List MarkerChoice}
    (ascending : Ascending 1 choices) (there : ∀ c ∈ choices, c.number ≤ markerCount sql)
    (silent : ∀ c ∈ choices, IsCodeSeparator c.separator.toList)
    (apart : ∀ place ∈ markers .code sql.toList, place.1.getLast? ≠ some '/') :
    ReplacesAtOnce sql choices ∧
      (∀ number separator, replaceMarker sql number 1 separator = sql) ∧
      ∀ number count separator, markerCount sql < number →
        replaceMarker sql number count separator = sql := by
  have apart' := apart_of_getLast apart
  have start := ascending.le
  have behind : ∀ c ∈ choices, c.number < 1 + markerCount sql := fun c hc => by
    have := there c hc
    omega
  have text : replaceEach 0 sql choices =
      String.ofList (withGroups (groupAt choices) .code 1 sql.toList) := by
    have whole : replaceEach 0 (String.ofList ([] ++ sql.toList)) choices =
        String.ofList ([] ++ withGroups (groupAt choices) .code 1 sql.toList) :=
      replaceEach_eq ascending behind silent apart' rfl rfl
    rwa [List.nil_append, List.nil_append, String.ofList_toList] at whole
  refine ⟨⟨text, ?_, ?_, ?_, ?_, ?_⟩, replaceMarker_one sql, fun number count separator h =>
    replaceMarker_beyond h count separator⟩
  · rintro es rfl small
    refine FilledParameter.expandFrom_choices sql ascending (by decide) fun c hc => ?_
    rw [Int.add_zero]
    exact small c hc
  · rintro values rfl wide
    exact WideMarker.expand_choices [] sql (List.forall_mem_nil _) ascending wide
  · intro front back whole
    rw [whole] at apart'
    exact after_withGroups (silent_groupAt silent) front apart'.append.1
  · have counted := countMarkers_withGroups ascending silent sql.toList 1 apart'
    have none : growth choices 1 = 0 := growth_of_le start
    have all := growth_of_lt behind
    unfold markerCount at all ⊢
    rw [text, String.toList_ofList]
    omega
  · intro n front back found other
    rw [text, String.toList_ofList]
    exact markers_withGroups ascending silent apart' found start other

end Sql

/-- A statement with question marks in a literal and in a comment. -/
def Sample.bookings : String :=
  "SELECT '?' FROM bookings WHERE day IN (?) /* open? */ AND owner = ? AND room IN (?)"

theorem Sample.bookings_replaced :
    let choices : List MarkerChoice := [⟨1, 0, ","⟩, ⟨3, 3, " , "⟩]
    ReplacesAtOnce Sample.bookings choices ∧ replaceEach 0 Sample.bookings choices =
      "SELECT '?' FROM bookings WHERE day IN () /* open? */ AND owner = ? AND room IN (? , ? , ?)" := by
  intro choices
  have ascending : Ascending 1 choices := ⟨by decide, by decide, trivial⟩
  have there : ∀ c ∈ choices, c.number ≤ markerCount Sample.bookings := by decide +kernel
  have apart : ∀ place ∈ markers .code Sample.bookings.toList, place.1.getLast? ≠ some '/' := by
    decide +kernel
  obtain ⟨replaced, -⟩ := Sql.replaced_at_once ascending there (by decide) apart
  refine ⟨replaced, replaced.text.trans ?_⟩
  decide +kernel

end QueryMethods
