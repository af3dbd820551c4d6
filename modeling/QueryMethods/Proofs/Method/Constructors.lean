/-
How constructor slots select a constructor. The slots are numbered from 1 on without gaps or
repeats; the first constructor that takes the tags exactly is selected, else the first that widens
them. An exact match asks for equal nullabilities, so that an optional parameter is no exact match
for a tag that is not nullable, although it takes the values as they are.
-/
import QueryMethods.Proofs.Method.Complete
import QueryMethods.Proofs.Method.Tags
import QueryMethods.Sample.Beans

namespace QueryMethods

/-! ## First matches -/

/-- The first element that has a property stands at that index. -/
def IsFirst {α : Type} (p : α → Prop) (xs : List α) (index : Nat) : Prop :=
  ∃ x, xs[index]? = some x ∧ p x ∧ ∀ i < index, ∀ y, xs[i]? = some y → ¬ p y

/-- The first element that matches exactly, or the first that matches loosely where none does. -/
inductive Prefers {α : Type} (exact loose : α → Prop) (xs : List α) : Nat → Prop
  | exact {index : Nat} (first : IsFirst exact xs index) : Prefers exact loose xs index
  | loose {index : Nat} (none : ∀ x ∈ xs, ¬ exact x) (first : IsFirst loose xs index) :
      Prefers exact loose xs index

section

variable {α : Type} {xs : List α} {index : Nat}

theorem findIdx?_eq_some_iff_isFirst {p : α → Prop} [DecidablePred p] :
    xs.findIdx? (p ·) = some index ↔ IsFirst p xs index := by
  rw [List.findIdx?_eq_some_iff_getElem]
  constructor
  · rintro ⟨inside, holds, before⟩
    refine ⟨xs[index], List.getElem?_eq_getElem inside, of_decide_eq_true holds, ?_⟩
    intro i less y hy hp
    obtain ⟨here, rfl⟩ := List.getElem?_eq_some_iff.1 hy
    exact before i less (decide_eq_true hp)
  · rintro ⟨x, hx, holds, before⟩
    obtain ⟨inside, rfl⟩ := List.getElem?_eq_some_iff.1 hx
    refine ⟨inside, decide_eq_true holds, fun i less hp => ?_⟩
    exact before i less _ (List.getElem?_eq_getElem _) (of_decide_eq_true hp)

theorem findIdx?_eq_none_iff_forall {p : α → Prop} [DecidablePred p] :
    xs.findIdx? (p ·) = none ↔ ∀ x ∈ xs, ¬ p x := by
  rw [List.findIdx?_eq_none_iff]
  exact forall₂_congr fun x _ => decide_eq_false_iff_not

theorem findIdx?_or_eq_some_iff {exact loose : α → Prop} [DecidablePred exact]
    [DecidablePred loose] : (xs.findIdx? (exact ·)).or (xs.findIdx? (loose ·)) = some index ↔
      Prefers exact loose xs index := by
  rw [Option.or_eq_some_iff, findIdx?_eq_some_iff_isFirst, findIdx?_eq_some_iff_isFirst,
    findIdx?_eq_none_iff_forall]
  constructor
  · rintro (first | ⟨none, first⟩)
    · exact .exact first
    · exact .loose none first
  · intro h
    cases h with
    | exact first => exact .inl first
    | loose none first => exact .inr ⟨none, first⟩

/-- What is preferred is there, and it matches at least loosely. -/
theorem Prefers.getElem? {exact loose : α → Prop} (weaker : ∀ x, exact x → loose x)
    (h : Prefers exact loose xs index) : ∃ x, xs[index]? = some x ∧ loose x := by
  cases h with
  | exact first =>
    obtain ⟨x, hx, holds, -⟩ := first
    exact ⟨x, hx, weaker x holds⟩
  | loose _ first =>
    obtain ⟨x, hx, holds, -⟩ := first
    exact ⟨x, hx, holds⟩

end

/-- A list without all its values lacks that of some element. -/
theorem exists_of_mapM_eq_none {α β : Type} {f : α → Option β} : ∀ {xs : List α},
    xs.mapM f = none → ∃ x ∈ xs, f x = none
  | [], h => nomatch h
  | x :: xs, h => by
    cases first : f x with
    | none => exact ⟨x, List.mem_cons_self, first⟩
    | some y =>
      cases others : xs.mapM f with
      | none =>
        obtain ⟨x', mem, failed⟩ := exists_of_mapM_eq_none others
        exact ⟨x', List.mem_cons_of_mem _ mem, failed⟩
      | some ys =>
        rw [List.mapM_cons, first, others] at h
        cases h

/-! ## What parameters take -/

namespace MethodScope

/-- The number and the tag of a constructor slot. -/
abbrev ConstructorSlot : Type := Nat × Option Tag

/-- A parameter takes what a built-in tag says as it is: the type is the same, and the parameter is
optional where the tag is nullable. -/
def TakesAsIs (parameter : ValueType) (tag : Option Tag) : Prop :=
  (Tag.builtin? tag).isSome = true ∧ parameter.scalar? = Tag.builtin? tag ∧
    (tagNullable tag = parameter.nullable ∨ tagNullable tag = false ∧ parameter.nullable = true)

/-- It takes it with the nullability of the tag. -/
def TakesExactly (parameter : ValueType) (tag : Option Tag) : Prop :=
  (Tag.builtin? tag).isSome = true ∧ parameter.scalar? = Tag.builtin? tag ∧
    tagNullable tag = parameter.nullable

/-- It takes it once it is widened. -/
def TakesWidened (parameter : ValueType) (tag : Option Tag) : Prop :=
  (∃ scalar ∈ Tag.builtin? tag, ∃ actual ∈ parameter.scalar?, actual.admits scalar = true) ∧
    (tagNullable tag = true → parameter.nullable = true)

instance : DecidableRel TakesAsIs := fun _ _ => inferInstanceAs (Decidable (_ ∧ _))
instance : DecidableRel TakesExactly := fun _ _ => inferInstanceAs (Decidable (_ ∧ _))
instance : DecidableRel TakesWidened := fun _ _ => inferInstanceAs (Decidable (_ ∧ _))

variable {parameter : ValueType} {tag : Option Tag}

theorem TakesExactly.takesAsIs (h : TakesExactly parameter tag) : TakesAsIs parameter tag :=
  ⟨h.1, h.2.1, .inl h.2.2⟩

theorem TakesAsIs.takesWidened (h : TakesAsIs parameter tag) : TakesWidened parameter tag := by
  obtain ⟨builtin, same, null⟩ := h
  obtain ⟨scalar, hs⟩ := Option.isSome_iff_exists.1 builtin
  refine ⟨⟨scalar, hs, scalar, same.trans hs, ?_⟩, fun nullable => ?_⟩
  · unfold BuiltinType.admits
    rw [decide_eq_true rfl]
    rfl
  · rcases null with same | ⟨plain, -⟩
    · exact same.symm.trans nullable
    · rw [plain] at nullable
      cases nullable

section

variable {s : MethodScope}

theorem takes_exact_iff (builtin : (Tag.builtin? tag).isSome = true) :
    s.takes true parameter tag = true ↔ TakesExactly parameter tag := by
  cases tag with
  | none => cases builtin
  | some t =>
    obtain ⟨scalar, hs⟩ := Option.isSome_iff_exists.1 builtin
    have name : BuiltinType.ofTag? t.name = some scalar := hs
    unfold takes TakesExactly
    dsimp only
    rw [name, hs, show tagNullable (some t) = t.nullable from rfl]
    cases parameter.scalar? <;> cases t.nullable <;> cases parameter.nullable <;> simp

theorem takes_widened_iff (builtin : (Tag.builtin? tag).isSome = true) :
    s.takes false parameter tag = true ↔ TakesWidened parameter tag := by
  cases tag with
  | none => cases builtin
  | some t =>
    obtain ⟨scalar, hs⟩ := Option.isSome_iff_exists.1 builtin
    have name : BuiltinType.ofTag? t.name = some scalar := hs
    unfold takes TakesWidened
    dsimp only
    rw [name, hs, show tagNullable (some t) = t.nullable from rfl]
    cases parameter.scalar? <;> cases t.nullable <;> cases parameter.nullable <;> simp

end

/-! ## Numbers of slots -/

/-- Slots are numbered from 1 on, without gaps or repeats. -/
def Counted (slots : List ConstructorSlot) : Prop :=
  (slots.map (·.1)).Perm (List.range' 1 slots.length)

instance : DecidablePred Counted := fun _ => inferInstanceAs (Decidable (List.Perm _ _))

namespace Counted

variable {slots : List ConstructorSlot}

theorem number (h : Counted slots) {slot : ConstructorSlot} (hs : slot ∈ slots) :
    1 ≤ slot.1 ∧ slot.1 ≤ slots.length := by
  have inside := h.subset (List.mem_map_of_mem hs)
  rw [List.mem_range'_1] at inside
  omega

theorem slot (h : Counted slots) {n : Nat} (low : 1 ≤ n) (high : n ≤ slots.length) :
    ∃ tag, (n, tag) ∈ slots := by
  have inside : n ∈ List.range' 1 slots.length := List.mem_range'_1.2 ⟨low, by omega⟩
  obtain ⟨⟨k, tag⟩, hs, rfl⟩ := List.mem_map.1 (h.symm.subset inside)
  exact ⟨tag, hs⟩

/-- A number has one slot. -/
theorem unique (h : Counted slots) {slot slot' : ConstructorSlot} (hs : slot ∈ slots)
    (hs' : slot' ∈ slots) (same : slot.1 = slot'.1) : slot = slot' :=
  List.inj_on_of_nodup_map (h.nodup_iff.2 (List.nodup_range' 1)) hs hs' same

/-- As many numbers as slots, none of them left out. -/
theorem of_all (all : ∀ n, 1 ≤ n → n ≤ slots.length → ∃ tag, (n, tag) ∈ slots) : Counted slots := by
  have subset : List.range' 1 slots.length ⊆ slots.map (·.1) := by
    intro n hn
    rw [List.mem_range'_1] at hn
    obtain ⟨tag, hs⟩ := all n hn.1 (by omega)
    exact List.mem_map_of_mem hs
  have less : (slots.map (·.1)).length ≤ (List.range' 1 slots.length).length := by
    rw [List.length_map, List.length_range']
  exact ((List.subperm_of_subset (List.nodup_range' 1) subset).perm_of_length_le less).symm

theorem find? (h : Counted slots) {slot : ConstructorSlot} (hs : slot ∈ slots) :
    slots.find? (·.1 = slot.1) = some slot := by
  cases found : slots.find? (·.1 = slot.1) with
  | none => exact absurd (decide_eq_true rfl) (List.find?_eq_none.1 found slot hs)
  | some slot' =>
    have same : slot'.1 = slot.1 := by simpa using List.find?_some found
    rw [h.unique (List.mem_of_find?_eq_some found) hs same]

end Counted

/-- The tags in the order of their numbers. -/
def TagsOf (slots : List ConstructorSlot) (tags : List (Option Tag)) : Prop :=
  tags.length = slots.length ∧ ∀ slot ∈ slots, tags[slot.1 - 1]? = some slot.2

theorem slotTags_counted {slots : List ConstructorSlot} {tags : List (Option Tag)}
    (h : slotTags slots = .ok tags) : Counted slots ∧ TagsOf slots tags := by
  obtain ⟨length, all⟩ := slotTags_ok h
  have counted := Counted.of_all all
  refine ⟨counted, length, fun slot hs => ?_⟩
  unfold slotTags at h
  split at h
  · next found =>
    cases h
    obtain ⟨low, high⟩ := counted.number hs
    have inside : (List.range slots.length)[slot.1 - 1]? = some (slot.1 - 1) := by
      rw [List.getElem?_range (by omega)]
    obtain ⟨tag, ht, stands⟩ := getElem?_of_forall₂ (mapM_eq_some found) inside
    rw [show slot.1 - 1 + 1 = slot.1 by omega, counted.find? hs] at stands
    rw [ht, ← stands]
    rfl
  · cases h

theorem slotTags_of_counted {slots : List ConstructorSlot} (h : Counted slots) :
    ∃ tags, slotTags slots = .ok tags := by
  unfold slotTags
  cases found : (List.range slots.length).mapM fun i =>
      (slots.find? (·.1 = i + 1)).map (·.2) with
  | some tags => exact ⟨tags, rfl⟩
  | none =>
    obtain ⟨i, hi, missing⟩ := exists_of_mapM_eq_none found
    obtain ⟨tag, hs⟩ := h.slot (Nat.succ_pos i) (List.mem_range.1 hi)
    rw [h.find? hs] at missing
    cases missing

theorem slotTags_of_not_counted {slots : List ConstructorSlot} (h : ¬ Counted slots) :
    slotTags slots = .error (.slotNumbers slots.length) := by
  cases tags : slotTags slots with
  | ok tags => exact absurd (slotTags_counted tags).1 h
  | error e =>
    unfold slotTags at tags
    split at tags
    · cases tags
    · exact tags.symm

/-! ## Constructors -/

/-- A constructor has a parameter for every slot, and each takes the tag of its slot. -/
def Accepts (takes : ValueType → Option Tag → Prop) (slots : List ConstructorSlot)
    (k : BeanClass.Constructor) : Prop :=
  k.parameters.length = slots.length ∧
    ∀ slot ∈ slots, ∃ parameter ∈ k.parameters[slot.1 - 1]?, takes parameter slot.2

instance (takes : ValueType → Option Tag → Prop) [DecidableRel takes]
    (slots : List ConstructorSlot) : DecidablePred (Accepts takes slots) :=
  fun _ => inferInstanceAs (Decidable (_ ∧ _))

theorem Accepts.mono {takes takes' : ValueType → Option Tag → Prop}
    (weaker : ∀ parameter tag, takes parameter tag → takes' parameter tag)
    {slots : List ConstructorSlot} {k : BeanClass.Constructor} (h : Accepts takes slots k) :
    Accepts takes' slots k := by
  refine ⟨h.1, fun slot hs => ?_⟩
  obtain ⟨parameter, found, holds⟩ := h.2 slot hs
  exact ⟨parameter, found, weaker _ _ holds⟩

/-- Comparing parameters with tags in order is the same as comparing them slot by slot. -/
theorem fits_iff {s : MethodScope} {exact : Bool} {takes : ValueType → Option Tag → Prop}
    {slots : List ConstructorSlot} {tags : List (Option Tag)} (counted : Counted slots)
    (tagged : TagsOf slots tags)
    (same : ∀ parameter, ∀ slot ∈ slots, s.takes exact parameter slot.2 = true ↔ takes parameter slot.2)
    (k : BeanClass.Constructor) : s.fits exact tags k = true ↔ Accepts takes slots k := by
  obtain ⟨length, stands⟩ := tagged
  unfold fits Accepts
  rw [Bool.and_eq_true, decide_eq_true_eq, length]
  refine and_congr_right fun arity => ?_
  rw [List.all_eq_true]
  constructor
  · intro all slot hs
    obtain ⟨low, high⟩ := counted.number hs
    have inside : slot.1 - 1 < k.parameters.length := by omega
    refine ⟨_, List.getElem?_eq_getElem inside, (same _ slot hs).1 ?_⟩
    refine all (k.parameters[slot.1 - 1], slot.2) (List.mem_of_getElem? (i := slot.1 - 1) ?_)
    exact List.getElem?_zip_eq_some.2 ⟨List.getElem?_eq_getElem inside, stands slot hs⟩
  · rintro each ⟨parameter, tag⟩ pair
    obtain ⟨i, hi⟩ := List.getElem?_of_mem pair
    obtain ⟨hp, ht⟩ := List.getElem?_zip_eq_some.1 hi
    obtain ⟨inside, -⟩ := List.getElem?_eq_some_iff.1 hp
    -- the position is that of a slot
    obtain ⟨tag', hs⟩ := counted.slot (n := i + 1) (Nat.succ_pos i) (by omega)
    cases ht.symm.trans (stands _ hs)
    obtain ⟨parameter', hp', holds⟩ := each _ hs
    cases hp.symm.trans hp'
    exact (same _ _ hs).2 holds

/-! ## Selection -/

/-- What the specification selects: the first constructor that takes the tags as they are, else the
first that widens them. -/
def Selects (slots : List ConstructorSlot) (c : BeanClass) : Nat → Prop :=
  Prefers (Accepts TakesAsIs slots) (Accepts TakesWidened slots) c.constructors

/-- The nullabilities that an exact match asks for do not matter: the first constructor that takes
the tags as they are takes them with these; or none does, and the first that takes the tags as they
are is also the first that widens them. -/
def Indifferent (slots : List ConstructorSlot) (c : BeanClass) : Prop :=
  (∀ i ∈ c.constructors.findIdx? (Accepts TakesAsIs slots ·), ∀ k ∈ c.constructors[i]?,
      Accepts TakesExactly slots k) ∨
    (∀ k ∈ c.constructors, ¬ Accepts TakesExactly slots k) ∧
      c.constructors.findIdx? (Accepts TakesAsIs slots ·) =
        c.constructors.findIdx? (Accepts TakesWidened slots ·)

instance (slots : List ConstructorSlot) (c : BeanClass) : Decidable (Indifferent slots c) :=
  inferInstanceAs (Decidable (_ ∨ _ ∧ _))

variable {slots : List ConstructorSlot} {c : BeanClass}

theorem Accepts.asIs {k : BeanClass.Constructor} (h : Accepts TakesExactly slots k) :
    Accepts TakesAsIs slots k := h.mono fun _ _ => TakesExactly.takesAsIs

theorem Accepts.widened {k : BeanClass.Constructor} (h : Accepts TakesAsIs slots k) :
    Accepts TakesWidened slots k := h.mono fun _ _ => TakesAsIs.takesWidened

/-- In a class with one constructor there is nothing to prefer. -/
theorem indifferent_of_single {k : BeanClass.Constructor} (single : c.constructors = [k]) :
    Indifferent slots c := by
  unfold Indifferent
  rw [single]
  by_cases exact : Accepts TakesExactly slots k
  · refine .inl fun i _ k' hk' => ?_
    cases List.mem_singleton.1 (List.mem_of_getElem? hk')
    exact exact
  · by_cases asIs : Accepts TakesAsIs slots k
    · refine .inr ⟨List.forall_mem_singleton.2 exact, ?_⟩
      simp [List.findIdx?_cons, asIs, asIs.widened]
    · refine .inl fun i hi => ?_
      simp [List.findIdx?_cons, asIs] at hi

/-- Then the search for equal nullabilities finds what the specification selects. -/
theorem Indifferent.selects_iff (h : Indifferent slots c) {index : Nat} :
    Prefers (Accepts TakesExactly slots) (Accepts TakesWidened slots) c.constructors index ↔
      Selects slots c index := by
  unfold Selects
  rw [← findIdx?_or_eq_some_iff, ← findIdx?_or_eq_some_iff]
  cases asIs : c.constructors.findIdx? (Accepts TakesAsIs slots ·) with
  | none =>
    have exactly : c.constructors.findIdx? (Accepts TakesExactly slots ·) = none := by
      rw [findIdx?_eq_none_iff_forall] at asIs ⊢
      exact fun k hk exact => asIs k hk exact.asIs
    rw [exactly]
  | some i =>
    rcases h with same | ⟨none, ordered⟩
    · obtain ⟨k, hk, -, before⟩ := findIdx?_eq_some_iff_isFirst.1 asIs
      have exactly : c.constructors.findIdx? (Accepts TakesExactly slots ·) = some i :=
        findIdx?_eq_some_iff_isFirst.2 ⟨k, hk, same i asIs k hk, fun j less y hy exact =>
          before j less y hy exact.asIs⟩
      rw [exactly]
    · rw [findIdx?_eq_none_iff_forall.2 none, ← ordered, asIs, Option.none_or]
      rfl

section

variable {s : MethodScope} {row : ValueType} (bean : s.catalog.classOf? row = some c)
  (builtin : ∀ slot ∈ slots, (Tag.builtin? slot.2).isSome = true)

include bean builtin

/-- The constructor is searched among those of the class once the slots have been counted. -/
theorem selectConstructor_of_counted (counted : Counted slots) : ∃ names,
    s.selectConstructor row slots =
      match (c.constructors.findIdx? (Accepts TakesExactly slots ·)).or
        (c.constructors.findIdx? (Accepts TakesWidened slots ·)) with
      | some i => .ok (i, ((c.constructors[i]?).map (·.parameters)).getD [])
      | none => .error (.noConstructor c.name names) := by
  obtain ⟨tags, ht⟩ := slotTags_of_counted counted
  obtain ⟨-, tagged⟩ := slotTags_counted ht
  have exact : s.fits true tags = (Accepts TakesExactly slots ·) := funext fun k => by
    rw [Bool.eq_iff_iff, decide_eq_true_eq]
    exact fits_iff counted tagged (fun _ slot hs => takes_exact_iff (builtin slot hs)) k
  have widened : s.fits false tags = (Accepts TakesWidened slots ·) := funext fun k => by
    rw [Bool.eq_iff_iff, decide_eq_true_eq]
    exact fits_iff counted tagged (fun _ slot hs => takes_widened_iff (builtin slot hs)) k
  refine ⟨tags.map fun t => (t.map (·.name)).getD "?", ?_⟩
  unfold selectConstructor
  rw [bean]
  dsimp only
  rw [ht, ← exact, ← widened]
  rfl

/-- Slots that are not counted are refused. Else the constructor is selected that the tags prefer,
an exact match being one with equal nullabilities, or there is none. -/
theorem selectConstructor_spec :
    (¬ Counted slots → s.selectConstructor row slots = .error (.slotNumbers slots.length)) ∧
    (Counted slots →
      (∀ index parameters, s.selectConstructor row slots = .ok (index, parameters) ↔
        Prefers (Accepts TakesExactly slots) (Accepts TakesWidened slots) c.constructors index ∧
          (c.constructors[index]?).map (·.parameters) = some parameters) ∧
      ((∀ k ∈ c.constructors, ¬ Accepts TakesWidened slots k) → ∃ names,
        s.selectConstructor row slots = .error (.noConstructor c.name names))) := by
  refine ⟨fun gaps => ?_, fun counted => ?_⟩
  · unfold selectConstructor
    rw [bean]
    dsimp only
    rw [slotTags_of_not_counted gaps]
    rfl
  · obtain ⟨names, search⟩ := selectConstructor_of_counted bean builtin counted
    refine ⟨fun index parameters => ?_, fun none => ⟨names, ?_⟩⟩
    · rw [search]
      constructor
      · intro h
        split at h
        · next i found =>
          have preferred := findIdx?_or_eq_some_iff.1 found
          obtain ⟨k, hk, -⟩ := preferred.getElem? fun _ exact => exact.asIs.widened
          cases h
          rw [hk]
          exact ⟨preferred, rfl⟩
        · cases h
      · rintro ⟨preferred, found⟩
        rw [findIdx?_or_eq_some_iff.2 preferred]
        dsimp only
        rw [found]
        rfl
    · have neither : (c.constructors.findIdx? (Accepts TakesExactly slots ·)).or
          (c.constructors.findIdx? (Accepts TakesWidened slots ·)) = Option.none := by
        rw [Option.or_eq_none_iff, findIdx?_eq_none_iff_forall, findIdx?_eq_none_iff_forall]
        exact ⟨fun k hk exact => none k hk exact.asIs.widened, none⟩
      rw [search, neither]

/-- Whichever constructor is selected, its parameters take the tags, some of them widened. -/
theorem selectConstructor_accepts {index : Nat} {parameters : List ValueType}
    (h : s.selectConstructor row slots = .ok (index, parameters)) :
    Counted slots ∧ ∃ k, c.constructors[index]? = some k ∧ k.parameters = parameters ∧
      Accepts TakesWidened slots k := by
  obtain ⟨gaps, counts⟩ := selectConstructor_spec bean builtin
  have counted : Counted slots := by
    by_contra not
    cases (gaps not).symm.trans h
  obtain ⟨preferred, found⟩ := ((counts counted).1 index parameters).1 h
  obtain ⟨k, hk, accepts⟩ := preferred.getElem? fun _ exact => exact.asIs.widened
  rw [hk] at found
  exact ⟨counted, k, hk, Option.some.inj found, accepts⟩

end

end MethodScope

/-! ## Results of constructor slots -/

/-- The number of the constructor parameter that is fed. -/
def Destination.number? : Destination → Option Nat
  | .constructorSlot n => some n
  | .whole | .field _ | .mapKey => none

theorem Destination.number?_eq_some {target : Destination} {n : Nat} :
    target.number? = some n ↔ target = .constructorSlot n := by
  cases target <;> simp [number?]

/-- Where no image occurs twice, there is one element for each. -/
theorem eq_of_nodup_filterMap {α β : Type} {f : α → Option β} {xs : List α}
    (nodup : (xs.filterMap f).Nodup) {x x' : α} (hx : x ∈ xs) (hx' : x' ∈ xs) {y : β}
    (image : f x = some y) (image' : f x' = some y) : x = x' := by
  have apart := List.pairwise_filterMap.1 nodup
  have : Std.Symm fun x x' : α => ∀ y, f x = some y → ∀ y', f x' = some y' → y ≠ y' :=
    ⟨fun _ _ distinct y hy y' hy' same => distinct y' hy' y hy same.symm⟩
  by_contra differ
  exact apart.forall hx hx' differ y image y image' rfl

/-- Where no number occurs twice, no two results feed the same parameter. -/
theorem ResultReading.eq_of_number {rs : List ResultReading}
    (nodup : (rs.filterMap (·.target.number?)).Nodup) {r r' : ResultReading} (hr : r ∈ rs)
    (hr' : r' ∈ rs) {n : Nat} (target : r.target = .constructorSlot n)
    (target' : r'.target = .constructorSlot n) : r = r' :=
  eq_of_nodup_filterMap nodup hr hr' (Destination.number?_eq_some.2 target)
    (Destination.number?_eq_some.2 target')

namespace MethodScope

/-- The placeholder of a constructor slot is read into it, as the type of the parameter. -/
theorem Reading.of_slot {s : MethodScope} {types : ResultTypes} {parameters : List ValueType}
    {d : Template.Result} {r : ResultReading} (h : s.Reading types parameters d r)
    {slot : ConstructorSlot} (place : slotOf? d = some slot) :
    d.tag = slot.2 ∧ r.target = .constructorSlot slot.1 ∧ slot.1 ≠ 0 ∧
      parameters[slot.1 - 1]? = some r.mapping.valueType := by
  have target := h.target
  unfold slotOf? at place
  split at place
  · next n stands =>
    cases place
    rw [stands] at target
    generalize r.target = destination, r.mapping.valueType = type at target ⊢
    cases target with
    | slot positive found => exact ⟨rfl, rfl, positive, found⟩
  · cases place

theorem Reading.number? {s : MethodScope} {types : ResultTypes} {parameters : List ValueType}
    {d : Template.Result} {r : ResultReading} (h : s.Reading types parameters d r) :
    r.target.number? = (slotOf? d).map (·.1) := by
  have target := h.target
  unfold slotOf?
  generalize d.place = place, r.target = destination, r.mapping.valueType = type at target ⊢
  cases target <;> rfl

/-- The constructor slots of the placeholders are the numbers of the results. -/
theorem Reading.numbers {s : MethodScope} {types : ResultTypes} {parameters : List ValueType}
    {definitions : List Template.Result} {results : List ResultReading}
    (each : List.Forall₂ (s.Reading types parameters) definitions results) :
    results.filterMap (·.target.number?) = (definitions.filterMap slotOf?).map (·.1) :=
  filterMap_of_forall₂ (each.imp fun _ _ reading => reading.number?)

theorem Reading.of_unplaced {s : MethodScope} {types : ResultTypes} {parameters : List ValueType}
    {d : Template.Result} {r r' : ResultReading} (h : s.Reading types parameters d r)
    (same : r.unplaced = r'.unplaced) : s.Reading types parameters d r' := by
  obtain ⟨target, conversion, nullable⟩ := h
  rw [ResultReading.target_of_unplaced same, ResultReading.valueType_of_unplaced same] at target
  rw [ResultReading.conversion_of_unplaced same, ResultReading.valueType_of_unplaced same] at conversion
  rw [ResultReading.nullable_of_unplaced same, ResultReading.valueType_of_unplaced same] at nullable
  exact ⟨target, conversion, nullable⟩

/-- Where constructor slots are read, rows are made by the selected constructor. -/
theorem rowPlan_constructor {s : MethodScope} {r : ResolvedResults} {plan : RowPlan}
    (h : s.rowPlan r = .ok plan) {x : ResultReading} (hx : x ∈ r.results) {n : Nat}
    (target : x.target = .constructorSlot n) {index arity : Nat}
    (selected : r.constructor = some (index, arity)) :
    ∃ c, r.row.bind s.catalog.classOf? = some c ∧ plan = .bean c (.constructor index arity) := by
  have value : x ∈ r.results.filter (·.target ≠ .mapKey) :=
    List.mem_filter.2 ⟨hx, decide_eq_true (by rw [target]; exact nofun)⟩
  obtain ⟨origin, suits⟩ := rowPlan_eq_ok.1 h
  cases origin with
  | none _ =>
    rw [show r.results.filter (·.target ≠ .mapKey) = [] from suits] at value
    cases value
  | atomic _ =>
    -- the whole value would be the only one, but the slot is another
    obtain ⟨only, -, whole, alone⟩ := suits.alone
    rw [alone, List.mem_singleton] at value
    rw [← value, target] at whole
    cases whole
  | fresh _ fields _ => cases fields.symm.trans selected
  | @constructor c _ _ type selected' =>
    cases selected'.symm.trans selected
    exact ⟨c, type, rfl⟩

/-- An accepted method with constructor slots has had a constructor selected, and its results are
read as the parameters of it say. -/
theorem compile_constructor {s : MethodScope} {interface method template : String} {t : Template}
    (read : Template.read (form s.kind) template = .ok t)
    (fed : t.results.filterMap slotOf? ≠ []) {m : CompiledMethod}
    (h : s.compile interface method template = .ok m) :
    ∃ types c index parameters, s.resultTypes = .ok types ∧
      s.catalog.classOf? types.row = some c ∧
      s.selectConstructor types.row (t.results.filterMap slotOf?) = .ok (index, parameters) ∧
      m.rowPlan = .bean c (.constructor index (t.results.filterMap slotOf?).length) ∧
      List.Forall₂ (s.Reading types parameters) t.results m.results := by
  obtain ⟨t', resolved, read', source⟩ := compile_resolvedFrom h
  cases read.symm.trans read'
  obtain ⟨slot, hs⟩ := List.exists_mem_of_ne_nil _ fed
  obtain ⟨d, hd, place⟩ := List.mem_filterMap.1 hs
  have plan := source.plan
  have unplaced := source.unplaced
  have resolution := results_resolution source.results
  cases resolution with
  | none empty =>
    rw [empty] at hd
    cases hd
  | fields _ each =>
    obtain ⟨r, -, reading⟩ := exists_of_forall₂_left each hd
    cases (reading.of_slot place).2.2.2
  | @slots types index parameters results _ typed selected each =>
    obtain ⟨r, hr, reading⟩ := exists_of_forall₂_left each hd
    obtain ⟨c, type, eq⟩ := rowPlan_constructor plan hr (reading.of_slot place).2.1 rfl
    refine ⟨types, c, index, parameters, typed, type, selected, eq, ?_⟩
    refine (forall₂_comp.2 ⟨results, each, unplaced⟩).imp fun d r' h => ?_
    obtain ⟨r, reading, same⟩ := h
    exact reading.of_unplaced same

end MethodScope

/-- Constructor selection. Take a template whose constructor slots all have tags of built-in types,
for a method whose rows are of a bean class. Slots that are not 1 to their number, without gaps or
repeats, are refused. Else the constructor is selected that the specification prefers: the first
that takes every tag as it is, else the first that widens them; without one the slots are refused.
This needs that the nullabilities which an exact match asks for beyond that do not matter. Only
methods for which a constructor is selected are accepted, and their rows are made by it. -/
theorem MethodDeclaration.constructor_selected {d : MethodDeclaration} {catalog : Catalog}
    {adapters : AdapterTable} {t : Template}
    (read : Template.read (MethodScope.form d.kind) d.template = .ok t)
    (fed : t.results.filterMap MethodScope.slotOf? ≠ [])
    (builtin : ∀ slot ∈ t.results.filterMap MethodScope.slotOf?,
      (Tag.builtin? slot.2).isSome = true)
    {types : MethodScope.ResultTypes}
    (typed : MethodScope.resultTypes ⟨catalog, adapters, d.kind, d.signature⟩ = .ok types)
    {c : BeanClass} (bean : catalog.classOf? types.row = some c)
    (indifferent : MethodScope.Indifferent (t.results.filterMap MethodScope.slotOf?) c) :
    let slots := t.results.filterMap MethodScope.slotOf?
    let selection :=
      MethodScope.selectConstructor ⟨catalog, adapters, d.kind, d.signature⟩ types.row slots
    (¬ MethodScope.Counted slots → selection = .error (.slotNumbers slots.length)) ∧
    (MethodScope.Counted slots →
      (∀ index parameters, selection = .ok (index, parameters) ↔
        MethodScope.Selects slots c index ∧
          (c.constructors[index]?).map (·.parameters) = some parameters) ∧
      ((∀ k ∈ c.constructors, ¬ MethodScope.Accepts MethodScope.TakesWidened slots k) → ∃ names,
        selection = .error (.noConstructor c.name names))) ∧
    ∀ (interface : String) (m : CompiledMethod), d.compile catalog adapters interface = .ok m →
      MethodScope.Counted slots ∧ ∃ index, MethodScope.Selects slots c index ∧
        m.rowPlan = .bean c (.constructor index slots.length) := by
  intro slots selection
  obtain ⟨gaps, counts⟩ := MethodScope.selectConstructor_spec
    (s := ⟨catalog, adapters, d.kind, d.signature⟩) bean builtin
  have preferred (counted : MethodScope.Counted slots) (index : Nat) (parameters : List ValueType) :
      selection = .ok (index, parameters) ↔ MethodScope.Selects slots c index ∧
        (c.constructors[index]?).map (·.parameters) = some parameters := by
    rw [← indifferent.selects_iff]
    exact (counts counted).1 index parameters
  refine ⟨gaps, fun counted => ⟨preferred counted, (counts counted).2⟩, fun interface m h => ?_⟩
  obtain ⟨types', c', index, parameters, typed', bean', selected, plan, -⟩ :=
    MethodScope.compile_constructor (s := ⟨catalog, adapters, d.kind, d.signature⟩) read fed
      (mapError_eq_ok.1 h)
  cases typed.symm.trans typed'
  cases bean.symm.trans bean'
  have counted : MethodScope.Counted slots :=
    (MethodScope.selectConstructor_accepts bean builtin selected).1
  exact ⟨counted, index, ((preferred counted index parameters).1 selected).1, plan⟩

/-- Entries made of a number and a text, the text in the first column. -/
def Sample.markedEntries : MethodDeclaration :=
  { name := "marked_entries"
    kind := .select
    template := "SELECT \x7bstring %%2\x7d, \x7blong %%1\x7d FROM entries"
    signature := { arguments := [], returns := .many ⟨.bean "Multi", false⟩ } }

/-- The constructor that takes the tags with their nullabilities is selected, although one behind it
takes them as they are too. -/
theorem Sample.markedEntries_selected :
    ∃ m, Sample.markedEntries.compile Sample.catalog ⟨[]⟩ "Entries" = .ok m ∧
      m.rowPlan = .bean Sample.multi (.constructor 1 2) := by
  have accepted : (Sample.markedEntries.compile Sample.catalog ⟨[]⟩ "Entries").toOption.any
      (fun _ => true) = true := by decide +kernel
  have shape : (Template.read .plain Sample.markedEntries.template).toOption.any (fun t =>
      decide (t.results.filterMap MethodScope.slotOf? =
        [(2, some ⟨"string", false⟩), (1, some ⟨"long", false⟩)])) = true := by decide +kernel
  obtain ⟨m, h, -⟩ := exists_of_any accepted
  obtain ⟨t, read, slots⟩ := exists_of_any shape
  have slots := of_decide_eq_true slots
  have builtin : ∀ slot ∈ t.results.filterMap MethodScope.slotOf?,
      (Tag.builtin? slot.2).isSome = true := by
    rw [slots]
    decide +kernel
  have indifferent :
      MethodScope.Indifferent (t.results.filterMap MethodScope.slotOf?) Sample.multi := by
    rw [slots]
    decide +kernel
  have typed : MethodScope.resultTypes ⟨Sample.catalog, ⟨[]⟩, .select,
      Sample.markedEntries.signature⟩ = .ok ⟨⟨.bean "Multi", false⟩, none⟩ := rfl
  have fed : t.results.filterMap MethodScope.slotOf? ≠ [] := by
    rw [slots]
    exact List.cons_ne_nil _ _
  obtain ⟨-, -, chosen⟩ := MethodDeclaration.constructor_selected (d := Sample.markedEntries) read
    fed builtin typed rfl indifferent
  obtain ⟨-, index, selects, plan⟩ := chosen "Entries" m h
  rw [slots] at selects plan
  have searched := findIdx?_or_eq_some_iff.2 selects
  have found : (Sample.multi.constructors.findIdx? (MethodScope.Accepts MethodScope.TakesAsIs
        [(2, some ⟨"string", false⟩), (1, some ⟨"long", false⟩)] ·)).or
      (Sample.multi.constructors.findIdx? (MethodScope.Accepts MethodScope.TakesWidened
        [(2, some ⟨"string", false⟩), (1, some ⟨"long", false⟩)] ·)) = some 1 := by
    decide +kernel
  cases found.symm.trans searched
  exact ⟨m, h, plan⟩

/-- Gauges are made of a wide number, or of a narrower one that may be missing. -/
def Sample.gauge : BeanClass :=
  let shape : BeanShape :=
    ⟨"Gauge", [{ name := "level", type := Sample.option (Sample.scalar .long) }]⟩
  let of (name : String) (type : ValueType) : BeanClass.Constructor :=
    { shape.fieldConstructor [.absent] with name, parameters := [type] }
  { shape
    blank := [.absent]
    hasDefault := true
    constructors := [of "of_long" ⟨.scalar .long, false⟩, of "of_optional" ⟨.scalar .int, true⟩] }

/-- Gauges are read from a narrow number. -/
def Sample.gauges : MethodDeclaration :=
  { name := "gauges"
    kind := .select
    template := "SELECT \x7bint %%1\x7d FROM gauges"
    signature := { arguments := [], returns := .many ⟨.bean "Gauge", false⟩ } }

/-- The constructor that takes the narrow number as it is is passed over for the one that widens
it. -/
theorem Sample.gauges_passed_over :
    let slots : List MethodScope.ConstructorSlot := [(1, some ⟨"int", false⟩)]
    ∃ m, Sample.gauges.compile ⟨[Sample.gauge]⟩ ⟨[]⟩ "Gauges" = .ok m ∧
      m.rowPlan = .bean Sample.gauge (.constructor 0 1) ∧
      MethodScope.Selects slots Sample.gauge 1 ∧ ¬ MethodScope.Selects slots Sample.gauge 0 := by
  intro slots
  have accepted : (Sample.gauges.compile ⟨[Sample.gauge]⟩ ⟨[]⟩ "Gauges").toOption.any
      (fun _ => true) = true := by decide +kernel
  have shape : (Template.read .plain Sample.gauges.template).toOption.any (fun t =>
      decide (t.results.filterMap MethodScope.slotOf? = slots)) = true := by decide +kernel
  have code : (MethodScope.selectConstructor ⟨⟨[Sample.gauge]⟩, ⟨[]⟩, .select,
      Sample.gauges.signature⟩ ⟨.bean "Gauge", false⟩ slots).toOption.any (fun selected =>
        decide (selected.1 = 0)) = true := by decide +kernel
  have found : (Sample.gauge.constructors.findIdx? (MethodScope.Accepts MethodScope.TakesAsIs
      slots ·)).or (Sample.gauge.constructors.findIdx? (MethodScope.Accepts
        MethodScope.TakesWidened slots ·)) = some 1 := by decide +kernel
  obtain ⟨m, h, -⟩ := exists_of_any accepted
  obtain ⟨t, read, slots_eq⟩ := exists_of_any shape
  obtain ⟨types, c, index, parameters, typed, bean, selected, plan, -⟩ :=
    MethodScope.compile_constructor (s := ⟨⟨[Sample.gauge]⟩, ⟨[]⟩, .select,
      Sample.gauges.signature⟩) read
      (by rw [of_decide_eq_true slots_eq]; exact List.cons_ne_nil _ _) (mapError_eq_ok.1 h)
  cases typed
  cases bean
  rw [of_decide_eq_true slots_eq] at selected plan
  rw [selected] at code
  cases (of_decide_eq_true code : index = 0)
  refine ⟨m, h, plan, findIdx?_or_eq_some_iff.1 found, fun first => ?_⟩
  cases found.symm.trans (findIdx?_or_eq_some_iff.2 first)

end QueryMethods
