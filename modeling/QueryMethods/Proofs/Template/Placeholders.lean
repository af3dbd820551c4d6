/-
Bodies of placeholders: the parts of a body that is read are well formed, and a parameter written
out from well-formed parts is read back.
-/
import QueryMethods.Proofs.Result
import QueryMethods.Proofs.Text.Blank
import QueryMethods.Template.Placeholder
import Mathlib.Data.List.TakeWhile

namespace QueryMethods

open Text

/-! ## Longest prefixes -/

section

variable {p : Char → Bool} {word rest : List Char}

theorem takeWhile_word (inside : ∀ c ∈ word, p c = true)
    (stop : ∀ c, rest.head? = some c → p c = false) : (word ++ rest).takeWhile p = word := by
  rw [List.takeWhile_append_of_pos inside]
  cases rest with
  | nil => simp
  | cons c _ => simp [stop c rfl]

theorem takeWhile_stop (stop : ∀ c, rest.head? = some c → p c = false) : rest.takeWhile p = [] :=
  takeWhile_word (List.forall_mem_nil _) stop

theorem dropWhile_word (inside : ∀ c ∈ word, p c = true)
    (stop : ∀ c, rest.head? = some c → p c = false) : (word ++ rest).dropWhile p = rest := by
  rw [List.dropWhile_append_of_pos inside]
  cases rest with
  | nil => rfl
  | cons c _ => simp [stop c rfl]

end

namespace Placeholder

/-! ## Parts -/

/-- The name of a field: name characters, at least one. -/
def IsField (field : String) : Prop :=
  field.toList ≠ [] ∧ ∀ c ∈ field.toList, isNameChar c = true

/-- The name of an argument: as of a field, but not starting like a position. -/
def IsName (name : String) : Prop :=
  IsField name ∧ name.toList.head?.any Char.isDigit = false

instance (field : String) : Decidable (IsField field) :=
  @instDecidableAnd _ _ _ (List.decidableBAll _ _)

instance (name : String) : Decidable (IsName name) :=
  inferInstanceAs (Decidable (_ ∧ _))

/-- The name of a type tag. -/
def IsTag (t : Tag) : Prop := t.name.toList ≠ [] ∧ ∀ c ∈ t.name.toList, isTagChar c = true

theorem isTagChar_of_isNameChar {c : Char} (h : isNameChar c = true) : isTagChar c = true := by
  simp [isTagChar, h]

/-- What a tag is written with means nothing else in a body. -/
theorem isTagChar_ne {c : Char} (h : isTagChar c = true) :
    c ≠ '#' ∧ c ≠ '%' ∧ c ≠ '?' ∧ c ≠ '}' := by
  refine ⟨?_, ?_, ?_, ?_⟩ <;> rintro rfl <;> exact absurd h (by decide)

theorem isTagChar_not_blank {c : Char} (h : isTagChar c = true) : isBlank c = false := by
  have bounds : ['A', 'Z', 'a', 'z', '0', '9'].map (fun d => d.val.toNat) = [65, 90, 97, 122, 48, 57] := rfl
  simp only [List.map_cons, List.map_nil, List.cons.injEq, and_true] at bounds
  have val : c.val.toNat = c.toNat := rfl
  have range : 33 ≤ c.toNat ∧ c.toNat ≤ 126 := by
    unfold isTagChar isNameChar at h
    delta Char.isAlphanum Char.isAlpha Char.isUpper Char.isLower Char.isDigit at h
    simp only [Bool.or_eq_true, Bool.and_eq_true, decide_eq_true_eq, ge_iff_le,
      UInt32.le_iff_toNat_le] at h
    rcases h with ((((letter | digit) | rfl) | rfl) | rfl) | rfl
    · omega
    · omega
    all_goals decide
  by_contra blank
  simp only [isBlank, Bool.not_eq_false, Bool.or_eq_true, Bool.and_eq_true, decide_eq_true_eq,
    beq_iff_eq] at blank
  omega

/-! ## What is read is well formed -/

theorem path_isField {cs : List Char} {names : List String} {rest : List Char}
    (h : path cs = .ok (names, rest)) : ∀ field ∈ names, IsField field := by
  fun_induction path cs generalizing names rest with
  | case1 => cases h
  | case2 after some ih =>
    obtain ⟨⟨others, last⟩, ho, h⟩ := bind_eq_ok.1 h
    cases h
    refine List.forall_mem_cons.2 ⟨⟨?_, fun c hc => ?_⟩, ih ho⟩
    · rwa [String.toList_ofList]
    · rw [String.toList_ofList] at hc
      exact List.mem_takeWhile_imp hc
  | case3 => cases h; exact nofun

theorem tagOfWord_isTag {word : List Char} {t : Tag} (h : tagOfWord word = .ok t) : IsTag t := by
  have checked {name : List Char} {nullable : Bool}
      (h : (if name ≠ [] ∧ name.all isTagChar then .ok ⟨String.ofList name, nullable⟩
        else .error .invalidTag : Except PlaceholderFault Tag) = .ok t) : IsTag t := by
    split at h
    · next valid =>
      cases h
      refine ⟨?_, fun c hc => ?_⟩
      · rw [String.toList_ofList]
        exact valid.1
      · rw [String.toList_ofList] at hc
        exact List.all_eq_true.1 valid.2 c hc
    · cases h
  exact checked h

theorem tag_isTag {cs target : List Char} {t : Tag} (h : tag cs = .ok (some t, target)) :
    IsTag t := by
  unfold tag at h
  split at h
  · cases h
  · split at h
    · cases h
    · obtain ⟨t', ht, h⟩ := bind_eq_ok.1 h
      split at h
      · cases h
        exact tagOfWord_isTag ht
      · cases h

theorem resultTarget_ne_parameter {tag t : Option Tag} {cs : List Char}
    {argument : ArgumentSelector} {path : List String} {separator : Option String} :
    resultTarget tag cs ≠ .ok (.parameter argument path t separator) := by
  intro h
  unfold resultTarget at h
  split at h
  · obtain ⟨⟨names, rest⟩, -, h⟩ := bind_eq_ok.1 h
    dsimp only at h
    split at h
    · cases h
    · split at h <;> cases h
    · cases h
  · split at h
    · cases h
    · split at h
      · cases h
      · split at h <;> cases h

/-- The tag and the path of a parameter are well formed. -/
theorem ofBody_parts {body : List Char} {argument : ArgumentSelector} {path : List String}
    {tag : Option Tag} {separator : Option String}
    (h : ofBody body = .ok (.parameter argument path tag separator)) :
    (∀ t, tag = some t → IsTag t) ∧ ∀ field ∈ path, IsField field := by
  unfold ofBody at h
  split at h
  · cases h
  · obtain ⟨⟨sep, cs⟩, -, h⟩ := bind_eq_ok.1 h
    obtain ⟨⟨t, target⟩, ht, h⟩ := bind_eq_ok.1 h
    dsimp only at h
    split at h
    · split at h
      · cases h
      · exact absurd h resultTarget_ne_parameter
    · obtain ⟨⟨argument', rest⟩, -, h⟩ := bind_eq_ok.1 h
      obtain ⟨⟨names, rest'⟩, hp, h⟩ := bind_eq_ok.1 h
      dsimp only at h
      split at h
      · cases h
        exact ⟨fun t' e => tag_isTag (e ▸ ht), path_isField hp⟩
      · cases h
      · cases h

/-! ## Writing a parameter -/

/-- The word of a tag: its name, and a question mark if it admits null. -/
def tagWord (t : Tag) : List Char := t.name.toList ++ if t.nullable then ['?'] else []

/-- A tag in front of a target. -/
def tagText : Option Tag → List Char
  | none => []
  | some t => t.name.toList ++ (if t.nullable then ['?'] else []) ++ [' ']

/-- A field path behind a target. -/
def pathText (path : List String) : List Char := path.flatMap fun field => '.' :: field.toList

/-- The body of a placeholder for a named parameter. -/
def parameterText (tag : Option Tag) (name : String) (path : List String) : List Char :=
  tagText tag ++ '%' :: (name.toList ++ pathText path)

theorem head_pathText (path : List String) {c : Char} (h : (pathText path).head? = some c) :
    c = '.' := by
  cases path with
  | nil => cases h
  | cons field rest => exact (Option.some.inj h).symm

theorem word_closes {word : List Char} (h : ∀ c ∈ word, isNameChar c = true) : '}' ∉ word :=
  fun hc => (isTagChar_ne (isTagChar_of_isNameChar (h _ hc))).2.2.2 rfl

theorem pathText_closes {path : List String} (h : ∀ field ∈ path, IsField field) :
    '}' ∉ pathText path := by
  intro hc
  obtain ⟨field, hf, hc⟩ := List.mem_flatMap.1 hc
  rcases List.mem_cons.1 hc with hc | hc
  · exact absurd hc (by decide)
  · exact word_closes (h field hf).2 hc

theorem path_pathText : ∀ {fields : List String}, (∀ field ∈ fields, IsField field) →
    path (pathText fields) = .ok (fields, [])
  | [], _ => by rw [pathText, List.flatMap_nil, path.eq_def]
  | field :: rest, h => by
    obtain ⟨⟨nonempty, inside⟩, others⟩ := List.forall_mem_cons.1 h
    have stop : ∀ c, (pathText rest).head? = some c → isNameChar c = false := by
      intro c hc
      rw [head_pathText rest hc]
      rfl
    have text : pathText (field :: rest) = '.' :: (field.toList ++ pathText rest) := rfl
    rw [text, path, takeWhile_word inside stop, dropWhile_word inside stop, path_pathText others]
    cases hf : field.toList with
    | nil => exact absurd hf nonempty
    | cons c cs =>
      dsimp only
      rw [← hf]
      show Except.ok (String.ofList field.toList :: rest, _) = _
      rw [String.ofList_toList]

theorem argument_name {name : String} {rest : List Char} (h : IsName name)
    (stop : ∀ c, rest.head? = some c → isNameChar c = false) :
    argument (name.toList ++ rest) = .ok (.name name, rest) := by
  obtain ⟨⟨nonempty, inside⟩, start⟩ := h
  have noDigits : (name.toList ++ rest).takeWhile Char.isDigit = [] := by
    cases hn : name.toList with
    | nil => exact absurd hn nonempty
    | cons c cs =>
      rw [hn] at start
      have digit : c.isDigit = false := start
      rw [List.cons_append, List.takeWhile_cons, digit]
      rfl
  unfold argument
  rw [noDigits]
  dsimp only
  rw [takeWhile_word inside stop, dropWhile_word inside stop]
  cases hn : name.toList with
  | nil => exact absurd hn nonempty
  | cons c cs =>
    dsimp only
    rw [← hn, String.ofList_toList]

theorem tagOfWord_tag {t : Tag} (h : IsTag t) :
    tagOfWord (tagWord t) = .ok t := by
  obtain ⟨nonempty, inside⟩ := h
  have valid : t.name.toList ≠ [] ∧ t.name.toList.all isTagChar :=
    ⟨nonempty, List.all_eq_true.2 inside⟩
  unfold tagOfWord tagWord
  cases hn : t.nullable with
  | true =>
    simp only [if_true, List.getLast?_concat, decide_true, List.dropLast_concat]
    rw [if_pos valid, String.ofList_toList, ← hn]
  | false =>
    have last : t.name.toList.getLast? ≠ some '?' := fun e =>
      (isTagChar_ne (inside _ (List.mem_of_getLast? e))).2.2.1 rfl
    simp only [Bool.false_eq_true, if_false, List.append_nil, last, decide_false]
    rw [if_pos valid, String.ofList_toList, ← hn]

/-- A tag's word is read back in front of a target, whatever white space is between the two. -/
theorem tag_tagWord {t : Tag} {blanks : List Char} (h : IsTag t) (apart : blanks ≠ [])
    (blank : Blanks blanks) (target : List Char) :
    Placeholder.tag (tagWord t ++ (blanks ++ '%' :: target)) = .ok (some t, target) := by
  -- the word of the tag reaches up to the white space in front of the sign
  have solid : ∀ c ∈ tagWord t, (!isBlank c) = true := by
    intro c hc
    rcases List.mem_append.1 hc with hc | hc
    · rw [isTagChar_not_blank (h.2 c hc)]
      rfl
    · split at hc
      · rw [List.mem_singleton.1 hc]
        decide
      · cases hc
  have stop : ∀ c, (blanks ++ '%' :: target).head? = some c → (!isBlank c) = false := by
    intro c hc
    cases blanks with
    | nil => exact absurd rfl apart
    | cons b rest =>
      cases Option.some.inj hc
      rw [blank c List.mem_cons_self]
      rfl
  have take := takeWhile_word solid stop
  have drop := dropWhile_word solid stop
  have behind : trimStart (blanks ++ '%' :: target) = '%' :: target :=
    dropWhile_blanks blank (by decide)
  unfold Placeholder.tag
  split
  · next target' heq =>
    cases hn : t.name.toList with
    | nil => exact absurd hn h.1
    | cons c cs =>
      rw [tagWord, hn] at heq
      have hc : c = '%' := (List.cons.inj heq).1
      exact absurd hc (isTagChar_ne (h.2 c (hn ▸ List.mem_cons_self))).2.1
  · rw [drop, take, tagOfWord_tag h]
    split
    · next empty => simp at empty
    · dsimp only [bind, Except.bind]
      rw [behind]
      rfl

theorem tag_tagText {tag : Option Tag} (h : ∀ t, tag = some t → IsTag t) (target : List Char) :
    Placeholder.tag (tagText tag ++ '%' :: target) = .ok (tag, target) := by
  cases tag with
  | none => rfl
  | some t =>
    have text : tagText (some t) ++ '%' :: target = tagWord t ++ ([' '] ++ '%' :: target) :=
      List.append_assoc _ _ _
    rw [text]
    exact tag_tagWord (h t rfl) (List.cons_ne_nil _ _) (by decide) target

/-- A target ends with a name character. -/
theorem target_end {name : String} {path : List String} (hn : IsField name)
    (hp : ∀ field ∈ path, IsField field) :
    ∃ front c, name.toList ++ pathText path = front ++ [c] ∧ isNameChar c = true := by
  have last {field : String} (h : IsField field) (before : List Char) :
      ∃ front c, before ++ field.toList = front ++ [c] ∧ isNameChar c = true := by
    obtain ⟨front, c, hc⟩ := (List.eq_nil_or_concat field.toList).resolve_left h.1
    refine ⟨before ++ front, c, by rw [hc]; simp, h.2 c ?_⟩
    rw [hc]
    simp
  rcases List.eq_nil_or_concat path with rfl | ⟨fields, field, rfl⟩
  · simpa [pathText] using last hn []
  · have end_ := last (hp field (by simp)) (name.toList ++ pathText fields ++ ['.'])
    simpa [pathText] using end_

theorem trim_solid {c d : Char} {front rest text : List Char} (first : text = c :: rest)
    (last : text = front ++ [d]) (hc : isBlank c = false) (hd : isBlank d = false) :
    trim text = text := by
  have start : trimStart text = text := by
    rw [first, trimStart, List.dropWhile_cons, hc]
    rfl
  unfold trim trimEnd
  rw [start, last, List.reverse_append]
  show (([d] ++ front.reverse).dropWhile isBlank).reverse = _
  rw [List.singleton_append, List.dropWhile_cons, hd]
  simp

section

variable {tag : Option Tag} {name : String} {path : List String}
  (ht : ∀ t, tag = some t → IsTag t)

include ht

theorem parameterText_start (name : String) (path : List String) :
    ∃ c rest, parameterText tag name path = c :: rest ∧ isBlank c = false ∧ c ≠ '#' := by
  cases tag with
  | none => exact ⟨'%', _, rfl, by decide, by decide⟩
  | some t =>
    obtain ⟨nonempty, inside⟩ := ht t rfl
    cases hn : t.name.toList with
    | nil => exact absurd hn nonempty
    | cons c cs =>
      have hc : isTagChar c = true := inside c (hn ▸ List.mem_cons_self)
      refine ⟨c, cs ++ (if t.nullable then ['?'] else []) ++ [' '] ++
        '%' :: (name.toList ++ pathText path), ?_, isTagChar_not_blank hc, (isTagChar_ne hc).1⟩
      simp [parameterText, tagText, hn]

/-- A parameter that is written out is read back. -/
theorem ofBody_parameterText (hn : IsName name) (hp : ∀ field ∈ path, IsField field) :
    ofBody (parameterText tag name path) = .ok (.parameter (.name name) path tag none) := by
  obtain ⟨c, rest, start, solid, sign⟩ := parameterText_start ht name path
  obtain ⟨front, d, last, hd⟩ := target_end hn.1 hp
  have whole : parameterText tag name path = (tagText tag ++ '%' :: front) ++ [d] := by
    unfold parameterText
    rw [last]
    simp
  have trimmed := trim_solid start whole solid (isTagChar_not_blank (isTagChar_of_isNameChar hd))
  have separated : separator (parameterText tag name path) = .ok (none, parameterText tag name path) := by
    rw [start]
    unfold separator
    split
    · next heq => exact absurd (List.cons.inj heq).1 sign
    · rfl
  have stop : ∀ c, (pathText path).head? = some c → isNameChar c = false := by
    intro c hc
    rw [head_pathText path hc]
    rfl
  have target : parameterTarget none tag (name.toList ++ pathText path) =
      .ok (.parameter (.name name) path tag none) := by
    unfold parameterTarget
    rw [argument_name hn stop]
    show (Placeholder.path (pathText path) >>= _) = _
    rw [path_pathText hp]
    rfl
  unfold ofBody
  rw [trimmed]
  split
  · next empty => rw [start] at empty; cases empty
  · rw [separated]
    show (Placeholder.tag (parameterText tag name path) >>= _) = _
    unfold parameterText
    rw [tag_tagText ht]
    dsimp only [bind, Except.bind]
    cases hs : name.toList with
    | nil => exact absurd hs hn.1.1
    | cons e es =>
      have sign : e ≠ '%' := by
        have he : isNameChar e = true := hn.1.2 e (hs ▸ List.mem_cons_self)
        exact (isTagChar_ne (isTagChar_of_isNameChar he)).2.1
      rw [← hs]
      split
      · next heq => rw [hs] at heq; exact absurd (List.cons.inj heq).1 sign
      · exact target

theorem parameterText_closes (hn : IsField name) (hp : ∀ field ∈ path, IsField field) :
    '}' ∉ parameterText tag name path := by
  have tagged : '}' ∉ tagText tag := by
    cases tag with
    | none => exact List.not_mem_nil
    | some t =>
      intro hc
      rcases List.mem_append.1 hc with hc | hc
      · rcases List.mem_append.1 hc with hc | hc
        · exact (isTagChar_ne ((ht t rfl).2 _ hc)).2.2.2 rfl
        · split at hc <;> simp at hc
      · simp at hc
  intro hc
  rcases List.mem_append.1 hc with hc | hc
  · exact tagged hc
  · rcases List.mem_cons.1 hc with hc | hc
    · exact absurd hc (by decide)
    · exact (List.mem_append.1 hc).elim (word_closes hn.2) (pathText_closes hp)

end

end Placeholder

end QueryMethods
