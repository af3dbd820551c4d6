/-
The grammar of what stands between the braces of a placeholder. Reading a body accepts exactly the
bodies that the grammar spells, and gives what they mean.
-/
import QueryMethods.Proofs.Template.Placeholders
import QueryMethods.Proofs.Template.Segments
import QueryMethods.Proofs.Text.Blank

namespace QueryMethods

open Text

namespace Placeholder

/-! ## The grammar -/

/-- A decimal number that counts from 1, up to the largest that 64 bits hold. -/
structure SpellsOrdinal (digits : List Char) (n : Nat) : Prop where
  nonempty : digits ≠ []
  decimal : ∀ c ∈ digits, c.isDigit = true
  value : digitsValue digits = n
  positive : 1 ≤ n
  bounded : n < UInt64.size

/-- A separator stands between number signs, with white space behind it. -/
inductive SpellsSeparator : List Char → Option String → Prop
  | absent : SpellsSeparator [] none
  | between {inside blanks : List Char} (sign : '#' ∉ inside) (behind : Blanks blanks) :
      SpellsSeparator ('#' :: (inside ++ '#' :: blanks)) (some (String.ofList inside))

/-- A tag is a word with white space behind it. -/
inductive SpellsTag : List Char → Option Tag → Prop
  | absent : SpellsTag [] none
  | word {t : Tag} {blanks : List Char} (name : IsTag t) (apart : blanks ≠ [])
      (behind : Blanks blanks) : SpellsTag (tagWord t ++ blanks) (some t)

/-- An argument is named by its position, counted from 1, or by its name. -/
inductive SpellsArgument : List Char → ArgumentSelector → Prop
  | position {digits : List Char} {n : Nat} (ordinal : SpellsOrdinal digits n) :
      SpellsArgument digits (.position (n - 1))
  | name {name : String} (valid : IsName name) : SpellsArgument name.toList (.name name)

/-- The sign of a target and what the target names. Separators go with parameters only, and a
constructor slot goes with a tag only. -/
inductive SpellsTarget : List Char → Option String → Option Tag → Placeholder → Prop
  | parameter {word : List Char} {argument : ArgumentSelector} {path : List String}
      {separator : Option String} {tag : Option Tag} (names : SpellsArgument word argument)
      (fields : ∀ field ∈ path, IsField field) :
      SpellsTarget ('%' :: (word ++ pathText path)) separator tag
        (.parameter argument path tag separator)
  | value {path : List String} {tag : Option Tag} (fields : ∀ field ∈ path, IsField field) :
      SpellsTarget ('%' :: '%' :: pathText path) none tag (.result (.value path) tag)
  | slot {digits : List Char} {n : Nat} {t : Tag} (ordinal : SpellsOrdinal digits n) :
      SpellsTarget ('%' :: '%' :: digits) none (some t) (.result (.slot n) (some t))
  | key {blanks : List Char} {tag : Option Tag} (inside : Blanks blanks) :
      SpellsTarget ('%' :: '%' :: (blanks ++ [',', '%', '*'])) none tag (.result .key tag)

/-- A body: a separator, a tag and a target, with white space around. -/
inductive Spells : List Char → Placeholder → Prop
  | body {lead separator tag target trail : List Char} {s : Option String} {t : Option Tag}
      {meaning : Placeholder} (blankLead : Blanks lead) (separates : SpellsSeparator separator s)
      (tags : SpellsTag tag t) (targets : SpellsTarget target s t meaning)
      (blankTrail : Blanks trail) :
      Spells (lead ++ (separator ++ (tag ++ target) ++ trail)) meaning

/-! ## What is read is spelled -/

theorem ordinal?_spells {digits : List Char} {n : Nat} (nonempty : digits ≠ [])
    (decimal : ∀ c ∈ digits, c.isDigit = true) :
    ordinal? digits = some n ↔ SpellsOrdinal digits n := by
  unfold ordinal?
  dsimp only
  constructor
  · intro h
    split at h
    · next range =>
      cases h
      exact ⟨nonempty, decimal, rfl, range.1, range.2⟩
    · cases h
  · rintro ⟨-, -, rfl, positive, bounded⟩
    rw [if_pos ⟨positive, bounded⟩]

theorem separator_spells {cs rest : List Char} {s : Option String}
    (h : separator cs = .ok (s, rest)) : ∃ text, cs = text ++ rest ∧ SpellsSeparator text s := by
  unfold separator at h
  split at h
  · next after =>
    split at h
    · next inside behind split =>
      cases h
      obtain ⟨blanks, whole, blank⟩ := trimStart_append behind
      refine ⟨_, ?_, .between (splitAt?_not_mem split) blank⟩
      have parts := splitAt?_eq split
      rw [parts, List.cons_append, List.append_assoc, List.cons_append, ← whole]
    · cases h
  · cases h
    exact ⟨[], rfl, .absent⟩

theorem tagOfWord_spells {word : List Char} {t : Tag} (h : tagOfWord word = .ok t) :
    word = tagWord t := by
  have checked {name : List Char} {nullable : Bool}
      (h : (if name ≠ [] ∧ name.all isTagChar then .ok ⟨String.ofList name, nullable⟩
        else .error .invalidTag : Except PlaceholderFault Tag) = .ok t) :
      tagWord t = name ++ if nullable then ['?'] else [] := by
    split at h
    · cases h
      rw [tagWord, String.toList_ofList]
    · cases h
  rw [checked h]
  by_cases mark : word.getLast? = some '?'
  · simp only [mark, decide_true, if_true]
    exact (List.dropLast_append_getLast? _ mark).symm
  · simp only [mark, decide_false, Bool.false_eq_true, if_false, List.append_nil]

theorem tag_spells {cs target : List Char} {t : Option Tag}
    (h : Placeholder.tag cs = .ok (t, target)) :
    ∃ text, cs = text ++ '%' :: target ∧ SpellsTag text t := by
  unfold Placeholder.tag at h
  split at h
  · cases h
    exact ⟨[], rfl, .absent⟩
  · split at h
    · cases h
    · obtain ⟨t', word, h⟩ := bind_eq_ok.1 h
      split at h
      · next heq =>
        cases h
        have whole := List.takeWhile_append_dropWhile (p := fun c => !isBlank c) (l := cs)
        obtain ⟨blanks, behind, blank⟩ := trimStart_append (cs.dropWhile fun c => !isBlank c)
        rw [heq] at behind
        refine ⟨tagWord t' ++ blanks, ?_, .word (tagOfWord_isTag word) ?_ blank⟩
        · rw [← tagOfWord_spells word, List.append_assoc, ← behind, whole]
        · -- the word ends at white space, and the target's sign is none
          rintro rfl
          have first := List.head?_dropWhile_not (fun c => !isBlank c) cs
          rw [behind] at first
          have sign : isBlank '%' = false := by decide
          simp [sign] at first
      · cases h

theorem path_spells {cs : List Char} {names : List String} {rest : List Char}
    (h : path cs = .ok (names, rest)) : cs = pathText names ++ rest := by
  fun_induction path cs generalizing names rest with
  | case1 => cases h
  | case2 after some ih =>
    obtain ⟨⟨others, last⟩, ho, h⟩ := bind_eq_ok.1 h
    cases h
    have whole := List.takeWhile_append_dropWhile (p := isNameChar) (l := after)
    rw [ih ho] at whole
    show '.' :: after =
      '.' :: (String.ofList (after.takeWhile isNameChar)).toList ++ pathText others ++ rest
    rw [String.toList_ofList, List.append_assoc, List.cons_append, whole]
  | case3 => cases h; rfl

theorem argument_spells {cs rest : List Char} {a : ArgumentSelector}
    (h : argument cs = .ok (a, rest)) : ∃ word, cs = word ++ rest ∧ SpellsArgument word a := by
  unfold argument at h
  split at h
  · next noDigits =>
    split at h
    · cases h
    · next name =>
      cases h
      refine ⟨cs.takeWhile isNameChar, List.takeWhile_append_dropWhile.symm, ?_⟩
      have valid : IsName (String.ofList (cs.takeWhile isNameChar)) := by
        unfold IsName IsField
        rw [String.toList_ofList]
        refine ⟨⟨name, fun c hc => List.mem_takeWhile_imp hc⟩, ?_⟩
        -- a word that starts with a digit was read as a position
        cases cs with
        | nil => rfl
        | cons c rest =>
          rw [List.takeWhile_cons] at noDigits ⊢
          split at noDigits
          · cases noDigits
          · next digit =>
            split
            · simpa using digit
            · rfl
      have spelled := SpellsArgument.name valid
      rwa [String.toList_ofList] at spelled
  · next digits =>
    split at h
    · next n ordinal =>
      cases h
      refine ⟨cs.takeWhile Char.isDigit, List.takeWhile_append_dropWhile.symm, .position ?_⟩
      exact (ordinal?_spells digits fun c hc => List.mem_takeWhile_imp hc).1 ordinal
    · cases h

theorem resultTarget_spells {tag : Option Tag} {cs : List Char} {meaning : Placeholder}
    (h : resultTarget tag cs = .ok meaning) :
    ∃ text trail, cs = text ++ trail ∧ Blanks trail ∧
      SpellsTarget ('%' :: '%' :: text) none tag meaning := by
  unfold resultTarget at h
  split at h
  · obtain ⟨⟨names, rest⟩, hp, h⟩ := bind_eq_ok.1 h
    have fields := path_isField hp
    have whole := path_spells hp
    dsimp only at h
    split at h
    · next empty =>
      cases h
      exact ⟨pathText names, rest, whole, trim_blanks empty, .value fields⟩
    · next sign =>
      split at h
      · next alone =>
        cases h
        obtain ⟨lead, trail, parts, blankLead, blankTrail⟩ := trim_append rest
        rw [sign] at parts
        rw [alone, parts] at whole
        exact ⟨lead ++ [',', '%', '*'], trail, by simpa [pathText] using whole, blankTrail,
          .key blankLead⟩
      · cases h
    · cases h
  · next digits =>
    split at h
    · cases h
    · next tagged =>
      split at h
      · cases h
      · next alone =>
        split at h
        · next n ordinal =>
          cases h
          obtain ⟨t, rfl⟩ := Option.ne_none_iff_exists'.1 tagged
          obtain ⟨trail, whole, blankTrail⟩ := trimEnd_append cs
          rw [not_not.1 alone] at whole
          have spelled := (ordinal?_spells digits fun c hc => List.mem_takeWhile_imp hc).1 ordinal
          exact ⟨_, trail, whole, blankTrail, .slot spelled⟩
        · cases h

theorem parameterTarget_spells {separator : Option String} {tag : Option Tag} {cs : List Char}
    {meaning : Placeholder} (h : parameterTarget separator tag cs = .ok meaning) :
    ∃ text trail, cs = text ++ trail ∧ Blanks trail ∧
      SpellsTarget ('%' :: text) separator tag meaning := by
  unfold parameterTarget at h
  obtain ⟨⟨a, behind⟩, ha, h⟩ := bind_eq_ok.1 h
  obtain ⟨⟨names, rest⟩, hp, h⟩ := bind_eq_ok.1 h
  obtain ⟨word, parts, spelled⟩ := argument_spells ha
  have whole := path_spells hp
  dsimp only at h
  split at h
  · next empty =>
    cases h
    refine ⟨word ++ pathText names, rest, ?_, trim_blanks empty,
      .parameter spelled (path_isField hp)⟩
    rw [parts, whole, List.append_assoc]
  · cases h
  · cases h

/-- A body that is read is spelled by the grammar. -/
theorem ofBody_spells {body : List Char} {meaning : Placeholder} (h : ofBody body = .ok meaning) :
    Spells body meaning := by
  obtain ⟨lead, last, whole, blankLead, blankLast⟩ := trim_append body
  unfold ofBody at h
  split at h
  · cases h
  · obtain ⟨⟨s, behind⟩, hs, h⟩ := bind_eq_ok.1 h
    obtain ⟨⟨t, target⟩, ht, h⟩ := bind_eq_ok.1 h
    obtain ⟨separator, core, separates⟩ := separator_spells hs
    obtain ⟨tag, rest, tags⟩ := tag_spells ht
    -- the target may leave white space that trimming the body has already taken off
    have spelled {text trail : List Char} (cut : '%' :: target = text ++ trail)
        (blankTrail : Blanks trail) (targets : SpellsTarget text s t meaning) :
        Spells body meaning := by
      have parts : body = lead ++ (separator ++ (tag ++ text) ++ (trail ++ last)) := by
        rw [whole, core, rest, cut]
        simp only [List.append_assoc]
      rw [parts]
      exact .body blankLead separates tags targets (blankTrail.append blankLast)
    dsimp only at h
    split at h
    · next second =>
      split at h
      · cases h
      · next single =>
        obtain ⟨text, trail, cut, blankTrail, targets⟩ := resultTarget_spells h
        have plain : s = none := by simpa using single
        subst plain
        exact spelled (congrArg (fun x => '%' :: '%' :: x) cut) blankTrail targets
    · obtain ⟨text, trail, cut, blankTrail, targets⟩ := parameterTarget_spells h
      exact spelled (congrArg ('%' :: ·) cut) blankTrail targets

/-! ## Ends of a body -/

theorem isNameChar_not_blank {c : Char} (h : isNameChar c = true) : isBlank c = false :=
  isTagChar_not_blank (isTagChar_of_isNameChar h)

theorem isNameChar_of_isDigit {c : Char} (h : c.isDigit = true) : isNameChar c = true := by
  simp [isNameChar, Char.isAlphanum, h]

theorem word_last {word : List Char} (nonempty : word ≠ [])
    (inside : ∀ c ∈ word, isNameChar c = true) :
    ∃ front c, word = front ++ [c] ∧ isBlank c = false := by
  obtain ⟨front, c, whole⟩ := (List.eq_nil_or_concat' word).resolve_left nonempty
  exact ⟨front, c, whole, isNameChar_not_blank (inside c (by simp [whole]))⟩

theorem pathText_last (before : List Char) {path : List String}
    (fields : ∀ field ∈ path, IsField field)
    (solid : ∃ front c, before = front ++ [c] ∧ isBlank c = false) :
    ∃ front c, before ++ pathText path = front ++ [c] ∧ isBlank c = false := by
  rcases List.eq_nil_or_concat path with rfl | ⟨rest, field, rfl⟩
  · simpa [pathText] using solid
  · obtain ⟨nonempty, inside⟩ := fields field (by simp)
    obtain ⟨front, c, last, blank⟩ := word_last nonempty inside
    exact ⟨before ++ pathText rest ++ '.' :: front, c, by simp [pathText, last], blank⟩

theorem SpellsArgument.word {word : List Char} {a : ArgumentSelector} (h : SpellsArgument word a) :
    word ≠ [] ∧ ∀ c ∈ word, isNameChar c = true := by
  cases h with
  | position ordinal =>
    exact ⟨ordinal.nonempty, fun c hc => isNameChar_of_isDigit (ordinal.decimal c hc)⟩
  | name valid => exact valid.1

section

variable {text : List Char} {s : Option String} {t : Option Tag} {meaning : Placeholder}

theorem SpellsTarget.sign (h : SpellsTarget text s t meaning) : ∃ target, text = '%' :: target := by
  cases h <;> exact ⟨_, rfl⟩

theorem SpellsTarget.last (h : SpellsTarget text s t meaning) :
    ∃ front c, text = front ++ [c] ∧ isBlank c = false := by
  cases h with
  | @parameter word _ _ _ _ names fields =>
    obtain ⟨nonempty, inside⟩ := names.word
    obtain ⟨front, c, rfl, blank⟩ := word_last nonempty inside
    exact pathText_last ('%' :: (front ++ [c])) fields ⟨'%' :: front, c, rfl, blank⟩
  | value fields => exact pathText_last ['%', '%'] fields ⟨['%'], '%', rfl, by decide⟩
  | slot ordinal =>
    obtain ⟨front, c, rfl, blank⟩ :=
      word_last ordinal.nonempty fun c hc => isNameChar_of_isDigit (ordinal.decimal c hc)
    exact ⟨'%' :: '%' :: front, c, rfl, blank⟩
  | @key blanks _ _ => exact ⟨'%' :: '%' :: (blanks ++ [',', '%']), '*', by simp, by decide⟩

/-- A tag and the target behind it start with something that is neither white space nor the sign
of a separator. -/
theorem SpellsTag.start (h : SpellsTag text t) (target : List Char) :
    ∃ c rest, text ++ '%' :: target = c :: rest ∧ isBlank c = false ∧ c ≠ '#' := by
  cases h with
  | absent => exact ⟨'%', target, rfl, by decide, by decide⟩
  | @word t _ name _ _ =>
    cases hn : t.name.toList with
    | nil => exact absurd hn name.1
    | cons c cs =>
      have hc : isTagChar c = true := name.2 c (hn ▸ List.mem_cons_self)
      exact ⟨c, _, by rw [tagWord, hn]; rfl, isTagChar_not_blank hc, (isTagChar_ne hc).1⟩

theorem Blanks.closes {blanks : List Char} (h : Blanks blanks) : '}' ∉ blanks := by
  intro hc
  exact absurd (h _ hc) (by decide)

theorem SpellsTag.closes (h : SpellsTag text t) : '}' ∉ text := by
  cases h with
  | absent => exact List.not_mem_nil
  | word name apart behind =>
    intro hc
    rcases List.mem_append.1 hc with hc | hc
    · rcases List.mem_append.1 hc with hc | hc
      · exact (isTagChar_ne (name.2 _ hc)).2.2.2 rfl
      · split at hc <;> simp at hc
    · exact Blanks.closes behind hc

theorem SpellsTarget.closes (h : SpellsTarget text s t meaning) : '}' ∉ text := by
  cases h with
  | parameter names fields =>
    simp [word_closes names.word.2, pathText_closes fields]
  | value fields => simp [pathText_closes fields]
  | slot ordinal =>
    simp [word_closes fun c hc => isNameChar_of_isDigit (ordinal.decimal c hc)]
  | key inside => simp [Blanks.closes inside]

/-! ## What is spelled is read -/

theorem separator_of_spells (h : SpellsSeparator text s) {c : Char} (rest : List Char)
    (solid : isBlank c = false) (sign : c ≠ '#') :
    separator (text ++ c :: rest) = .ok (s, c :: rest) := by
  cases h with
  | absent =>
    unfold separator
    split
    · next heq => exact absurd (List.cons.inj heq).1 sign
    · rfl
  | @between inside blanks number behind =>
    have whole : '#' :: (inside ++ '#' :: blanks) ++ c :: rest =
        '#' :: (inside ++ '#' :: (blanks ++ c :: rest)) := by simp
    rw [whole, separator, splitAt?_append _ number]
    dsimp only
    rw [trimStart, dropWhile_blanks behind solid]

theorem tag_of_spells (h : SpellsTag text t) (target : List Char) :
    Placeholder.tag (text ++ '%' :: target) = .ok (t, target) := by
  cases h with
  | absent => rfl
  | word name apart behind =>
    rw [List.append_assoc]
    exact tag_tagWord name apart behind target

theorem argument_of_spells {a : ArgumentSelector} (h : SpellsArgument text a) {rest : List Char}
    (stop : ∀ c, rest.head? = some c → isNameChar c = false) :
    argument (text ++ rest) = .ok (a, rest) := by
  cases h with
  | @position _ n ordinal =>
    have noDigit : ∀ c, rest.head? = some c → c.isDigit = false := by
      intro c hc
      by_contra digit
      have name := isNameChar_of_isDigit (Bool.not_eq_false _ ▸ digit)
      rw [stop c hc] at name
      cases name
    have number := (ordinal?_spells ordinal.nonempty ordinal.decimal).2 ordinal
    unfold argument
    rw [takeWhile_word ordinal.decimal noDigit, dropWhile_word ordinal.decimal noDigit]
    split
    · next none => exact absurd rfl ordinal.nonempty
    · rw [number]
  | name valid => exact argument_name valid stop

theorem path_stop {cs : List Char} (h : cs.head? ≠ some '.') : path cs = .ok ([], cs) := by
  rw [path.eq_def]
  split
  · exact absurd rfl h
  · rfl

theorem parameterTarget_of_spells {word : List Char} {a : ArgumentSelector} {fields : List String}
    (names : SpellsArgument word a) (valid : ∀ field ∈ fields, IsField field) :
    parameterTarget s t (word ++ pathText fields) = .ok (.parameter a fields t s) := by
  have stop : ∀ c, (pathText fields).head? = some c → isNameChar c = false := by
    intro c hc
    rw [head_pathText fields hc]
    rfl
  unfold parameterTarget
  rw [argument_of_spells names stop]
  show (path (pathText fields) >>= _) = _
  rw [path_pathText valid]
  rfl

/-- The sign of a map key is set apart from a position and from a path. -/
theorem blanks_key_head {blanks : List Char} (inside : Blanks blanks) {c : Char}
    (h : (blanks ++ [',', '%', '*']).head? = some c) : c.isDigit = false ∧ c ≠ '.' := by
  cases blanks with
  | nil =>
    cases Option.some.inj h
    decide
  | cons b _ =>
    cases Option.some.inj h
    have blank := inside c List.mem_cons_self
    refine ⟨?_, fun point => absurd blank (point ▸ by decide)⟩
    by_contra digit
    have solid := isNameChar_not_blank (isNameChar_of_isDigit (Bool.not_eq_false _ ▸ digit))
    rw [blank] at solid
    cases solid

theorem resultTarget_of_spells {target : List Char}
    (h : SpellsTarget ('%' :: '%' :: target) s t meaning) :
    s = none ∧ resultTarget t target = .ok meaning := by
  generalize whole : '%' :: '%' :: target = text at h
  cases h with
  | @parameter word _ _ _ _ names _ =>
    -- no argument starts with the sign of a result
    obtain ⟨nonempty, inside⟩ := names.word
    cases word with
    | nil => exact absurd rfl nonempty
    | cons c _ =>
      have sign : '%' = c := (List.cons.inj (List.cons.inj whole).2).1
      exact absurd (inside c List.mem_cons_self) (sign ▸ by decide)
  | @value fields _ valid =>
    obtain rfl := (List.cons.inj (List.cons.inj whole).2).2
    refine ⟨rfl, ?_⟩
    have noDigit : (pathText fields).takeWhile Char.isDigit = [] := by
      refine takeWhile_stop fun c hc => ?_
      rw [head_pathText fields hc]
      rfl
    unfold resultTarget
    rw [noDigit, path_pathText valid]
    rfl
  | @slot digits n t ordinal =>
    obtain rfl := (List.cons.inj (List.cons.inj whole).2).2
    refine ⟨rfl, ?_⟩
    have all : target.takeWhile Char.isDigit = target :=
      List.takeWhile_eq_self_iff.2 ordinal.decimal
    have bare : trimEnd target = target := by
      obtain ⟨front, c, last, solid⟩ :=
        word_last ordinal.nonempty fun c hc => isNameChar_of_isDigit (ordinal.decimal c hc)
      rw [last]
      simpa using trimEnd_blanks front blanks_nil solid
    unfold resultTarget
    rw [all, bare]
    split
    · exact absurd rfl ordinal.nonempty
    · rw [if_neg (Option.some_ne_none _), if_neg (not_not.2 rfl),
        (ordinal?_spells ordinal.nonempty ordinal.decimal).2 ordinal]
  | @key blanks _ inside =>
    obtain rfl := (List.cons.inj (List.cons.inj whole).2).2
    refine ⟨rfl, ?_⟩
    have noDigit : (blanks ++ [',', '%', '*']).takeWhile Char.isDigit = [] :=
      takeWhile_stop fun c hc => (blanks_key_head inside hc).1
    have noPath : path (blanks ++ [',', '%', '*']) = .ok ([], blanks ++ [',', '%', '*']) :=
      path_stop fun point => (blanks_key_head inside point).2 rfl
    have sign : Solid [',', '%', '*'] :=
      ⟨⟨',', _, rfl, by decide⟩, ⟨[',', '%'], '*', rfl, by decide⟩⟩
    have trimmed : trim (blanks ++ [',', '%', '*']) = [',', '%', '*'] :=
      sign.trim_around inside blanks_nil
    unfold resultTarget
    rw [noDigit, noPath]
    simp only [bind, Except.bind]
    rw [trimmed]
    rfl

/-- The part of a body behind its separator and tag is read as the target says. -/
theorem target_of_spells {target : List Char} (h : SpellsTarget ('%' :: target) s t meaning) :
    (match target with
      | '%' :: target =>
        if s.isSome then Except.error PlaceholderFault.separatorOnResult else resultTarget t target
      | target => parameterTarget s t target) = .ok meaning := by
  split
  · obtain ⟨rfl, read⟩ := resultTarget_of_spells h
    exact read
  · next single =>
    generalize whole : '%' :: target = text at h
    cases h with
    | parameter names fields =>
      obtain rfl := (List.cons.inj whole).2
      exact parameterTarget_of_spells names fields
    | value _ | slot _ | key _ => exact (single _ (List.cons.inj whole).2).elim

end

/-- A body that the grammar spells is read, and gives what it means. -/
theorem ofBody_of_spells {body : List Char} {meaning : Placeholder} (h : Spells body meaning) :
    ofBody body = .ok meaning := by
  obtain @⟨lead, separator, tag, target, trail, s, t, _, blankLead, separates, tags, targets,
    blankTrail⟩ := h
  obtain ⟨target, rfl⟩ := targets.sign
  obtain ⟨c, rest, start, solid, sign⟩ := tags.start target
  have read := separator_of_spells separates rest solid sign
  -- trimming stops at both ends of what the body spells
  have core : Solid (separator ++ (tag ++ '%' :: target)) := by
    constructor
    · rw [start]
      cases separates with
      | absent => exact ⟨c, rest, rfl, solid⟩
      | between _ _ => exact ⟨'#', _, rfl, by decide⟩
    · obtain ⟨front, d, last, hd⟩ := targets.last
      exact ⟨separator ++ (tag ++ front), d, by rw [last]; simp, hd⟩
  unfold ofBody
  rw [core.trim_around blankLead blankTrail]
  split
  · next empty =>
    obtain ⟨c, rest, whole, -⟩ := core.first
    rw [whole] at empty
    cases empty
  · rw [start, read, ← start]
    show (Placeholder.tag (tag ++ '%' :: target) >>= _) = _
    rw [tag_of_spells tags target]
    exact target_of_spells targets

/-- Reading a body accepts the bodies that the grammar spells, and gives what they mean. -/
theorem ofBody_eq_ok {body : List Char} {meaning : Placeholder} :
    ofBody body = .ok meaning ↔ Spells body meaning :=
  ⟨ofBody_spells, ofBody_of_spells⟩

/-- The body of a placeholder ends where the scan takes it to end. -/
theorem Spells.isBody {body : List Char} {meaning : Placeholder} (h : Spells body meaning) :
    Segment.IsBody body := by
  obtain @⟨lead, separator, tag, target, trail, s, t, _, blankLead, separates, tags, targets,
    blankTrail⟩ := h
  have inside : '}' ∉ tag ++ target ++ trail := by
    simp [tags.closes, targets.closes, Blanks.closes blankTrail]
  obtain ⟨target, rfl⟩ := targets.sign
  obtain ⟨c, rest, start, solid, sign⟩ := tags.start target
  unfold Segment.IsBody
  -- a brace of the separator does not end the body, and behind the separator there is none
  cases separates with
  | absent =>
    have whole : [] ++ (tag ++ '%' :: target) ++ trail = c :: (rest ++ trail) := by rw [start]; rfl
    rw [whole, dropWhile_blanks blankLead solid, Segment.closes_of_ne sign]
    rwa [start] at inside
  | @between between blanks number behind =>
    have whole : '#' :: (between ++ '#' :: blanks) ++ (tag ++ '%' :: target) ++ trail =
        '#' :: (between ++ '#' :: (blanks ++ (tag ++ '%' :: target ++ trail))) := by simp
    rw [whole, dropWhile_blanks blankLead (by decide)]
    exact ⟨between, _, rfl, number, by simpa [Blanks.closes behind] using inside⟩

end Placeholder

end QueryMethods
