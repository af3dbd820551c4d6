/-
Placeholders read by slices. The body of a placeholder is cut at places that are found by searching
it for characters. None of the slices fails to exist, so that this reads what is read by taking
characters off the front.
-/
import QueryMethods.Proofs.Template.Placeholders
import QueryMethods.Proofs.Template.Segments
import QueryMethods.Proofs.Text.Bytes

namespace QueryMethods

open Text

/-! ## Slices and differences that may not exist -/

/-- A computation that takes slices of texts and may fail. It has no outcome at all if a slice or a
difference does not exist. -/
abbrev Sliced (ε α : Type) : Type := ExceptT ε Option α

namespace Sliced

variable {ε α β : Type}

/-- A computation that has an outcome. -/
def whole (r : Except ε α) : Sliced ε α := ExceptT.mk (some r)

/-- A computation that has none. -/
def missing : Sliced ε α := ExceptT.mk none

theorem whole_bind {f : α → Sliced ε β} {g : α → Except ε β} (r : Except ε α)
    (h : ∀ a, f a = whole (g a)) : (whole r >>= f) = whole (r >>= g) := by
  cases r with
  | error e => rfl
  | ok a => exact h a

theorem slice_bind {x : Option α} {a : α} (h : x = some a) (f : α → Sliced ε β) :
    ((liftM x : Sliced ε α) >>= f) = f a := by
  rw [h]
  rfl

/-- What a computation gives, if it gives anything. -/
def Gives (P : α → Prop) (x : Sliced ε α) : Prop := ∀ a, x = whole (.ok a) → P a

section

variable {P : α → Prop}

theorem gives_pure {a : α} (h : P a) : Gives P (pure a : Sliced ε α) := fun _ e => by
  cases e
  exact h

theorem gives_throw (e : ε) : Gives P (throw e : Sliced ε α) := fun _ h => by cases h

theorem gives_slice {x : Option β} {f : β → Sliced ε α} (h : ∀ b, x = some b → Gives P (f b)) :
    Gives P ((liftM x : Sliced ε β) >>= f) := fun a e => by
  cases x with
  | none => cases e
  | some b => exact h b rfl a e

end

end Sliced

/-- The difference of two unsigned numbers, none if it is negative. -/
def sub? (a b : Nat) : Option Nat := if b ≤ a then some (a - b) else none

theorem sub?_add (a b : Nat) : sub? (a + b) a = some b := by
  unfold sub?
  rw [if_pos (Nat.le_add_right a b), Nat.add_sub_cancel_left]

namespace Placeholder

/-! ## Definitions -/

/-- The characters of a kind in front. -/
def sliceLeading (p : Char → Bool) (cs : List Char) : Option (List Char) :=
  slice? cs 0 ((find? (fun c => !p c) cs).getD (byteLength cs))

def sliceSeparator (cs : List Char) : Sliced PlaceholderFault (Option String × List Char) :=
  match cs with
  | '#' :: after =>
    match find? (· = '#') after with
    | none => throw .unterminatedSeparator
    | some close => do
      let between ← slice? after 0 close
      let rest ← slice? after (close + 1) (byteLength after)
      pure (some (String.ofList between), trimStart rest)
  | cs => pure (none, cs)

def sliceTag (cs : List Char) : Sliced PlaceholderFault (Option Tag × List Char) :=
  match cs with
  | '%' :: target => pure (none, target)
  | cs =>
    match find? isBlank cs with
    | none => throw .missingTarget
    | some stop => do
      let word ← slice? cs 0 stop
      let tag ← Sliced.whole (tagOfWord word)
      let rest ← slice? cs stop (byteLength cs)
      match trimStart rest with
      | '%' :: target => pure (some tag, target)
      | _ => throw .missingTarget

def slicePath (cs : List Char) : Sliced PlaceholderFault (List String × List Char) :=
  match cs with
  | '.' :: after => do
    let name ← sliceLeading isNameChar after
    if name = [] then throw .emptyField
    else
      match _behind : slice? after (byteLength name) (byteLength after) with
      | some rest => do
        let (names, rest) ← slicePath rest
        pure (String.ofList name :: names, rest)
      | none => .missing
  | cs => pure ([], cs)
termination_by cs.length
decreasing_by
  obtain ⟨front, back, whole, -, -⟩ := slice?_eq_some.1 _behind
  rw [whole]
  simp only [List.length_cons, List.length_append]
  omega

def sliceResultTarget (tag : Option Tag) (cs : List Char) : Sliced PlaceholderFault Placeholder := do
  let digits ← sliceLeading Char.isDigit cs
  if digits ≠ [] then
    if tag = none then throw .untaggedSlot
    else if byteLength digits ≠ byteLength (trimEnd cs) then throw .textAfterSlot
    else
      match ordinal? digits with
      | some n => pure (.result (.slot n) tag)
      | none => throw .invalidSlot
  else do
    let (names, rest) ← slicePath cs
    .whole <| match trim rest with
      | [] => .ok (.result (.value names) tag)
      | [',', '%', '*'] => if names = [] then .ok (.result .key tag) else .error .keyAfterPath
      | _ => .error .textAfterResult

def sliceArgument (cs : List Char) : Sliced PlaceholderFault (ArgumentSelector × List Char) := do
  let digits ← sliceLeading Char.isDigit cs
  if digits ≠ [] then
    match ordinal? digits with
    | some n => do
      let index ← sub? n 1
      let rest ← slice? cs (byteLength digits) (byteLength cs)
      pure (.position index, rest)
    | none => throw .invalidPosition
  else do
    let name ← sliceLeading isNameChar cs
    if name = [] then throw .missingTarget
    else do
      let rest ← slice? cs (byteLength name) (byteLength cs)
      pure (.name (String.ofList name), rest)

def sliceParameterTarget (separator : Option String) (tag : Option Tag) (cs : List Char) :
    Sliced PlaceholderFault Placeholder := do
  let (argument, rest) ← sliceArgument cs
  let (names, rest) ← slicePath rest
  .whole <| match trim rest with
    | [] => .ok (.parameter argument names tag separator)
    | [',', '%', '*'] => .error .keyOnParameter
    | _ => .error .textAfterParameter

/-- Read the body of a placeholder by slices. -/
def sliceBody (body : List Char) : Sliced PlaceholderFault Placeholder :=
  match trim body with
  | [] => throw .empty
  | cs => do
    let (separator, cs) ← sliceSeparator cs
    let (tag, target) ← sliceTag cs
    if target.head? = some '%' then
      if separator.isSome then throw .separatorOnResult else sliceResultTarget tag target.tail
    else sliceParameterTarget separator tag target

/-! ## Every slice exists -/

theorem sliceLeading_eq (p : Char → Bool) (cs : List Char) :
    sliceLeading p cs = some (cs.takeWhile p) := by
  have front := slice?_front (cs.takeWhile p) (cs.dropWhile p)
  rw [List.takeWhile_append_dropWhile] at front
  unfold sliceLeading
  rw [find?_not, front]

theorem slice?_leading (p : Char → Bool) (cs : List Char) :
    slice? cs (byteLength (cs.takeWhile p)) (byteLength cs) = some (cs.dropWhile p) := by
  have back := slice?_back (cs.takeWhile p) (cs.dropWhile p)
  rwa [List.takeWhile_append_dropWhile] at back

theorem find?_of_splitAt? {stop : Char} {cs before after : List Char}
    (h : splitAt? stop cs = some (before, after)) :
    find? (· = stop) cs = some (byteLength before) := by
  have free := splitAt?_not_mem h
  obtain rfl := splitAt?_eq h
  exact find?_append after (fun c hc => decide_eq_false fun e => free (e ▸ hc)) (decide_eq_true rfl)

theorem splitAt?_eq_none {stop : Char} : ∀ {cs : List Char}, splitAt? stop cs = none → stop ∉ cs
  | [], _ => List.not_mem_nil
  | c :: cs, h => by
    rw [splitAt?] at h
    split at h
    · cases h
    · next other =>
      exact List.not_mem_cons_of_ne_of_not_mem (Ne.symm other)
        (splitAt?_eq_none (Option.map_eq_none_iff.1 h))

theorem find?_of_splitAt?_none {stop : Char} {cs : List Char} (h : splitAt? stop cs = none) :
    find? (· = stop) cs = none :=
  find?_eq_none fun _ hc => decide_eq_false fun e => splitAt?_eq_none h (e ▸ hc)

theorem sliceSeparator_eq (cs : List Char) : sliceSeparator cs = .whole (separator cs) := by
  by_cases sign : ∃ after, cs = '#' :: after
  · obtain ⟨after, rfl⟩ := sign
    rw [sliceSeparator, separator]
    cases split : splitAt? '#' after with
    | none =>
      rw [find?_of_splitAt?_none split]
      rfl
    | some parts =>
      obtain ⟨between, rest⟩ := parts
      have front := slice?_front between ('#' :: rest)
      have back := slice?_back (between ++ ['#']) rest
      have behind : byteLength (between ++ ['#']) = byteLength between + 1 := byteLength_append ..
      rw [behind, List.append_assoc, List.singleton_append] at back
      rw [← splitAt?_eq split] at front back
      rw [find?_of_splitAt? split]
      dsimp only
      rw [Sliced.slice_bind front, Sliced.slice_bind back]
      rfl
  · have apart : ∀ after, cs = '#' :: after → False := fun after e => sign ⟨after, e⟩
    rw [sliceSeparator.eq_2 cs apart, separator.eq_2 cs apart]
    rfl

theorem sliceTag_eq (cs : List Char) : sliceTag cs = .whole (tag cs) := by
  by_cases sign : ∃ target, cs = '%' :: target
  · obtain ⟨target, rfl⟩ := sign
    rfl
  have apart : ∀ target, cs = '%' :: target → False := fun target e => sign ⟨target, e⟩
  rw [sliceTag.eq_2 cs apart, tag.eq_2 cs apart]
  have whole := List.takeWhile_append_dropWhile (p := fun c => !isBlank c) (l := cs)
  have word := slice?_front (cs.takeWhile fun c => !isBlank c) (cs.dropWhile fun c => !isBlank c)
  have behind := slice?_leading (fun c => !isBlank c) cs
  rw [whole] at word
  have solid : ∀ c ∈ cs.takeWhile (fun c => !isBlank c), isBlank c = false := fun c hc => by
    simpa using List.mem_takeWhile_imp hc
  cases rest : cs.dropWhile (fun c => !isBlank c) with
  | nil =>
    rw [rest, List.append_nil] at whole
    rw [whole] at solid
    rw [find?_eq_none solid]
    rfl
  | cons c after =>
    have blank : isBlank c = true := by
      have := List.head?_dropWhile_not (fun c => !isBlank c) cs
      rw [rest] at this
      simpa using this
    have found := find?_append after solid blank
    rw [← rest, whole] at found
    rw [rest] at behind
    rw [found]
    dsimp only
    rw [Sliced.slice_bind word]
    cases spelled : tagOfWord (cs.takeWhile fun c => !isBlank c) with
    | error fault => rfl
    | ok t =>
      show ((liftM (slice? cs _ _) : Sliced PlaceholderFault _) >>= _) = _
      rw [Sliced.slice_bind behind]
      show _ = Sliced.whole (match trimStart (c :: after) with
        | '%' :: target => .ok (some t, target)
        | _ => .error PlaceholderFault.missingTarget)
      split <;> rfl

theorem slicePath_eq (cs : List Char) : slicePath cs = .whole (path cs) := by
  fun_induction path cs with
  | case1 rest none =>
    rw [slicePath, Sliced.slice_bind (sliceLeading_eq _ _), none]
    rfl
  | case2 rest name ih =>
    rw [slicePath, Sliced.slice_bind (sliceLeading_eq _ _), if_neg name]
    split
    · next rest' behind =>
      rw [slice?_leading] at behind
      cases behind
      rw [ih]
      exact Sliced.whole_bind _ fun _ => rfl
    · next behind =>
      rw [slice?_leading] at behind
      cases behind
  | case3 cs apart =>
    rw [slicePath]
    · rfl
    · exact apart

theorem sliceResultTarget_eq (tag : Option Tag) (cs : List Char) :
    sliceResultTarget tag cs = .whole (resultTarget tag cs) := by
  have whole := List.takeWhile_append_dropWhile (p := Char.isDigit) (l := cs)
  unfold sliceResultTarget resultTarget
  rw [Sliced.slice_bind (sliceLeading_eq _ _)]
  cases digits : cs.takeWhile Char.isDigit with
  | nil =>
    rw [if_neg (not_not_intro rfl), slicePath_eq]
    exact Sliced.whole_bind _ fun _ => rfl
  | cons d ds =>
    rw [digits] at whole
    -- two texts that the target starts with are the same if they are of one length
    have same : byteLength (d :: ds) ≠ byteLength (trimEnd cs) ↔ trimEnd cs ≠ d :: ds := by
      obtain ⟨blanks, whole', -⟩ := trimEnd_append cs
      refine not_congr ⟨fun length => ?_, fun e => congrArg byteLength e.symm⟩
      exact (eq_of_byteLength (whole'.symm.trans whole.symm) length.symm).1
    rw [if_pos (List.cons_ne_nil d ds)]
    simp only [same]
    split
    · rfl
    · split
      · rfl
      · cases ordinal? (d :: ds) <;> rfl

theorem ordinal?_pos {digits : List Char} {n : Nat} (h : ordinal? digits = some n) : 1 ≤ n := by
  unfold ordinal? at h
  dsimp only at h
  split at h
  · next bounds =>
    cases h
    exact bounds.1
  · cases h

theorem sliceArgument_eq (cs : List Char) : sliceArgument cs = .whole (argument cs) := by
  unfold sliceArgument argument
  rw [Sliced.slice_bind (sliceLeading_eq _ _)]
  have behind := slice?_leading Char.isDigit cs
  cases digits : cs.takeWhile Char.isDigit with
  | nil =>
    rw [if_neg (not_not_intro rfl), Sliced.slice_bind (sliceLeading_eq _ _)]
    have behind := slice?_leading isNameChar cs
    cases name : cs.takeWhile isNameChar with
    | nil => rfl
    | cons c name' =>
      rw [name] at behind
      rw [if_neg (List.cons_ne_nil c name'), Sliced.slice_bind behind]
      rfl
  | cons d ds =>
    rw [digits] at behind
    rw [if_pos (List.cons_ne_nil d ds)]
    dsimp only
    cases number : ordinal? (d :: ds) with
    | none => rfl
    | some n =>
      have index : sub? n 1 = some (n - 1) := if_pos (ordinal?_pos number)
      dsimp only
      rw [Sliced.slice_bind index, Sliced.slice_bind behind]
      rfl

theorem sliceParameterTarget_eq (separator : Option String) (tag : Option Tag) (cs : List Char) :
    sliceParameterTarget separator tag cs = .whole (parameterTarget separator tag cs) := by
  unfold sliceParameterTarget parameterTarget
  rw [sliceArgument_eq]
  refine Sliced.whole_bind _ fun (argument, rest) => ?_
  dsimp only
  rw [slicePath_eq]
  exact Sliced.whole_bind _ fun _ => rfl

theorem sliceBody_eq (body : List Char) : sliceBody body = .whole (ofBody body) := by
  unfold sliceBody ofBody
  cases trim body with
  | nil => rfl
  | cons c cs =>
    show (sliceSeparator (c :: cs) >>= _) = Sliced.whole (separator (c :: cs) >>= _)
    rw [sliceSeparator_eq]
    refine Sliced.whole_bind _ fun (between, rest) => ?_
    dsimp only
    rw [sliceTag_eq]
    refine Sliced.whole_bind _ fun (tag, target) => ?_
    dsimp only
    by_cases sign : ∃ result, target = '%' :: result
    · obtain ⟨result, rfl⟩ := sign
      show (if between.isSome then _ else _) = Sliced.whole (if between.isSome then _ else _)
      split
      · rfl
      · exact sliceResultTarget_eq tag result
    · rw [if_neg fun h => sign (List.head?_eq_some_iff.1 h)]
      split
      · next result => exact absurd ⟨result, rfl⟩ sign
      · exact sliceParameterTarget_eq between tag target

end Placeholder

end QueryMethods
