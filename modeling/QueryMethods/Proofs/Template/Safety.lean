/-
Reading never cuts a text where it must not. With a cursor every slice exists and the same template
is read as by characters, so that it comes to an end; a failure is reported between two characters of
the text; and a separator without an end is found with the end of its placeholder, never in its body.
-/
import QueryMethods.Proofs.Template.Scanning

namespace QueryMethods

open Text

/-! ## Faults of a placeholder -/

namespace Placeholder

variable {f : PlaceholderFault}

theorem separator_eq_error {cs : List Char} (h : separator cs = .error f) :
    ∃ rest, cs = '#' :: rest ∧ '#' ∉ rest := by
  unfold separator at h
  split at h
  · next rest =>
    split at h
    · cases h
    · next open' => exact ⟨rest, rfl, splitAt?_eq_none open'⟩
  · cases h

theorem tagOfWord_eq_error {word : List Char} (h : tagOfWord word = .error f) : f = .invalidTag := by
  unfold tagOfWord at h
  dsimp only at h
  split_ifs at h <;> cases h <;> rfl

theorem tag_apart {cs : List Char} (h : tag cs = .error f) : f ≠ .unterminatedSeparator := by
  unfold tag at h
  split at h
  · cases h
  · split at h
    · cases h
      decide
    · rcases bind_eq_error.1 h with h | ⟨t, -, h⟩
      · rw [tagOfWord_eq_error h]
        decide
      · split at h
        · cases h
        · cases h
          decide

theorem path_apart {cs : List Char} (h : path cs = .error f) : f ≠ .unterminatedSeparator := by
  fun_induction path cs with
  | case1 => cases h; decide
  | case2 rest name ih =>
    rcases bind_eq_error.1 h with h | ⟨x, -, h⟩
    · exact ih h
    · cases h
  | case3 => cases h

theorem resultTarget_apart {tag : Option Tag} {cs : List Char} (h : resultTarget tag cs = .error f) :
    f ≠ .unterminatedSeparator := by
  unfold resultTarget at h
  split at h
  · rcases bind_eq_error.1 h with h | ⟨x, -, h⟩
    · exact path_apart h
    · dsimp only at h
      split at h
      · cases h
      · split at h <;> cases h
        decide
      · cases h
        decide
  · split at h
    · cases h
      decide
    · split at h
      · cases h
        decide
      · split at h <;> cases h
        decide

theorem argument_apart {cs : List Char} (h : argument cs = .error f) : f ≠ .unterminatedSeparator := by
  unfold argument at h
  split at h
  · split at h <;> cases h
    decide
  · split at h <;> cases h
    decide

theorem parameterTarget_apart {separator : Option String} {tag : Option Tag} {cs : List Char}
    (h : parameterTarget separator tag cs = .error f) : f ≠ .unterminatedSeparator := by
  unfold parameterTarget at h
  rcases bind_eq_error.1 h with h | ⟨x, -, h⟩
  · exact argument_apart h
  · rcases bind_eq_error.1 h with h | ⟨y, -, h⟩
    · exact path_apart h
    · dsimp only at h
      split at h <;> cases h <;> decide

/-- The end of a placeholder is found behind its separator, so that the body has none that is open. -/
theorem separator_closed {body : List Char} (closes : Segment.IsBody body) :
    separator (trim body) ≠ .error f := by
  intro h
  obtain ⟨r, start, unclosed⟩ := separator_eq_error h
  obtain ⟨blanks, front, blank⟩ := trimEnd_append (trimStart body)
  have whole : body.dropWhile isBlank = '#' :: (r ++ blanks) := by
    show trimStart body = _
    rw [front]
    show trim body ++ blanks = _
    rw [start]
    rfl
  unfold Segment.IsBody at closes
  rw [whole] at closes
  obtain ⟨between, tail, split, -, -⟩ := closes
  have mem : '#' ∈ r ++ blanks := by
    rw [split]
    simp
  -- the white space that was taken off at the end holds no number sign
  rcases List.mem_append.1 mem with mem | mem
  · exact unclosed mem
  · exact absurd (blank _ mem) (by decide)

theorem ofBody_apart {body : List Char} (closes : Segment.IsBody body) (h : ofBody body = .error f) :
    f ≠ .unterminatedSeparator := by
  unfold ofBody at h
  split at h
  · cases h
    decide
  · rcases bind_eq_error.1 h with h | ⟨⟨between, core⟩, -, h⟩
    · exact absurd h (separator_closed closes)
    · rcases bind_eq_error.1 h with h | ⟨⟨t, target⟩, -, h⟩
      · exact tag_apart h
      · dsimp only at h
        split at h
        · split at h
          · cases h
            decide
          · exact resultTarget_apart h
        · exact parameterTarget_apart h

end Placeholder

/-! ## Failures -/

/-- A failure of a text that starts at an offset: it is reported between two characters of the text,
and is no separator that does not end. -/
structure TemplateFailure.Within (offset : Nat) (cs : List Char) (e : TemplateFailure) : Prop where
  place : ∃ before after, cs = before ++ after ∧ e.offset = offset + byteLength before
  fault : ∀ body, e.fault ≠ .placeholder .unterminatedSeparator body

namespace TemplateFailure

variable {e : TemplateFailure} {offset : Nat} {cs : List Char}

theorem within_start {fault : TemplateFault} (apart : ∀ body,
    fault ≠ .placeholder .unterminatedSeparator body) : Within offset cs ⟨offset, fault⟩ :=
  ⟨⟨[], cs, rfl, rfl⟩, apart⟩

theorem Within.behind {source tail : List Char} (h : Within (offset + byteLength source) tail e) :
    Within offset (source ++ tail) e := by
  obtain ⟨before, after, rfl, place⟩ := h.place
  refine ⟨⟨source ++ before, after, (List.append_assoc ..).symm, ?_⟩, h.fault⟩
  rw [place, byteLength_append, Nat.add_assoc]

/-- A failure behind a segment is one of the text with the segment in front. -/
theorem within_of_cons {source tail : List Char} {offset' : Nat} {segment : Segment}
    {x : Except TemplateFailure (List Segment)} (whole : cs = source ++ tail)
    (length : offset' = offset + byteLength source)
    (h : (x >>= fun segments => .ok (segment :: segments)) = .error e)
    (ih : x = .error e → Within offset' tail e) : Within offset cs e := by
  rcases bind_eq_error.1 h with h | ⟨segments, -, h⟩
  · rw [whole]
    exact Within.behind (length ▸ ih h)
  · cases h

end TemplateFailure

open TemplateFailure in
/-- What the scan reports lies in the text that it scans. -/
theorem Segment.scan_failure {bracketed : Bool} {offset : Nat} {cs : List Char} {e : TemplateFailure}
    (h : scan bracketed offset cs = .error e) : Within offset cs e := by
  have braces : IsAscii '{' ∧ IsAscii '}' := by decide
  fun_induction scan bracketed offset cs with
  | case1 => cases h
  | case2 offset rest body tail split ih =>
    have quote : IsAscii '\'' := by decide
    refine within_of_cons (literal_append split) ?_ h ih
    rw [quote.byteLength_around quote, Nat.add_assoc]
  | case3 offset rest split =>
    cases h
    exact ⟨⟨_, [], (List.append_nil _).symm, rfl⟩, fun _ => by simp⟩
  | case4 offset rest body tail split ih =>
    refine within_of_cons (comment_append split) ?_ h ih
    rw [byteLength_comment, Nat.add_assoc]
  | case5 => cases h
  | case6 offset c rest brace ih =>
    have two : byteLength ['\\', c] = 2 := by
      have ascii : IsAscii c := by
        rcases (by simpa using brace : c = '{' ∨ c = '}') with rfl | rfl
        · exact braces.1
        · exact braces.2
      rw [byteLength_cons, ascii.byteLength]
      rfl
    exact within_of_cons (List.append_cons ['\\'] c rest) (by rw [← two]; rfl) h ih
  | case7 offset c rest brace ih => exact within_of_cons List.singleton_append.symm rfl h ih
  | case8 => cases h
  | case9 | case10 | case11 =>
    cases h
    exact within_start fun _ => by simp
  | case12 offset rest body tail closes fault means =>
    cases h
    refine ⟨⟨['{'], rest, rfl, ?_⟩, fun text same => ?_⟩
    · rw [braces.1.byteLength]
    · cases same
      obtain rfl := placeholderBody?_eq closes
      exact Placeholder.ofBody_apart (placeholderBody?_iff.1 closes) means rfl
  | case13 offset rest body tail closes meaning means ih =>
    refine within_of_cons (placeholder_append closes) ?_ h ih
    rw [braces.1.byteLength_around braces.2, Nat.add_assoc]
  | case14 offset c rest quote slash backslash last marker close opening ih =>
    exact within_of_cons List.singleton_append.symm rfl h ih

namespace Template

/-! ## Whole templates -/

/-- What follows the part that is read starts with the closing bracket, if anything follows it. -/
theorem outer_closing (form : TemplateForm) (cs : List Char) : (outer form cs).2.2.head? =
    if decide ((outer form cs).2.2 ≠ []) then some '}' else none := by
  cases form with
  | plain => rfl
  | call =>
    unfold outer
    dsimp only
    cases found : brackets? cs with
    | none => rfl
    | some parts =>
      obtain ⟨before, inner, after⟩ := parts
      obtain ⟨lead, trail, -, -, -, -, rfl⟩ := brackets?_eq_some.1 found
      rfl

/-- With a cursor the same template is read, and the same failure is reported. -/
theorem readSlices_eq (form : TemplateForm) (text : String) :
    readSlices form text = .whole (read form text) := by
  have whole := (outer_eq form text.toList).1
  have closing := outer_closing form text.toList
  unfold readSlices
  dsimp only
  rw [Sliced.slice_bind (bounds?_eq form text.toList), read_outer]
  generalize outer form text.toList = parts at whole closing ⊢
  obtain ⟨before, inner, after⟩ := parts
  dsimp only at whole closing ⊢
  have start := slice?_front before (inner ++ after)
  have behind := slice?_back (before ++ inner) after
  rw [byteLength_append before inner, ← whole] at behind
  rw [← List.append_assoc, ← whole] at start
  let s : Cursor := ⟨byteLength before, byteLength before, false, before, [], [], 0, 0⟩
  have here : Cursor.At text.toList (byteLength before + byteLength inner) [] inner after s :=
    ⟨rfl, ⟨before, by rw [whole, List.append_assoc]; rfl, rfl, rfl⟩, rfl⟩
  have reads : Cursor.Reads form _ _ s _ := Cursor.readsAs_scan closing _ _ s _ rfl here
  unfold Cursor.Reads at reads
  rw [Sliced.slice_bind start]
  unfold readBetween
  show (Cursor.run form _ _ s >>= fun s => s.finish _ _ >>= _) = _
  rw [← bind_assoc, reads]
  cases Segment.scan (decide (after ≠ [])) (byteLength before) inner with
  | error e => rfl
  | ok segments =>
    have collected : s.collect form [] segments = ⟨before ++ (assemble form 0 0 segments).text,
        (assemble form 0 0 segments).parameters, (assemble form 0 0 segments).results⟩ := by
      simp [Cursor.collect, s]
    show (if decide (after ≠ []) = true then _ else _) = _
    split
    · rw [Sliced.slice_bind behind, collected]
      rfl
    · next none =>
      rw [show after = [] by simpa using none, collected]
      rfl

theorem read_failure {form : TemplateForm} {text : String} {e : TemplateFailure}
    (h : read form text = .error e) : TemplateFailure.Within 0 text.toList e := by
  rw [read_outer] at h
  rw [(outer_eq form text.toList).1]
  generalize outer form text.toList = parts at h ⊢
  obtain ⟨before, inner, after⟩ := parts
  dsimp only at h ⊢
  rcases bind_eq_error.1 h with scanned | ⟨segments, -, assembled⟩
  · obtain ⟨front, behind, rfl, place⟩ := (Segment.scan_failure scanned).place
    refine ⟨⟨before ++ front, behind ++ after, ?_, ?_⟩, (Segment.scan_failure scanned).fault⟩
    · simp only [List.append_assoc]
    · rw [place, byteLength_append, Nat.zero_add]
  · cases assembled

/-- What is asked of a reader of templates, for one text. -/
structure ReadSafely (form : TemplateForm) (text : String) : Prop where
  /-- Every slice that the cursor and its helpers take exists, which is to say that it lies between
  two boundaries in their order (`slice?_isSome`), no difference is negative, and it all comes to an
  end. -/
  whole : readSlices form text = .whole (read form text)
  /-- A failure is reported between two characters of the text, or at its end. -/
  located : ∀ e, read form text = .error e →
    e.offset ≤ text.utf8ByteSize ∧ IsBoundary text.toList e.offset
  /-- No body of a placeholder is found to have a separator that does not end. -/
  separated : ∀ e, read form text = .error e → ∀ body,
    e.fault ≠ .placeholder .unterminatedSeparator body

/-- Reading never cuts a text where it must not. -/
theorem read_safely (form : TemplateForm) (text : String) : ReadSafely form text := by
  refine ⟨readSlices_eq form text, fun e h => ?_, fun e h => (read_failure h).fault⟩
  obtain ⟨before, after, whole, place⟩ := (read_failure h).place
  rw [Nat.zero_add] at place
  have boundary : IsBoundary text.toList e.offset := ⟨before, after, whole, place.symm⟩
  exact ⟨byteLength_toList text ▸ boundary.le, boundary⟩

end Template

end QueryMethods
