/-
What the segments of a template are: the scan gives well-formed segments whose sources are the
text, and reads every well-formed run of segments back from its sources.
-/
import QueryMethods.Proofs.Result
import QueryMethods.Template.Segment

namespace QueryMethods

open Text

/-! ## Splits -/

theorem Placeholder.splitAt?_append {stop : Char} {before : List Char} (after : List Char)
    (h : stop ∉ before) : splitAt? stop (before ++ stop :: after) = some (before, after) := by
  induction before with
  | nil => rw [List.nil_append, splitAt?, if_pos rfl]
  | cons c rest ih =>
    obtain ⟨hc, hr⟩ := not_or.1 (mt List.mem_cons.2 h)
    rw [List.cons_append, splitAt?, if_neg (Ne.symm hc), ih hr]
    rfl

theorem Placeholder.splitAt?_not_mem {stop : Char} {cs before after : List Char}
    (h : splitAt? stop cs = some (before, after)) : stop ∉ before := by
  induction cs generalizing before with
  | nil => cases h
  | cons c rest ih =>
    rw [splitAt?] at h
    split at h
    · cases h; exact List.not_mem_nil
    · next hc =>
      obtain ⟨⟨b, a⟩, hs, he⟩ := Option.map_eq_some_iff.mp h
      cases he
      exact List.not_mem_cons_of_ne_of_not_mem (Ne.symm hc) (ih hs)

namespace Segment

/-! ## Comments -/

/-- The inside of a closed comment: its end is the first one. -/
def IsCommentBody (body : List Char) : Prop := commentBody (body ++ ['*', '/']) = (body, some [])

theorem commentBody_cons {c : Char} {rest : List Char} (h : ∀ r, c = '*' → rest ≠ '/' :: r) :
    commentBody (c :: rest) = (c :: (commentBody rest).1, (commentBody rest).2) := by
  rw [commentBody.eq_def]
  split
  · next heq => cases heq
  · next r heq => cases heq; exact absurd rfl (h r rfl)
  · next heq => cases heq; rfl

theorem IsCommentBody.cons {c : Char} {body : List Char} (h : IsCommentBody (c :: body)) :
    IsCommentBody body ∧ (c = '*' → ∀ r, body ≠ '/' :: r) := by
  unfold IsCommentBody at h
  rw [List.cons_append] at h
  have apart : ∀ r, c = '*' → body ++ ['*', '/'] ≠ '/' :: r := by
    rintro r rfl e
    rw [e, commentBody] at h
    cases h
  rw [commentBody_cons apart] at h
  simp only [Prod.mk.injEq, List.cons.injEq, true_and] at h
  refine ⟨Prod.ext h.1 h.2, fun e r hb => apart (r ++ ['*', '/']) e ?_⟩
  rw [hb]; rfl

theorem commentBody_append : ∀ {body : List Char} (rest : List Char), IsCommentBody body →
    commentBody (body ++ '*' :: '/' :: rest) = (body, some rest)
  | [], rest, _ => by rw [List.nil_append, commentBody]
  | c :: body, rest, h => by
    obtain ⟨hb, apart⟩ := h.cons
    have ih := commentBody_append rest hb
    rw [List.cons_append, commentBody_cons, ih]
    rintro r rfl e
    cases body with
    | nil => cases e
    | cons d tail =>
      rw [List.cons_append, List.cons.injEq] at e
      exact apart rfl tail (by rw [e.1])

theorem isCommentBody_of_commentBody {cs body rest : List Char}
    (h : commentBody cs = (body, some rest)) : IsCommentBody body := by
  fun_induction commentBody cs generalizing body with
  | case1 => cases h
  | case2 => cases h; rfl
  | case3 c cs apart ih =>
    obtain ⟨rfl, hr⟩ := Prod.mk.injEq .. ▸ h
    have hb := ih (Prod.ext rfl hr)
    unfold IsCommentBody
    rw [List.cons_append, commentBody_cons, hb]
    rintro r rfl e
    have split := commentBody_eq cs
    rw [hr] at split
    cases hd : (commentBody cs).1 with
    | nil => rw [hd] at e; cases e
    | cons d tail =>
      rw [hd, List.cons_append] at e split
      rw [List.cons.injEq] at e
      exact apart _ rfl (split.trans (by rw [e.1]))

theorem commentBody_open {cs body : List Char} (h : commentBody cs = (body, none)) : cs = body := by
  have split := commentBody_eq cs
  rw [h] at split
  rw [split, List.append_nil]

/-! ## Placeholders -/

/-- What a placeholder holds behind its leading white space: a separator may hold closing braces,
nothing else may. -/
def Closes (core : List Char) : Prop :=
  match core with
  | '#' :: rest => ∃ between tail, rest = between ++ '#' :: tail ∧ '#' ∉ between ∧ '}' ∉ tail
  | core => '}' ∉ core

/-- The inside of a placeholder: its closing brace is the first one outside of a separator. -/
def IsBody (body : List Char) : Prop := Closes (body.dropWhile isBlank)

theorem closes_of_ne {c : Char} {rest : List Char} (h : c ≠ '#') :
    Closes (c :: rest) ↔ '}' ∉ c :: rest := by
  unfold Closes
  split
  · next heq => cases heq; exact absurd rfl h
  · rfl

theorem dropWhile_blank_append (body rest : List Char) :
    (body ++ '}' :: rest).dropWhile isBlank = body.dropWhile isBlank ++ '}' :: rest := by
  induction body with
  | nil => rfl
  | cons c body ih =>
    rw [List.cons_append, List.dropWhile_cons, List.dropWhile_cons, ih]
    split <;> rfl

theorem takeWhile_blank_append (body rest : List Char) :
    (body ++ '}' :: rest).takeWhile isBlank = body.takeWhile isBlank := by
  induction body with
  | nil => rfl
  | cons c body ih =>
    rw [List.cons_append, List.takeWhile_cons, List.takeWhile_cons, ih]

/-- Where a placeholder ends does not depend on what follows it. -/
theorem placeholderBody?_iff {body rest : List Char} :
    placeholderBody? (body ++ '}' :: rest) = some (body, rest) ↔ IsBody body := by
  have split := List.takeWhile_append_dropWhile (p := isBlank) (l := body)
  unfold placeholderBody? IsBody
  rw [dropWhile_blank_append, takeWhile_blank_append]
  generalize body.takeWhile isBlank = blanks at split ⊢
  generalize body.dropWhile isBlank = core at split ⊢
  subst split
  cases core with
  | nil => simp [Placeholder.splitAt?, Closes]
  | cons c r =>
    by_cases hc : c = '#'
    · subst hc
      simp only [List.cons_append, Closes, Option.bind_eq_bind, Option.bind_eq_some_iff,
        Option.some.injEq, Prod.mk.injEq, Prod.exists]
      constructor
      · rintro ⟨between, s, h1, tail, s', h2, e, rfl⟩
        refine ⟨between, tail, ?_, Placeholder.splitAt?_not_mem h1, Placeholder.splitAt?_not_mem h2⟩
        simpa using e.symm
      · rintro ⟨between, tail, rfl, h1, h2⟩
        refine ⟨between, tail ++ '}' :: rest, ?_, tail, rest, Placeholder.splitAt?_append _ h2, ?_, rfl⟩
        · rw [List.append_assoc, List.cons_append]
          exact Placeholder.splitAt?_append _ h1
        · simp
    · rw [closes_of_ne hc, List.cons_append]
      split
      · next heq => cases heq; exact absurd rfl hc
      simp only [Option.bind_eq_bind, Option.bind_eq_some_iff, Option.some.injEq, Prod.mk.injEq,
        Prod.exists, List.append_cancel_left_eq]
      constructor
      · rintro ⟨tail, s, h, rfl, rfl⟩
        exact Placeholder.splitAt?_not_mem h
      · intro h
        exact ⟨c :: r, rest, Placeholder.splitAt?_append rest h, rfl, rfl⟩

/-! ## Well-formed segments -/

/-- The text that segments were read from. -/
def sources (segments : List Segment) : List Char := segments.flatMap source

@[simp] theorem sources_nil : sources [] = [] := rfl

@[simp] theorem sources_cons (segment : Segment) (rest : List Segment) :
    sources (segment :: rest) = segment.source ++ sources rest := List.flatMap_cons

@[simp] theorem sources_append (a b : List Segment) : sources (a ++ b) = sources a ++ sources b :=
  List.flatMap_append

/-- Segments that the scan can give: each is what it says by its own text and by what the next one
starts with. -/
inductive WellFormed (bracketed : Bool) : List Segment → Prop
  | nil : WellFormed bracketed []
  | literal {body : List Char} {rest : List Segment} (quote : '\'' ∉ body)
      (others : WellFormed bracketed rest) : WellFormed bracketed (.literal body :: rest)
  | comment {body : List Char} {rest : List Segment} (closes : IsCommentBody body)
      (others : WellFormed bracketed rest) : WellFormed bracketed (.comment body true :: rest)
  | openComment {body : List Char} (opens : commentBody body = (body, none)) :
      WellFormed bracketed [.comment body false]
  | escape {c : Char} {rest : List Segment} (brace : c = '{' ∨ c = '}')
      (others : WellFormed bracketed rest) : WellFormed bracketed (.escape (some c) :: rest)
  | bracket (bracket : bracketed = true) : WellFormed bracketed [.escape none]
  | placeholder {body : List Char} {meaning : Placeholder} {rest : List Segment}
      (closes : IsBody body) (means : Placeholder.ofBody body = .ok meaning)
      (others : WellFormed bracketed rest) :
      WellFormed bracketed (.placeholder body meaning :: rest)
  | plain {c : Char} {rest : List Segment} (special : c ∉ ['\'', '?', '{', '}'])
      (slash : c = '/' → (sources rest).head? ≠ some '*')
      (backslash : c = '\\' → (sources rest).head? ≠ some '{' ∧ (sources rest).head? ≠ some '}' ∧
        (bracketed = true → sources rest ≠ []))
      (others : WellFormed bracketed rest) : WellFormed bracketed (.plain c :: rest)

/-! ## What the scan reads first -/

section Scan

variable {bracketed : Bool} {offset : Nat}

theorem scan_literal {body : List Char} (after : List Char) (quote : '\'' ∉ body) :
    scan bracketed offset ('\'' :: (body ++ '\'' :: after)) =
      (scan bracketed (offset + byteLength body + 2) after >>= fun segments =>
        .ok (.literal body :: segments)) := by
  have ends := Placeholder.splitAt?_append after quote
  rw [scan]
  split
  · next heq => rw [ends] at heq; cases heq; rfl
  · next heq => rw [ends] at heq; cases heq

theorem scan_comment {body : List Char} (after : List Char) (closes : IsCommentBody body) :
    scan bracketed offset ('/' :: '*' :: (body ++ '*' :: '/' :: after)) =
      (scan bracketed (offset + byteLength body + 4) after >>= fun segments =>
        .ok (.comment body true :: segments)) := by
  have ends := commentBody_append after closes
  rw [scan]
  split
  · next heq => rw [ends] at heq; cases heq; rfl
  · next heq => rw [ends] at heq; cases heq

theorem scan_openComment {body : List Char} (opens : commentBody body = (body, none)) :
    scan bracketed offset ('/' :: '*' :: body) = .ok [.comment body false] := by
  rw [scan]
  split
  · next heq => rw [opens] at heq; cases heq
  · next heq => rw [opens] at heq; cases heq; rfl

theorem scan_escape {c : Char} (after : List Char) (brace : c = '{' ∨ c = '}') :
    scan bracketed offset ('\\' :: c :: after) =
      (scan bracketed (offset + 2) after >>= fun segments =>
        .ok (.escape (some c) :: segments)) := by
  rw [scan, if_pos (by simpa using brace)]

theorem scan_placeholder {body : List Char} {meaning : Placeholder} (after : List Char)
    (closes : IsBody body) (means : Placeholder.ofBody body = .ok meaning) :
    scan bracketed offset ('{' :: (body ++ '}' :: after)) =
      (scan bracketed (offset + byteLength body + 2) after >>= fun segments =>
        .ok (.placeholder body meaning :: segments)) := by
  have ends : placeholderBody? (body ++ '}' :: after) = some (body, after) :=
    placeholderBody?_iff.2 closes
  rw [scan]
  split
  · next heq => rw [ends] at heq; cases heq
  · next heq =>
    rw [ends] at heq
    cases heq
    rw [means]

/-- A backslash that escapes nothing and that no bracket follows stands for itself. -/
theorem scan_backslash {after : List Char}
    (escapes : after.head? ≠ some '{' ∧ after.head? ≠ some '}')
    (more : bracketed = true → after ≠ []) :
    scan bracketed offset ('\\' :: after) =
      (scan bracketed (offset + 1) after >>= fun segments => .ok (.plain '\\' :: segments)) := by
  cases after with
  | nil =>
    cases bracketed with
    | true => exact absurd rfl (more rfl)
    | false => rw [scan, scan]; rfl
  | cons c rest =>
    have apart : ¬ (decide (c = '{') || decide (c = '}')) = true := by
      simp only [Bool.or_eq_true, decide_eq_true_eq, not_or]
      exact ⟨fun e => escapes.1 (congrArg some e), fun e => escapes.2 (congrArg some e)⟩
    rw [scan, if_neg apart]

/-- A character that starts nothing. -/
theorem scan_plain {c : Char} {after : List Char} (special : c ∉ ['\'', '\\', '?', '{', '}'])
    (slash : c = '/' → after.head? ≠ some '*') :
    scan bracketed offset (c :: after) =
      (scan bracketed (offset + c.utf8Size) after >>= fun segments =>
        .ok (.plain c :: segments)) := by
  have apart : ∀ e ∈ ['\'', '\\', '?', '{', '}'], c ≠ e := fun e he h => special (h ▸ he)
  rw [scan.eq_def]
  split
  case h_1 heq => cases heq
  case h_3 heq =>
    rw [List.cons.injEq] at heq
    exact absurd (by rw [heq.2]; rfl) (slash heq.1)
  case h_9 heq => cases heq; rfl
  -- the other cases start with a character that is not plain
  all_goals
    next heq => exact absurd (List.cons.inj heq).1 (apart _ (by decide))

/-- A segment in front of what the scan reads behind it. -/
theorem sound_cons {segment : Segment} {scanned : Except TemplateFailure (List Segment)}
    {after : List Char} {segments : List Segment}
    (h : (scanned >>= fun others => .ok (segment :: others)) = .ok segments)
    (behind : ∀ {others : List Segment}, scanned = .ok others →
      WellFormed bracketed others ∧ sources others = after)
    (front : ∀ {others : List Segment}, WellFormed bracketed others → sources others = after →
      WellFormed bracketed (segment :: others)) :
    WellFormed bracketed segments ∧ sources segments = segment.source ++ after := by
  obtain ⟨others, read, h⟩ := bind_eq_ok.1 h
  cases h
  obtain ⟨wf, src⟩ := behind read
  exact ⟨front wf src, by rw [sources_cons, src]⟩

/-- The scan gives well-formed segments and loses nothing. -/
theorem scan_sound {cs : List Char} {segments : List Segment}
    (h : scan bracketed offset cs = .ok segments) :
    WellFormed bracketed segments ∧ sources segments = cs := by
  fun_induction scan bracketed offset cs generalizing segments with
  | case1 => cases h; exact ⟨.nil, rfl⟩
  | case2 offset rest body after split ih =>
    obtain ⟨wf, src⟩ := sound_cons h ih fun wf _ => .literal (Placeholder.splitAt?_not_mem split) wf
    refine ⟨wf, src.trans ?_⟩
    rw [Placeholder.splitAt?_eq split]
    simp [source]
  | case3 => cases h
  | case4 offset rest body after split ih =>
    obtain ⟨wf, src⟩ := sound_cons h ih fun wf _ =>
      .comment (isCommentBody_of_commentBody split) wf
    have whole := commentBody_eq rest
    refine ⟨wf, src.trans ?_⟩
    rw [whole, split]
    simp [source]
  | case5 offset rest body split =>
    cases h
    have whole := commentBody_open split
    subst whole
    exact ⟨.openComment split, by simp [source]⟩
  | case6 offset c rest brace ih =>
    exact sound_cons h ih fun wf _ => .escape (by simpa using brace) wf
  | case7 offset c rest brace ih =>
    have apart : c ≠ '{' ∧ c ≠ '}' := by simpa [not_or] using brace
    refine sound_cons h ih fun wf src => .plain (by decide) nofun (fun _ => ?_) wf
    rw [src]
    exact ⟨fun e => apart.1 (Option.some.inj e), fun e => apart.2 (Option.some.inj e), fun _ => nofun⟩
  | case8 offset =>
    cases h
    cases bracketed with
    | true => exact ⟨.bracket rfl, rfl⟩
    | false => exact ⟨.plain (by decide) nofun (fun _ => ⟨nofun, nofun, nofun⟩) .nil, rfl⟩
  | case9 => cases h
  | case10 => cases h
  | case11 => cases h
  | case12 => cases h
  | case13 offset rest body after split meaning means ih =>
    have whole := placeholderBody?_eq split
    subst whole
    obtain ⟨wf, src⟩ := sound_cons h ih fun wf _ =>
      .placeholder (placeholderBody?_iff.1 split) means wf
    refine ⟨wf, src.trans ?_⟩
    simp [source]
  | case14 offset c rest quote slash backslash last marker close opening ih =>
    refine sound_cons h ih fun wf src => .plain ?_ (fun e he => ?_) (fun e => ?_) wf
    · simp only [List.mem_cons, List.not_mem_nil, or_false, not_or]
      exact ⟨quote, marker, opening, close⟩
    · rw [src] at he
      obtain ⟨r, hr⟩ := List.head?_eq_some_iff.1 he
      exact slash r e hr
    · cases rest with
      | nil => exact (last e rfl).elim
      | cons d r => exact (backslash d r e rfl).elim

end Scan

/-- The scan reads well-formed segments back from their sources, wherever they start. -/
theorem scan_sources {bracketed : Bool} {segments : List Segment}
    (h : WellFormed bracketed segments) :
    ∀ offset : Nat, scan bracketed offset (sources segments) = .ok segments := by
  induction h with
  | nil => intro offset; rw [sources_nil, scan]
  | @literal body rest quote _ ih =>
    intro offset
    have text : sources (.literal body :: rest) = '\'' :: (body ++ '\'' :: sources rest) := by
      simp [source]
    rw [text, scan_literal _ quote, ih]
    rfl
  | @comment body rest closes _ ih =>
    intro offset
    have text : sources (.comment body true :: rest) = '/' :: '*' :: (body ++ '*' :: '/' :: sources rest) := by
      simp [source]
    rw [text, scan_comment _ closes, ih]
    rfl
  | @openComment body opens =>
    intro offset
    have text : sources [.comment body false] = '/' :: '*' :: body := by simp [source]
    rw [text, scan_openComment opens]
  | @escape c rest brace _ ih =>
    intro offset
    have text : sources (.escape (some c) :: rest) = '\\' :: c :: sources rest := by simp [source]
    rw [text, scan_escape _ brace, ih]
    rfl
  | bracket bracket =>
    intro offset
    have text : sources [.escape none] = ['\\'] := rfl
    rw [text, scan, if_pos bracket]
  | @placeholder body meaning rest closes means _ ih =>
    intro offset
    have text : sources (.placeholder body meaning :: rest) = '{' :: (body ++ '}' :: sources rest) := by
      simp [source]
    rw [text, scan_placeholder _ closes means, ih]
    rfl
  | @plain c rest special slash backslash _ ih =>
    intro offset
    have text : sources (.plain c :: rest) = c :: sources rest := rfl
    rw [text]
    by_cases hb : c = '\\'
    · subst hb
      obtain ⟨opening, closing, more⟩ := backslash rfl
      rw [scan_backslash ⟨opening, closing⟩ more, ih]
      rfl
    · have starts : c ∉ ['\'', '\\', '?', '{', '}'] := by
        simpa [hb] using special
      rw [scan_plain starts slash, ih]
      rfl

end Segment

end QueryMethods
