/-
The statement text of a template, laid out: what is left of the segments, with a group of markers
for each placeholder that takes one. Read as SQL, everything but the groups is passed in code, so
the groups are found where they were put.
-/
import QueryMethods.Proofs.Sql.Markers
import QueryMethods.Proofs.Template.Segments
import QueryMethods.Template.Basic

namespace QueryMethods

open Sql

/-- The markers that stand for one placeholder. -/
structure MarkerGroup where
  separator : List Char
  count : Nat

namespace MarkerGroup

/-- The single marker that every placeholder has at first. -/
def one : MarkerGroup := ⟨[], 1⟩

/-- The markers with the separator between each two. -/
def text (g : MarkerGroup) : List Char := joinedMarkers g.separator g.count

theorem text_of_count {g : MarkerGroup} (h : g.count = 1) : g.text = ['?'] := by
  unfold text
  rw [h]
  rfl

end MarkerGroup

namespace Segment

/-! ## Marks -/

/-- Whether the segment takes a marker, and whether it does so as a parameter. -/
def mark? (form : TemplateForm) : Segment → Option Bool
  | .placeholder _ (.parameter ..) => some true
  | .placeholder _ (.result ..) => if form = .call then some false else none
  | _ => none

/-- The marks of segments in order: which of them are parameters. -/
def marks (form : TemplateForm) (segments : List Segment) : List Bool :=
  segments.filterMap (mark? form)

/-- The groups for what follows a segment. -/
def behind (form : TemplateForm) (segment : Segment) (groups : List MarkerGroup) :
    List MarkerGroup :=
  if (segment.mark? form).isSome then groups.tail else groups

/-- What a segment leaves in the text, taking the first group if it takes a marker. -/
def written (form : TemplateForm) (segment : Segment) (groups : List MarkerGroup) : List Char :=
  if (segment.mark? form).isSome then (groups.headD .one).text else segment.sql

/-- The statement text, with the groups in the places of the markers. A placeholder for which there
is no group has one marker. -/
def layout (form : TemplateForm) : List Segment → List MarkerGroup → List Char
  | [], _ => []
  | segment :: rest, groups =>
    segment.written form groups ++ layout form rest (segment.behind form groups)

section

variable {form : TemplateForm} {segment : Segment} {rest : List Segment} {groups : List MarkerGroup}

theorem marks_cons_some {isParameter : Bool} (h : segment.mark? form = some isParameter) :
    marks form (segment :: rest) = isParameter :: marks form rest := List.filterMap_cons_some h

theorem marks_cons_none (h : segment.mark? form = none) :
    marks form (segment :: rest) = marks form rest := List.filterMap_cons_none h

theorem layout_cons_some {isParameter : Bool} (h : segment.mark? form = some isParameter)
    (g : MarkerGroup) :
    layout form (segment :: rest) (g :: groups) = g.text ++ layout form rest groups := by
  rw [layout, written, behind, h]
  rfl

theorem layout_cons_none (h : segment.mark? form = none) :
    layout form (segment :: rest) groups = segment.sql ++ layout form rest groups := by
  rw [layout, written, behind, h]
  rfl

end

/-- The layout depends on the texts of the groups only; one marker is what stands there without a
group. -/
theorem layout_congr {form : TemplateForm} : ∀ {segments : List Segment}
    {groups groups' : List MarkerGroup},
    (∀ n : Nat, (groups.getD n .one).text = (groups'.getD n .one).text) →
    layout form segments groups = layout form segments groups'
  | [], _, _, _ => rfl
  | segment :: rest, groups, groups', h => by
    have first : segment.written form groups = segment.written form groups' := by
      unfold written
      split
      · have := h 0
        cases groups <;> cases groups' <;> exact this
      · rfl
    have tail (n : Nat) : ((segment.behind form groups).getD n .one).text =
        ((segment.behind form groups').getD n .one).text := by
      unfold behind
      split
      · have := h (n + 1)
        cases groups <;> cases groups' <;> exact this
      · exact h n
    rw [layout, layout, first, layout_congr tail]

theorem layout_ones {form : TemplateForm} {segments : List Segment} {groups : List MarkerGroup}
    (h : ∀ g ∈ groups, g.count = 1) : layout form segments groups = layout form segments [] := by
  refine layout_congr fun n => ?_
  rw [List.getD_nil, List.getD_eq_getElem?_getD]
  cases hn : groups[n]? with
  | none => rfl
  | some g => exact MarkerGroup.text_of_count (h g (List.mem_of_getElem? hn))

/-- A group may be exchanged for one with the same text. -/
theorem layout_exchange {form : TemplateForm} {segments : List Segment}
    {done groups : List MarkerGroup} {g g' : MarkerGroup} (h : g.text = g'.text) :
    layout form segments (done ++ g :: groups) = layout form segments (done ++ g' :: groups) := by
  refine layout_congr fun n => ?_
  simp only [List.getD_eq_getElem?_getD, List.getElem?_append]
  split
  · rfl
  · cases n - done.length with
    | zero => exact h
    | succ k => rfl

/-- Assembling lays out single markers. -/
theorem assemble_text (form : TemplateForm) : ∀ (segments : List Segment) (markers columns : Nat),
    (Template.assemble form markers columns segments).text = layout form segments []
  | [], _, _ => rfl
  | segment :: rest, markers, columns => by
    have ih := assemble_text form rest
    cases segment with
    | placeholder body meaning =>
      cases meaning with
      | parameter argument path tag separator =>
        unfold Template.assemble
        dsimp only
        rw [ih]
        rfl
      | result place tag =>
        unfold Template.assemble
        cases form <;> (dsimp only; rw [ih]; rfl)
    | plain c => unfold Template.assemble; dsimp only; rw [ih]; rfl
    | escape brace => unfold Template.assemble; dsimp only; rw [ih]; rfl
    | literal body => unfold Template.assemble; dsimp only; rw [ih]; rfl
    | comment body closed => unfold Template.assemble; dsimp only; rw [ih]; rfl

/-! ## Reading single segments as SQL -/

theorem next_slash {m : SqlMode} (hm : m.isCode = true) : m.next '/' = .slash := by
  cases m <;> first | rfl | exact absurd hm (by decide)

theorem next_quote {m : SqlMode} (hm : m.isCode = true) : m.next '\'' = .literal := by
  cases m <;> first | rfl | exact absurd hm (by decide)

theorem countMarkers_outside {m : SqlMode} (hm : m.isCode = false) (c : Char) (rest : List Char) :
    countMarkers m (c :: rest) = countMarkers (m.next c) rest :=
  countMarkers_cons_of_not (SqlMode.isMarker_of_not_isCode hm c) rest

theorem literal_inside {body : List Char} (h : '\'' ∉ body) :
    countMarkers .literal (body ++ ['\'']) = 0 ∧ SqlMode.literal.after (body ++ ['\'']) = .code := by
  induction body with
  | nil => exact ⟨rfl, rfl⟩
  | cons c rest ih =>
    obtain ⟨hc, hr⟩ := not_or.1 (mt List.mem_cons.2 h)
    have next : SqlMode.literal.next c = .literal := if_neg (Ne.symm hc)
    rw [List.cons_append, countMarkers_outside rfl, SqlMode.after_cons, next]
    exact ih hr

theorem literal_in_code {body : List Char} (h : '\'' ∉ body) {m : SqlMode} (hm : m.isCode = true) :
    countMarkers m (literal body).sql = 0 ∧ m.after (literal body).sql = .code := by
  have text : (literal body).sql = '\'' :: (body ++ ['\'']) := rfl
  rw [text, countMarkers_cons_of_not (SqlMode.isMarker_of_ne (by decide) m), SqlMode.after_cons,
    next_quote hm]
  exact literal_inside h

/-- Behind a star a comment goes on, unless it ends or there is another star. -/
theorem next_commentStar {c : Char} (slash : c ≠ '/') (star : c ≠ '*') :
    SqlMode.commentStar.next c = .comment := by
  simp only [SqlMode.next, if_neg slash, if_neg star]

/-- A reader in a comment is back in code behind its end, wherever it stands. -/
theorem comment_inside {body : List Char} (h : IsCommentBody body) :
    (countMarkers .comment (body ++ ['*', '/']) = 0 ∧
      SqlMode.comment.after (body ++ ['*', '/']) = .code) ∧
    ((∀ r, body ≠ '/' :: r) → countMarkers .commentStar (body ++ ['*', '/']) = 0 ∧
      SqlMode.commentStar.after (body ++ ['*', '/']) = .code) := by
  induction body with
  | nil => exact ⟨⟨rfl, rfl⟩, fun _ => ⟨rfl, rfl⟩⟩
  | cons c rest ih =>
    obtain ⟨hr, apart⟩ := h.cons
    obtain ⟨inside, star⟩ := ih hr
    simp only [List.cons_append, countMarkers_outside (m := .comment) rfl,
      countMarkers_outside (m := .commentStar) rfl, SqlMode.after_cons]
    by_cases hc : c = '*'
    · subst hc
      exact ⟨star (apart rfl), fun _ => star (apart rfl)⟩
    · have next : SqlMode.comment.next c = .comment := if_neg hc
      refine ⟨by rw [next]; exact inside, fun slash => ?_⟩
      rw [next_commentStar (fun e => slash rest (by rw [e])) hc]
      exact inside

theorem comment_in_code {body : List Char} (h : IsCommentBody body) {m : SqlMode}
    (hm : m.isCode = true) :
    countMarkers m (comment body true).sql = 0 ∧ m.after (comment body true).sql = .code := by
  have text : (comment body true).sql = '/' :: '*' :: (body ++ ['*', '/']) := rfl
  have slash := SqlMode.isMarker_of_ne (c := '/') (by decide) m
  have star := SqlMode.isMarker_of_ne (c := '*') (by decide) .slash
  rw [text, countMarkers_cons_of_not slash, SqlMode.after_cons, next_slash hm,
    countMarkers_cons_of_not star, SqlMode.after_cons]
  exact (comment_inside h).1

/-- A comment that is not closed has no markers. -/
theorem openComment_inside {body : List Char} (h : commentBody body = (body, none)) :
    countMarkers .comment body = 0 ∧
      ((∀ r, body ≠ '/' :: r) → countMarkers .commentStar body = 0) := by
  induction body with
  | nil => exact ⟨rfl, fun _ => rfl⟩
  | cons c rest ih =>
    have apart : ∀ r, c = '*' → rest ≠ '/' :: r := by
      rintro r rfl rfl
      rw [commentBody] at h
      cases h
    rw [commentBody_cons apart] at h
    simp only [Prod.mk.injEq, List.cons.injEq, true_and] at h
    obtain ⟨inside, star⟩ := ih (Prod.ext h.1 h.2)
    simp only [countMarkers_outside (m := .comment) rfl,
      countMarkers_outside (m := .commentStar) rfl]
    by_cases hc : c = '*'
    · subst hc
      have behind := star fun r e => apart r rfl e
      exact ⟨behind, fun _ => behind⟩
    · have next : SqlMode.comment.next c = .comment := if_neg hc
      refine ⟨by rw [next]; exact inside, fun slash => ?_⟩
      rw [next_commentStar (fun e => slash rest (by rw [e])) hc]
      exact inside

theorem openComment_in_code {body : List Char} (h : commentBody body = (body, none)) {m : SqlMode}
    (hm : m.isCode = true) : countMarkers m (comment body false).sql = 0 := by
  have text : (comment body false).sql = '/' :: '*' :: body := by simp [sql, source]
  have slash := SqlMode.isMarker_of_ne (c := '/') (by decide) m
  have star := SqlMode.isMarker_of_ne (c := '*') (by decide) .slash
  rw [text, countMarkers_cons_of_not slash, next_slash hm, countMarkers_cons_of_not star]
  exact (openComment_inside h).1

/-! ## Reading the whole text as SQL -/

/-- No plain slash is followed by a star in the layout: together they would open a comment that the
template does not have. -/
def NoFalseComment (form : TemplateForm) : List Segment → List MarkerGroup → Prop
  | [], _ => True
  | segment :: rest, groups =>
    (segment = .plain '/' → (layout form rest (segment.behind form groups)).head? ≠ some '*') ∧
      NoFalseComment form rest (segment.behind form groups)

/-- Groups whose separators are passed in code. -/
def PlainGroups (groups : List MarkerGroup) : Prop :=
  ∀ g ∈ groups, IsPlainSeparator g.separator

theorem PlainGroups.behind {form : TemplateForm} {groups : List MarkerGroup} (h : PlainGroups groups)
    (segment : Segment) : PlainGroups (segment.behind form groups) := by
  unfold Segment.behind
  split
  · exact fun g hg => h g (List.mem_of_mem_tail hg)
  · exact h

theorem PlainGroups.headD {groups : List MarkerGroup} (h : PlainGroups groups) :
    IsPlainSeparator (groups.headD .one).separator := by
  cases groups with
  | nil => exact fun c hc => absurd hc List.not_mem_nil
  | cons g gs => exact h g List.mem_cons_self

/-- A group is passed in code; an empty one is no text at all. -/
theorem text_in_code {g : MarkerGroup} (plain : IsPlainSeparator g.separator) {m : SqlMode}
    (hm : m.isCode = true) :
    countMarkers m g.text = g.count ∧ (g.text = [] ∨ m.after g.text = .code) := by
  obtain ⟨count, after⟩ := joinedMarkers_in_code plain.code g.count hm
  refine ⟨count, ?_⟩
  by_cases zero : g.count = 0
  · left
    unfold MarkerGroup.text
    rw [zero]
    rfl
  · right
    rwa [if_neg zero] at after

section

variable {form : TemplateForm} {bracketed : Bool} {segment : Segment} {rest : List Segment}
  {groups : List MarkerGroup} {m : SqlMode}

variable (form) in
/-- A segment is passed in code, with the markers of its group. Only a comment that nothing ends is
not left again. -/
theorem written_in_code (wf : WellFormed bracketed (segment :: rest))
    (safe : (segment.mark? form).isSome = true → IsPlainSeparator (groups.headD .one).separator)
    (hm : m.isCode = true) (star : m = .slash → segment ≠ .plain '*') :
    countMarkers m (segment.written form groups) =
      (if (segment.mark? form).isSome then (groups.headD .one).count else 0) ∧
    ((∀ body, segment ≠ .comment body false) → (m.after (segment.written form groups)).isCode = true ∧
      (m.after (segment.written form groups) = .slash →
        segment = .plain '/' ∨ (segment.written form groups = [] ∧ m = .slash))) := by
  have code {cs : List Char} (h : m.after cs = .code) :
      (m.after cs).isCode = true ∧
        (m.after cs = .slash → segment = .plain '/' ∨ (cs = [] ∧ m = .slash)) := by
    rw [h]
    exact ⟨rfl, nofun⟩
  have nothing {cs : List Char} (h : cs = []) :
      (m.after cs).isCode = true ∧
        (m.after cs = .slash → segment = .plain '/' ∨ (cs = [] ∧ m = .slash)) := by
    subst h
    exact ⟨hm, fun slash => .inr ⟨rfl, slash⟩⟩
  cases wf with
  | literal quote _ =>
    obtain ⟨count, after⟩ := literal_in_code quote hm
    exact ⟨count, fun _ => code after⟩
  | comment closes _ =>
    obtain ⟨count, after⟩ := comment_in_code closes hm
    exact ⟨count, fun _ => code after⟩
  | openComment opens => exact ⟨openComment_in_code opens hm, fun h => absurd rfl (h _)⟩
  | @escape c _ brace _ =>
    have special : c ≠ '?' ∧ c ≠ '\'' ∧ c ≠ '/' ∧ c ≠ '*' := by
      rcases brace with rfl | rfl <;> decide
    have after : m.next c = .code :=
      SqlMode.next_of_isCode hm special.2.1 special.2.2.1 fun _ => special.2.2.2
    exact ⟨countMarkers_cons_of_not (SqlMode.isMarker_of_ne special.1 m) [], fun _ => code after⟩
  | bracket _ => exact ⟨rfl, fun _ => nothing rfl⟩
  | @placeholder body meaning _ _ _ _ =>
    unfold written
    split
    · next taken =>
      obtain ⟨count, empty | after⟩ := text_in_code (safe taken) hm
      · exact ⟨count, fun _ => nothing empty⟩
      · exact ⟨count, fun _ => code after⟩
    · exact ⟨rfl, fun _ => nothing rfl⟩
  | @plain c _ special _ _ _ =>
    simp only [List.mem_cons, List.not_mem_nil, or_false, not_or] at special
    refine ⟨countMarkers_cons_of_not (SqlMode.isMarker_of_ne special.2.1 m) [], fun _ => ?_⟩
    by_cases slash : c = '/'
    · subst slash
      have after : m.after ['/'] = .slash := next_slash hm
      exact ⟨by rw [show (Segment.plain '/').written form groups = ['/'] from rfl, after]; rfl,
        fun _ => .inl rfl⟩
    · refine code (SqlMode.next_of_isCode hm special.1 slash fun h e => ?_)
      exact star h (by rw [e])

theorem WellFormed.tail (wf : WellFormed bracketed (segment :: rest)) : WellFormed bracketed rest := by
  cases wf with
  | openComment _ | bracket _ => exact .nil
  | literal _ others | comment _ others | escape _ others | placeholder _ _ others
    | plain _ _ _ others => exact others

/-- A comment that nothing ends is the last segment. -/
theorem WellFormed.closed (wf : WellFormed bracketed (segment :: rest)) (more : rest ≠ []) :
    ∀ body, segment ≠ .comment body false := by
  rintro body rfl
  cases wf
  exact more rfl

/-- What is not a plain star to the layout is none to the reader. -/
theorem ne_star_of_layout (h : (layout form (segment :: rest) groups).head? ≠ some '*') :
    segment ≠ .plain '*' := by
  rintro rfl
  exact h rfl

theorem head_layout_of_written_nil (h : segment.written form groups = []) :
    layout form rest (segment.behind form groups) = layout form (segment :: rest) groups := by
  rw [layout, h, List.nil_append]

/-- A reader in code in front of a layout, which meets no comment that the segments do not have. -/
structure CodeAhead (form : TemplateForm) (bracketed : Bool) (m : SqlMode)
    (segments : List Segment) (groups : List MarkerGroup) : Prop where
  wellFormed : WellFormed bracketed segments
  code : m.isCode = true
  noFalse : NoFalseComment form segments groups
  /-- A slash that has been read does not open a comment. -/
  star : m = .slash → (layout form segments groups).head? ≠ some '*'

namespace CodeAhead

theorem start (wf : WellFormed bracketed rest) (noFalse : NoFalseComment form rest groups) :
    CodeAhead form bracketed .code rest groups := ⟨wf, rfl, noFalse, nofun⟩

/-- A segment adds the markers of its group. -/
theorem count (ahead : CodeAhead form bracketed m (segment :: rest) groups)
    {groups' : List MarkerGroup} (safe : PlainGroups groups') :
    countMarkers m (segment.written form groups') =
      if (segment.mark? form).isSome then (groups'.headD .one).count else 0 :=
  (written_in_code form ahead.wellFormed (fun _ => safe.headD) ahead.code
    fun h => ne_star_of_layout (ahead.star h)).1

/-- Behind a segment the reader is in code again, in front of the rest of the layout. -/
theorem step (ahead : CodeAhead form bracketed m (segment :: rest) groups)
    (safe : (segment.mark? form).isSome = true → IsPlainSeparator (groups.headD .one).separator)
    (closed : ∀ body, segment ≠ .comment body false) :
    CodeAhead form bracketed (m.after (segment.written form groups)) rest
      (segment.behind form groups) := by
  obtain ⟨code, slash⟩ := (written_in_code form ahead.wellFormed safe ahead.code
    fun h => ne_star_of_layout (ahead.star h)).2 closed
  refine ⟨ahead.wellFormed.tail, code, ahead.noFalse.2, fun h => ?_⟩
  rcases slash h with plain | ⟨nothing, before⟩
  · exact ahead.noFalse.1 plain
  · rw [head_layout_of_written_nil nothing]
    exact ahead.star before

end CodeAhead

/-! ## Groups that the segments take -/

section

variable {done : List MarkerGroup} (own : (segment.mark? form).isSome = true → done ≠ [])
include own

theorem written_append (others : List MarkerGroup) :
    segment.written form (done ++ others) = segment.written form done := by
  unfold written
  split
  · next taken =>
    obtain ⟨d, ds, rfl⟩ := List.exists_cons_of_ne_nil (own taken)
    rfl
  · rfl

theorem behind_append (others : List MarkerGroup) :
    segment.behind form (done ++ others) = segment.behind form done ++ others := by
  unfold behind
  split
  · next taken => exact List.tail_append_of_ne_nil (own taken)
  · rfl

/-- A segment takes as many groups as it has marks. -/
theorem length_behind (rest : List Segment) : (marks form (segment :: rest)).length +
    (segment.behind form done).length = done.length + (marks form rest).length := by
  unfold behind
  cases taken : segment.mark? form with
  | none =>
    rw [marks_cons_none taken]
    exact Nat.add_comm _ _
  | some isParameter =>
    obtain ⟨d, ds, rfl⟩ := List.exists_cons_of_ne_nil (own (by rw [taken]; rfl))
    rw [marks_cons_some taken]
    simp only [Option.isSome_some, if_true, List.tail_cons, List.length_cons]
    omega

theorem sum_count_behind : (if (segment.mark? form).isSome then (done.headD .one).count else 0) +
    ((segment.behind form done).map (·.count)).sum = (done.map (·.count)).sum := by
  unfold behind
  split
  · next taken =>
    obtain ⟨d, ds, rfl⟩ := List.exists_cons_of_ne_nil (own taken)
    rfl
  · exact Nat.zero_add _

end

end

/-- A group stands in the place of its placeholder, behind as many markers as the groups before it
have, in code. -/
theorem layout_split {form : TemplateForm} {bracketed : Bool} {groups : List MarkerGroup}
    (g : MarkerGroup) : ∀ {segments : List Segment} {done : List MarkerGroup} {m : SqlMode},
    CodeAhead form bracketed m segments (done ++ g :: groups) → PlainGroups done →
    done.length < (marks form segments).length →
    ∃ before segment behind, segments = before ++ segment :: behind ∧
      (segment.mark? form).isSome = true ∧ (marks form before).length = done.length ∧
      countMarkers m (layout form before done) = (done.map (·.count)).sum ∧
      (m.after (layout form before done)).isCode = true ∧
      ∀ g', layout form segments (done ++ g' :: groups) =
        layout form before done ++ g'.text ++ layout form behind groups
  | [], done, _, _, _, more => absurd more (Nat.not_lt_zero _)
  | segment :: rest, done, m, ahead, safe, more => by
    by_cases here : (segment.mark? form).isSome = true ∧ done = []
    · obtain ⟨taken, rfl⟩ := here
      refine ⟨[], segment, rest, rfl, taken, rfl, rfl, ahead.code, fun g' => ?_⟩
      obtain ⟨isParameter, mark⟩ := Option.isSome_iff_exists.1 taken
      rw [List.nil_append, layout_cons_some mark]
      rfl
    · -- the segment takes its group, if any, from those before
      have own : (segment.mark? form).isSome = true → done ≠ [] := fun taken none => here ⟨taken, none⟩
      have safe' : (segment.mark? form).isSome = true →
          IsPlainSeparator ((done ++ g :: groups).headD .one).separator := by
        intro taken
        obtain ⟨d, ds, rfl⟩ := List.exists_cons_of_ne_nil (own taken)
        exact safe.headD
      have length := length_behind own rest
      have some : rest ≠ [] := by
        rintro rfl
        have : (marks form ([] : List Segment)).length = 0 := rfl
        omega
      have ahead' := ahead.step safe' (ahead.wellFormed.closed some)
      rw [written_append own, behind_append own] at ahead'
      obtain ⟨before, taker, after, rfl, taken, length', count, code, split⟩ :=
        layout_split g ahead' (safe.behind segment) (by omega)
      refine ⟨segment :: before, taker, after, rfl, taken, ?_, ?_, ?_, fun g' => ?_⟩
      · have := length_behind own before
        omega
      · rw [layout, countMarkers_append, ahead.count safe, count, sum_count_behind own]
      · rwa [layout, SqlMode.after_append]
      · rw [layout, layout, written_append own, behind_append own, split, List.append_assoc,
          List.append_assoc, List.append_assoc]

/-- The layout has as many markers as its groups. -/
theorem countMarkers_layout {form : TemplateForm} {bracketed : Bool} :
    ∀ {segments : List Segment} {groups : List MarkerGroup} {m : SqlMode},
    CodeAhead form bracketed m segments groups → PlainGroups groups →
    groups.length = (marks form segments).length →
    countMarkers m (layout form segments groups) = (groups.map (·.count)).sum
  | [], groups, m, _, _, all => by
    rw [List.eq_nil_of_length_eq_zero all]
    rfl
  | segment :: rest, groups, m, ahead, safe, all => by
    have own : (segment.mark? form).isSome = true → groups ≠ [] := by
      rintro taken rfl
      obtain ⟨isParameter, mark⟩ := Option.isSome_iff_exists.1 taken
      rw [marks_cons_some mark] at all
      cases all
    have length := length_behind own rest
    have all' : (segment.behind form groups).length = (marks form rest).length := by omega
    rw [layout, countMarkers_append, ahead.count safe, ← sum_count_behind own]
    congr 1
    by_cases some : rest = []
    · subst some
      rw [List.eq_nil_of_length_eq_zero all']
      rfl
    · exact countMarkers_layout
        (ahead.step (fun _ => safe.headD) (ahead.wellFormed.closed some)) (safe.behind segment) all'

/-- A reader is in code behind the layout, unless a comment is left open. -/
theorem isCode_after_layout {form : TemplateForm} {bracketed : Bool} :
    ∀ {segments : List Segment} {groups : List MarkerGroup} {m : SqlMode},
    CodeAhead form bracketed m segments groups → PlainGroups groups →
    (∀ body, .comment body false ∉ segments) → (m.after (layout form segments groups)).isCode = true
  | [], _, _, ahead, _, _ => ahead.code
  | segment :: rest, groups, m, ahead, safe, closed => by
    have ahead' := ahead.step (fun _ => safe.headD) fun body e => closed body (e ▸ List.mem_cons_self)
    rw [layout, SqlMode.after_append]
    exact isCode_after_layout ahead' (safe.behind segment) fun body hb =>
      closed body (List.mem_cons_of_mem _ hb)

/-! ## Replacing in the layout -/

/-- A single marker of the layout, found by the number of markers before it, becomes a group. -/
theorem replaceMarker_layout {form : TemplateForm} {bracketed : Bool} {segments : List Segment}
    {before after : List Char} {done groups : List MarkerGroup} {g : MarkerGroup}
    (wf : WellFormed bracketed segments) (safe : PlainGroups done) (single : g.count = 1)
    (noFalse : NoFalseComment form segments (done ++ g :: groups))
    (more : done.length < (marks form segments).length)
    (markless : countMarkers .code before = 0) (code : SqlMode.code.after before = .code)
    (k : Nat) (separator : String) :
    replaceMarker (String.ofList (before ++ layout form segments (done ++ g :: groups) ++ after))
        ((done.map (·.count)).sum + 1) k separator =
      String.ofList (before ++
        layout form segments (done ++ ⟨separator.toList, k⟩ :: groups) ++ after) := by
  obtain ⟨front, taker, behind, -, -, -, count, code', split⟩ :=
    layout_split g (.start wf noFalse) safe more
  have count' : countMarkers .code (before ++ layout form front done) = (done.map (·.count)).sum := by
    rw [countMarkers_append, markless, code, count]
    exact Nat.zero_add _
  have inCode : (SqlMode.code.after (before ++ layout form front done)).isCode = true := by
    rwa [SqlMode.after_append, code]
  have text : before ++ layout form segments (done ++ g :: groups) ++ after =
      (before ++ layout form front done) ++ '?' :: (layout form behind groups ++ after) := by
    rw [split, MarkerGroup.text_of_count single]
    simp
  rw [text, replaceMarker_append count' inCode, split]
  simp [MarkerGroup.text]

/-! ## Slashes -/

/-- What starts with no star in the template starts with none in the layout, as long as all that
vanishes is at the end. -/
theorem head_layout {form : TemplateForm} {bracketed : Bool} {segments : List Segment}
    {groups : List MarkerGroup} (wf : WellFormed bracketed segments)
    (head : (sources segments).head? ≠ some '*')
    (stays : ∀ body meaning rest, segments = .placeholder body meaning :: rest →
      (Segment.placeholder body meaning).written form groups ≠ []) :
    (layout form segments groups).head? ≠ some '*' := by
  cases wf with
  | nil => nofun
  | literal _ _ => rintro h; cases h
  | comment _ _ => rintro h; cases h
  | openComment _ => rintro h; cases h
  | @escape c _ brace _ =>
    intro h
    have hc : c = '*' := Option.some.inj h
    rcases brace with rfl | rfl <;> exact absurd hc (by decide)
  | bracket _ => nofun
  | plain _ _ _ _ => exact head
  | @placeholder body meaning rest _ _ _ =>
    have some := stays body meaning rest rfl
    rw [layout, List.head?_append_of_ne_nil _ some]
    unfold written at some ⊢
    split
    · next hs =>
      rw [if_pos hs] at some
      have count : (groups.headD .one).count ≠ 0 := by
        intro zero
        apply some
        unfold MarkerGroup.text
        rw [zero]
        rfl
      obtain ⟨text, ht⟩ := joinedMarkers_head (groups.headD .one).separator count
      rw [MarkerGroup.text, ht]
      nofun
    · next hs => rw [if_neg hs] at some; exact absurd rfl some

/-- A layout has no false comments if no placeholder behind a plain slash vanishes. -/
theorem noFalseComment_of {form : TemplateForm} {bracketed : Bool} :
    ∀ {segments : List Segment} {groups : List MarkerGroup}, WellFormed bracketed segments →
    (∀ a b body meaning, segments = a ++ .plain '/' :: .placeholder body meaning :: b →
      ∀ groups' ⊆ groups, (Segment.placeholder body meaning).written form groups' ≠ []) →
    NoFalseComment form segments groups
  | [], _, _, _ => trivial
  | segment :: rest, groups, wf, stays => by
    have sub : segment.behind form groups ⊆ groups := by
      unfold behind
      split
      · exact fun g hg => List.mem_of_mem_tail hg
      · exact fun g hg => hg
    constructor
    · rintro rfl
      cases wf with
      | plain _ slash _ others =>
        refine head_layout others (slash rfl) ?_
        rintro body meaning r rfl
        exact stays [] r body meaning rfl _ sub
    · refine noFalseComment_of wf.tail ?_
      rintro a b body meaning rfl groups' hg
      exact stays (segment :: a) b body meaning rfl groups' (List.Subset.trans hg sub)

/-- If every placeholder takes a marker and no group is empty, no slash is exposed. -/
theorem noFalseComment_of_nonempty {form : TemplateForm} {bracketed : Bool}
    {segments : List Segment} {groups : List MarkerGroup} (wf : WellFormed bracketed segments)
    (all : ∀ body meaning, .placeholder body meaning ∈ segments →
      ((Segment.placeholder body meaning).mark? form).isSome = true)
    (nonempty : ∀ g ∈ groups, g.count ≠ 0) : NoFalseComment form segments groups := by
  refine noFalseComment_of wf ?_
  rintro a b body meaning rfl groups' sub
  have taken := all body meaning (by simp)
  have count : (groups'.headD .one).count ≠ 0 := by
    cases groups' with
    | nil => exact Nat.one_ne_zero
    | cons g _ => exact nonempty g (sub List.mem_cons_self)
  obtain ⟨text, ht⟩ := joinedMarkers_head (groups'.headD .one).separator count
  unfold written
  rw [if_pos taken, MarkerGroup.text, ht]
  nofun

end Segment

end QueryMethods
