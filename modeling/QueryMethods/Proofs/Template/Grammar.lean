/-
The grammar of template texts. Reading accepts exactly the texts that the grammar spells: the
statement is the text with its escapes and placeholders replaced, and the placeholders are listed
from left to right.
-/
import QueryMethods.Proofs.Template.Reading
import QueryMethods.Proofs.Template.Spelling

namespace QueryMethods

open Text

/-! ## The grammar -/

/-- The texts of templates and the segments they fall into. `bracketed` says that the closing
bracket of a call stands behind the text. -/
inductive Template.Spells (bracketed : Bool) : List Char → List Segment → Prop
  | nil : Spells bracketed [] []
  /-- A slash does not open a comment here, and a backslash does not stand before a brace. -/
  | plain {c : Char} {text : List Char} {segments : List Segment} (special : c ∉ ['\'', '{', '}', '?'])
      (slash : c = '/' → text.head? ≠ some '*')
      (backslash : c = '\\' → text.head? ≠ some '{' ∧ text.head? ≠ some '}' ∧
        (bracketed = true → text ≠ []))
      (behind : Spells bracketed text segments) : Spells bracketed (c :: text) (.plain c :: segments)
  | escape {brace : Char} {text : List Char} {segments : List Segment} (which : brace = '{' ∨ brace = '}')
      (behind : Spells bracketed text segments) :
      Spells bracketed ('\\' :: brace :: text) (.escape (some brace) :: segments)
  /-- The escaped brace is the closing bracket itself. -/
  | bracket (closing : bracketed = true) : Spells bracketed ['\\'] [.escape none]
  | literal {body text : List Char} {segments : List Segment} (quote : '\'' ∉ body)
      (behind : Spells bracketed text segments) :
      Spells bracketed ('\'' :: (body ++ '\'' :: text)) (.literal body :: segments)
  /-- The sign that ends a comment is the first one. -/
  | comment {body text : List Char} {segments : List Segment} (first : ¬ ['*', '/'] <:+: body ++ ['*'])
      (behind : Spells bracketed text segments) :
      Spells bracketed ('/' :: '*' :: (body ++ '*' :: '/' :: text)) (.comment body true :: segments)
  /-- A comment that nothing ends runs to the end of the text. -/
  | openComment {body : List Char} (never : ¬ ['*', '/'] <:+: body) :
      Spells bracketed ('/' :: '*' :: body) [.comment body false]
  | placeholder {body text : List Char} {meaning : Placeholder} {segments : List Segment}
      (means : Placeholder.Spells body meaning) (behind : Spells bracketed text segments) :
      Spells bracketed ('{' :: (body ++ '}' :: text)) (.placeholder body meaning :: segments)

/-- What stands before the text of a template, the text and what stands behind it: in a call, outer
braces are taken for brackets if there are any. -/
inductive Template.Framed : TemplateForm → List Char → List Char → List Char → List Char → Prop
  | plain {text : List Char} : Framed .plain text [] text []
  | brackets {lead inner trail : List Char} (blankLead : Blanks lead) (blankTrail : Blanks trail) :
      Framed .call (lead ++ '{' :: (inner ++ '}' :: trail)) (lead ++ ['{']) inner ('}' :: trail)
  | bare {text : List Char}
      (none : ∀ lead inner trail, Blanks lead → Blanks trail →
        text ≠ lead ++ '{' :: (inner ++ '}' :: trail)) :
      Framed .call text [] text []

/-! ## What a text is replaced by -/

namespace Placeholder

/-- Whether it is a parameter. -/
def isParameter : Placeholder → Bool
  | .parameter _ _ _ _ => true
  | .result _ _ => false

/-- The parameter with a number. -/
def parameter? (slot : Nat) : Placeholder → Option Template.Parameter
  | .parameter argument path tag separator =>
    some ⟨slot, argument, path, tag, separator.getD Template.defaultSeparator⟩
  | .result _ _ => none

/-- The result with a number. -/
def result? (slot : Nat) : Placeholder → Option Template.Result
  | .parameter _ _ _ _ => none
  | .result place tag => some ⟨slot, place, tag⟩

end Placeholder

namespace Segment

/-- What stands for the segment in the statement. A result leaves a marker in a call only. -/
def replacement (form : TemplateForm) : Segment → List Char
  | .escape brace => brace.toList
  | .placeholder _ (.parameter _ _ _ _) => ['?']
  | .placeholder _ (.result _ _) => if form = .call then ['?'] else []
  | segment => segment.source

/-- What a placeholder says. -/
def meaning? : Segment → Option Placeholder
  | .placeholder _ meaning => some meaning
  | _ => none

end Segment

namespace Template

/-- The placeholders that share their numbers with those of one kind: in a call, where all take a
marker, all of them. -/
def numberedWith (form : TemplateForm) (kind : Placeholder → Bool) (all : List Placeholder) :
    List Placeholder :=
  match form with
  | .plain => all.filter kind
  | .call => all

/-- The template that segments give. -/
def ofSegments (form : TemplateForm) (before : List Char) (segments : List Segment)
    (after : List Char) : Template :=
  let all := segments.filterMap Segment.meaning?
  { sql := String.ofList (before ++ segments.flatMap (Segment.replacement form) ++ after)
    parameters := ((numberedWith form (·.isParameter) all).zipIdx 1).filterMap
      fun (placeholder, slot) => placeholder.parameter? slot
    results := ((numberedWith form (!·.isParameter) all).zipIdx 1).filterMap
      fun (placeholder, slot) => placeholder.result? slot }

end Template

/-! ## Comments -/

namespace Segment

theorem commentEnd_prefix_iff {c : Char} {cs : List Char} :
    ['*', '/'] <+: c :: cs ↔ c = '*' ∧ ∃ rest, cs = '/' :: rest := by
  rw [List.cons_prefix_cons]
  constructor
  · rintro ⟨rfl, rest, rfl⟩
    exact ⟨rfl, rest, rfl⟩
  · rintro ⟨rfl, rest, rfl⟩
    exact ⟨rfl, rest, rfl⟩

/-- A comment is open where nothing ends it. -/
theorem commentBody_open_iff {body : List Char} :
    commentBody body = (body, none) ↔ ¬ ['*', '/'] <:+: body := by
  fun_induction commentBody body with
  | case1 => simp
  | case2 rest => simp [List.infix_cons_iff]
  | case3 c rest apart ih =>
    have here : ¬ ['*', '/'] <+: c :: rest := by
      rw [commentEnd_prefix_iff]
      rintro ⟨rfl, r, rfl⟩
      exact apart r rfl rfl
    rw [List.infix_cons_iff, or_iff_right here, ← ih]
    constructor
    · intro h
      simp only [Prod.mk.injEq, List.cons.injEq, true_and] at h
      exact Prod.ext h.1 h.2
    · intro h
      rw [h]

/-- A comment is closed where the first sign that ends one stands. -/
theorem isCommentBody_iff {body : List Char} :
    IsCommentBody body ↔ ¬ ['*', '/'] <:+: body ++ ['*'] := by
  induction body with
  | nil => exact ⟨fun _ => by decide, fun _ => rfl⟩
  | cons c body ih =>
    -- the added star can only start the sign that ends the comment
    have here : ['*', '/'] <+: c :: (body ++ ['*']) ↔ c = '*' ∧ ∃ r, body = '/' :: r := by
      rw [commentEnd_prefix_iff]
      cases body with
      | nil => simp
      | cons d body => simp
    rw [List.cons_append, List.infix_cons_iff, not_or, here, ← ih]
    constructor
    · intro h
      exact ⟨fun ⟨star, r, slash⟩ => h.cons.2 star r slash, h.cons.1⟩
    · rintro ⟨apart, closes⟩
      unfold IsCommentBody
      rw [List.cons_append, commentBody_cons, closes]
      rintro r star slash
      cases body with
      | nil => cases slash
      | cons d body => exact apart ⟨star, body, by rw [(List.cons.inj slash).1]⟩

end Segment

/-! ## The scan -/

namespace Template

/-- The grammar spells the well-formed runs of segments from their sources. -/
theorem spells_iff_wellFormed {bracketed : Bool} {text : List Char} {segments : List Segment} :
    Spells bracketed text segments ↔
      Segment.WellFormed bracketed segments ∧ Segment.sources segments = text := by
  constructor
  · intro h
    induction h with
    | nil => exact ⟨.nil, rfl⟩
    | plain special slash backslash _ ih =>
      obtain ⟨wf, rfl⟩ := ih
      refine ⟨.plain ?_ slash backslash wf, rfl⟩
      simp only [List.mem_cons, List.not_mem_nil, or_false, not_or] at special ⊢
      exact ⟨special.1, special.2.2.2, special.2.1, special.2.2.1⟩
    | escape which _ ih =>
      obtain ⟨wf, rfl⟩ := ih
      exact ⟨.escape which wf, rfl⟩
    | bracket closing => exact ⟨.bracket closing, rfl⟩
    | literal quote _ ih =>
      obtain ⟨wf, rfl⟩ := ih
      exact ⟨.literal quote wf, by simp [Segment.source]⟩
    | comment first _ ih =>
      obtain ⟨wf, rfl⟩ := ih
      exact ⟨.comment (Segment.isCommentBody_iff.2 first) wf, by simp [Segment.source]⟩
    | openComment never =>
      exact ⟨.openComment (Segment.commentBody_open_iff.2 never), by simp [Segment.source]⟩
    | placeholder means _ ih =>
      obtain ⟨wf, rfl⟩ := ih
      refine ⟨.placeholder means.isBody (Placeholder.ofBody_eq_ok.2 means) wf, ?_⟩
      simp [Segment.source]
  · rintro ⟨wf, rfl⟩
    induction wf with
    | nil => exact .nil
    | literal quote _ ih => simpa [Segment.source] using Spells.literal quote ih
    | comment closes _ ih =>
      simpa [Segment.source] using Spells.comment (Segment.isCommentBody_iff.1 closes) ih
    | openComment opens =>
      simpa [Segment.source] using Spells.openComment (Segment.commentBody_open_iff.1 opens)
    | escape brace _ ih => exact .escape brace ih
    | bracket bracket => exact .bracket bracket
    | placeholder _ means _ ih =>
      simpa [Segment.source] using Spells.placeholder (Placeholder.ofBody_eq_ok.1 means) ih
    | plain special slash backslash _ ih =>
      refine .plain ?_ slash backslash ih
      simp only [List.mem_cons, List.not_mem_nil, or_false, not_or] at special ⊢
      exact ⟨special.1, special.2.2.1, special.2.2.2, special.2.1⟩

/-- The scan gives the segments that the grammar spells. -/
theorem scan_eq_ok {bracketed : Bool} {offset : Nat} {text : List Char} {segments : List Segment} :
    Segment.scan bracketed offset text = .ok segments ↔ Spells bracketed text segments := by
  rw [spells_iff_wellFormed]
  constructor
  · exact Segment.scan_sound
  · rintro ⟨wf, rfl⟩
    exact Segment.scan_sources wf offset

theorem outer_eq_iff_framed {form : TemplateForm} {text before inner after : List Char} :
    outer form text = (before, inner, after) ↔ Framed form text before inner after := by
  cases form with
  | plain =>
    constructor
    · rintro ⟨⟩
      exact .plain
    · rintro ⟨⟩
      rfl
  | call =>
    unfold outer
    dsimp only
    constructor
    · intro h
      cases found : brackets? text with
      | none =>
        rw [found] at h
        cases h
        refine .bare fun lead inner trail blankLead blankTrail whole => ?_
        rw [brackets?_eq_some.2 ⟨lead, trail, blankLead, blankTrail, whole, rfl, rfl⟩] at found
        cases found
      | some parts =>
        rw [found] at h
        cases h
        obtain ⟨lead, trail, blankLead, blankTrail, rfl, rfl, rfl⟩ := brackets?_eq_some.1 found
        exact .brackets blankLead blankTrail
    · intro h
      cases h with
      | brackets blankLead blankTrail =>
        rw [brackets?_eq_some.2 ⟨_, _, blankLead, blankTrail, rfl, rfl, rfl⟩]
        rfl
      | bare none =>
        cases found : brackets? text with
        | none => rfl
        | some parts =>
          obtain ⟨lead, trail, blankLead, blankTrail, whole, -, -⟩ := brackets?_eq_some.1 found
          exact absurd whole (none lead _ trail blankLead blankTrail)

/-! ## Assembly -/

theorem assemble_replacement (form : TemplateForm) : ∀ (segments : List Segment)
    (markers columns : Nat),
    (assemble form markers columns segments).text = segments.flatMap (Segment.replacement form)
  | [], _, _ => rfl
  | segment :: rest, markers, columns => by
    have ih := assemble_replacement form rest
    rw [List.flatMap_cons]
    cases segment with
    | placeholder body meaning =>
      cases meaning with
      | parameter _ _ _ _ => exact congrArg ('?' :: ·) (ih (markers + 1) columns)
      | result _ _ =>
        cases form with
        | plain => exact ih markers (columns + 1)
        | call => exact congrArg ('?' :: ·) (ih (markers + 1) columns)
    | plain _ | escape _ | literal _ | comment _ _ => exact congrArg (_ ++ ·) (ih markers columns)

theorem assemble_numbered_parameters (form : TemplateForm) :
    ∀ (segments : List Segment) (markers columns : Nat),
    (assemble form markers columns segments).parameters =
      ((numberedWith form (·.isParameter) (segments.filterMap Segment.meaning?)).zipIdx
        (markers + 1)).filterMap fun (placeholder, slot) => placeholder.parameter? slot
  | [], _, _ => by cases form <;> rfl
  | segment :: rest, markers, columns => by
    have ih := assemble_numbered_parameters form rest
    cases segment with
    | placeholder body meaning =>
      cases meaning with
      | parameter _ _ _ _ =>
        cases form with
        | plain => exact congrArg (_ :: ·) (ih (markers + 1) columns)
        | call => exact congrArg (_ :: ·) (ih (markers + 1) columns)
      | result _ _ =>
        cases form with
        | plain => exact ih markers (columns + 1)
        | call => exact ih (markers + 1) columns
    | plain _ | escape _ | literal _ | comment _ _ => exact ih markers columns

theorem assemble_numbered_results (form : TemplateForm) :
    ∀ (segments : List Segment) (markers columns : Nat),
    (assemble form markers columns segments).results =
      ((numberedWith form (!·.isParameter) (segments.filterMap Segment.meaning?)).zipIdx
        ((if form = .call then markers else columns) + 1)).filterMap
        fun (placeholder, slot) => placeholder.result? slot
  | [], _, _ => by cases form <;> rfl
  | segment :: rest, markers, columns => by
    have ih := assemble_numbered_results form rest
    cases segment with
    | placeholder body meaning =>
      cases meaning with
      | parameter _ _ _ _ => cases form <;> exact ih (markers + 1) columns
      | result _ _ =>
        cases form with
        | plain => exact congrArg (_ :: ·) (ih markers (columns + 1))
        | call => exact congrArg (_ :: ·) (ih (markers + 1) columns)
    | plain _ | escape _ | literal _ | comment _ _ => exact ih markers columns

/-- Reading accepts the texts that the grammar spells and no others, and gives the template that
their segments say. -/
theorem read_iff_spells {form : TemplateForm} {text : String} {t : Template} :
    read form text = .ok t ↔ ∃ before inner after segments,
      Framed form text.toList before inner after ∧ Spells (after ≠ []) inner segments ∧
        t = ofSegments form before segments after := by
  have given (before after : List Char) (segments : List Segment) :
      (⟨String.ofList (before ++ (assemble form 0 0 segments).text ++ after),
        (assemble form 0 0 segments).parameters, (assemble form 0 0 segments).results⟩ : Template) =
      ofSegments form before segments after := by
    rw [assemble_replacement, assemble_numbered_parameters, assemble_numbered_results, ite_self]
    rfl
  rw [read_outer]
  unfold readBetween
  rw [bind_eq_ok]
  constructor
  · rintro ⟨segments, scanned, h⟩
    cases h
    exact ⟨_, _, _, segments, outer_eq_iff_framed.1 rfl, scan_eq_ok.1 scanned, given _ _ _⟩
  · rintro ⟨before, inner, after, segments, framed, spelled, rfl⟩
    rw [outer_eq_iff_framed.2 framed]
    exact ⟨segments, scan_eq_ok.2 spelled, congrArg Except.ok (given _ _ _)⟩

end Template

end QueryMethods
