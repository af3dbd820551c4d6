/-
Reading a template: what stands around its text, how the text is cut up, and what is made of it.
-/
import QueryMethods.Proofs.Result
import QueryMethods.Proofs.Template.Layout
import QueryMethods.Proofs.Text.Blank

namespace QueryMethods

open Text

namespace Template

/-- What stands around the text of a template: nothing, or the brackets of a call. -/
structure Around (before after : List Char) : Prop where
  code : ∀ c ∈ before, c ≠ '\'' ∧ c ≠ '/'
  noMarkerBefore : '?' ∉ before
  noMarkerAfter : '?' ∉ after

theorem Around.nothing : Around [] [] := ⟨nofun, nofun, nofun⟩

/-- The brackets of a call are the first and the last of its text but for white space. -/
theorem brackets?_eq_some {cs before inner after : List Char} :
    brackets? cs = some (before, inner, after) ↔
      ∃ lead trail, Blanks lead ∧ Blanks trail ∧ cs = lead ++ '{' :: (inner ++ '}' :: trail) ∧
        before = lead ++ ['{'] ∧ after = '}' :: trail := by
  constructor
  · intro h
    unfold brackets? at h
    split at h
    · next rest first =>
      dsimp only at h
      split at h
      · next last =>
        cases h
        obtain ⟨trail, whole, blankTrail⟩ := trimEnd_append rest
        have inside := List.dropLast_append_getLast? _ last
        have back : rest.drop (trimEnd rest).length = trail := by
          conv_lhs => arg 2; rw [whole]
          exact List.drop_left
        refine ⟨cs.takeWhile isBlank, trail, fun c hc => List.mem_takeWhile_imp hc, blankTrail, ?_,
          rfl, by rw [back]⟩
        calc cs = cs.takeWhile isBlank ++ '{' :: rest := by
              rw [← first, List.takeWhile_append_dropWhile]
          _ = cs.takeWhile isBlank ++ '{' :: ((trimEnd rest).dropLast ++ '}' :: trail) := by
              conv_lhs => rw [whole, ← inside]
              simp
      · cases h
    · cases h
  · rintro ⟨lead, trail, blankLead, blankTrail, rfl, rfl, rfl⟩
    have solid : isBlank '{' = false ∧ isBlank '}' = false := by decide
    have inside : trimEnd (inner ++ '}' :: trail) = inner ++ ['}'] := by
      simpa using trimEnd_blanks inner blankTrail solid.2
    unfold brackets?
    rw [dropWhile_blanks blankLead solid.1, takeWhile_blanks blankLead solid.1]
    simp [inside]

theorem brackets?_eq {cs before inner after : List Char}
    (h : brackets? cs = some (before, inner, after)) :
    cs = before ++ inner ++ after ∧ Around before after := by
  obtain ⟨lead, trail, blankLead, blankTrail, rfl, rfl, rfl⟩ := brackets?_eq_some.1 h
  have front : ∀ c ∈ lead ++ ['{'], c ≠ '\'' ∧ c ≠ '/' ∧ c ≠ '?' := by
    intro c hc
    rcases List.mem_append.1 hc with hc | hc
    · exact isBlank_ne (blankLead c hc)
    · rw [List.mem_singleton.1 hc]
      decide
  refine ⟨by simp, fun c hc => ⟨(front c hc).1, (front c hc).2.1⟩,
    fun hc => (front _ hc).2.2 rfl, ?_⟩
  intro hc
  rcases List.mem_cons.1 hc with hc | hc
  · exact absurd hc (by decide)
  · exact (isBlank_ne (blankTrail _ hc)).2.2 rfl

/-- The text of a template between what is kept as it is. -/
def outer (form : TemplateForm) (cs : List Char) : List Char × List Char × List Char :=
  match form with
  | .plain => ([], cs, [])
  | .call => (brackets? cs).getD ([], cs, [])

theorem read_outer (form : TemplateForm) (text : String) :
    read form text = readBetween form (outer form text.toList).1 (outer form text.toList).2.1
      (outer form text.toList).2.2 := by
  cases form with
  | plain => rfl
  | call =>
    unfold read outer
    dsimp only
    cases brackets? text.toList <;> rfl

theorem outer_eq (form : TemplateForm) (cs : List Char) :
    cs = (outer form cs).1 ++ (outer form cs).2.1 ++ (outer form cs).2.2 ∧
      Around (outer form cs).1 (outer form cs).2.2 := by
  cases form with
  | plain => exact ⟨(List.append_nil cs).symm, .nothing⟩
  | call =>
    unfold outer
    dsimp only
    cases h : brackets? cs with
    | none => exact ⟨(List.append_nil cs).symm, .nothing⟩
    | some parts => exact brackets?_eq h

/-- How a template is cut up: what is kept in front, its segments, and what is kept behind. -/
structure Cut (form : TemplateForm) (text : String) (before : List Char) (segments : List Segment)
    (after : List Char) : Prop where
  outer : Template.outer form text.toList = (before, Segment.sources segments, after)
  scanned : Segment.scan (after ≠ []) (byteLength before) (Segment.sources segments) = .ok segments

section

variable {form : TemplateForm} {text : String} {before : List Char} {segments : List Segment}
  {after : List Char}

theorem Cut.whole (h : Cut form text before segments after) :
    text.toList = before ++ Segment.sources segments ++ after := by
  have whole := (outer_eq form text.toList).1
  rwa [h.outer] at whole

theorem Cut.around (h : Cut form text before segments after) : Around before after := by
  have around := (outer_eq form text.toList).2
  rwa [h.outer] at around

theorem Cut.wellFormed (h : Cut form text before segments after) :
    Segment.WellFormed (after ≠ []) segments := (Segment.scan_sound h.scanned).1

end

/-- A template that is read: it is cut up, and its text is laid out with single markers. -/
theorem read_eq_ok {form : TemplateForm} {text : String} {t : Template} :
    read form text = .ok t ↔ ∃ before segments after, Cut form text before segments after ∧
      t = ⟨String.ofList (before ++ Segment.layout form segments [] ++ after),
        (assemble form 0 0 segments).parameters, (assemble form 0 0 segments).results⟩ := by
  rw [read_outer]
  unfold readBetween
  rw [bind_eq_ok]
  constructor
  · rintro ⟨segments, hs, h⟩
    cases h
    have src := (Segment.scan_sound hs).2
    refine ⟨_, segments, _, ⟨by rw [src], by rw [src]; exact hs⟩, ?_⟩
    rw [Segment.assemble_text]
  · rintro ⟨before, segments, after, cut, rfl⟩
    rw [cut.outer]
    refine ⟨segments, cut.scanned, ?_⟩
    dsimp only
    rw [Segment.assemble_text]

end Template

end QueryMethods
