/-
White space around a text: what trimming takes off is white space, and a text without white space
at its ends is all that trimming leaves.
-/
import QueryMethods.Text.Basic
import Mathlib.Data.List.TakeWhile

namespace QueryMethods.Text

/-! ## White space -/

/-- White space, or nothing. -/
def Blanks (cs : List Char) : Prop := ∀ c ∈ cs, isBlank c = true

instance (cs : List Char) : Decidable (Blanks cs) := List.decidableBAll _ _

theorem blanks_nil : Blanks [] := List.forall_mem_nil _

theorem Blanks.append {a b : List Char} (ha : Blanks a) (hb : Blanks b) : Blanks (a ++ b) := by
  intro c hc
  rcases List.mem_append.1 hc with hc | hc
  · exact ha c hc
  · exact hb c hc

theorem isBlank_ne {c : Char} (h : isBlank c = true) : c ≠ '\'' ∧ c ≠ '/' ∧ c ≠ '?' := by
  refine ⟨?_, ?_, ?_⟩ <;> rintro rfl <;> exact absurd h (by decide)

/-! ## Trimming -/

theorem trimStart_append (text : List Char) :
    ∃ blanks, text = blanks ++ trimStart text ∧ Blanks blanks :=
  ⟨text.takeWhile isBlank, List.takeWhile_append_dropWhile.symm,
    fun _ hc => List.mem_takeWhile_imp hc⟩

theorem trimEnd_append (text : List Char) :
    ∃ blanks, text = trimEnd text ++ blanks ∧ Blanks blanks := by
  refine ⟨(text.reverse.takeWhile isBlank).reverse, ?_, ?_⟩
  · have := congrArg List.reverse (List.takeWhile_append_dropWhile (p := isBlank) (l := text.reverse))
    rw [List.reverse_append, List.reverse_reverse] at this
    exact this.symm
  · intro c hc
    exact List.mem_takeWhile_imp (List.mem_reverse.1 hc)

theorem trim_append (text : List Char) :
    ∃ lead trail, text = lead ++ (trim text ++ trail) ∧ Blanks lead ∧ Blanks trail := by
  obtain ⟨lead, front, blankLead⟩ := trimStart_append text
  obtain ⟨trail, back, blankTrail⟩ := trimEnd_append (trimStart text)
  exact ⟨lead, trail, by rw [trim, ← back, ← front], blankLead, blankTrail⟩

theorem trim_blanks {text : List Char} (h : trim text = []) : Blanks text := by
  obtain ⟨lead, trail, whole, blankLead, blankTrail⟩ := trim_append text
  rw [h, List.nil_append] at whole
  rw [whole]
  exact blankLead.append blankTrail

/-! ## Solid texts -/

/-- A text that neither starts nor ends with white space. -/
structure Solid (text : List Char) : Prop where
  first : ∃ c rest, text = c :: rest ∧ isBlank c = false
  last : ∃ front c, text = front ++ [c] ∧ isBlank c = false

theorem dropWhile_blanks {blanks text : List Char} {c : Char} (h : Blanks blanks)
    (hc : isBlank c = false) : (blanks ++ c :: text).dropWhile isBlank = c :: text := by
  rw [List.dropWhile_append_of_pos h, List.dropWhile_cons, hc]
  rfl

theorem takeWhile_blanks {blanks text : List Char} {c : Char} (h : Blanks blanks)
    (hc : isBlank c = false) : (blanks ++ c :: text).takeWhile isBlank = blanks := by
  rw [List.takeWhile_append_of_pos h, List.takeWhile_cons, hc]
  exact List.append_nil blanks

theorem trimEnd_blanks (front : List Char) {blanks : List Char} {c : Char} (h : Blanks blanks)
    (hc : isBlank c = false) : trimEnd (front ++ [c] ++ blanks) = front ++ [c] := by
  have reversed : Blanks blanks.reverse := fun d hd => h d (List.mem_reverse.1 hd)
  unfold trimEnd
  rw [List.reverse_append, List.reverse_append, List.reverse_singleton, List.singleton_append,
    dropWhile_blanks reversed hc]
  simp

/-- Trimming takes off the white space around a solid text and no more. -/
theorem Solid.trim_around {lead text trail : List Char} (h : Solid text) (blankLead : Blanks lead)
    (blankTrail : Blanks trail) : trim (lead ++ (text ++ trail)) = text := by
  obtain ⟨c, rest, start, hc⟩ := h.first
  obtain ⟨front, d, stop, hd⟩ := h.last
  have ahead : trimStart (lead ++ (text ++ trail)) = text ++ trail := by
    rw [start]
    exact dropWhile_blanks blankLead hc
  rw [trim, ahead, stop]
  exact trimEnd_blanks front blankTrail hd

end QueryMethods.Text
