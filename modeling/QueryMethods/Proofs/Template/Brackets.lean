/-
Brackets of a call. Only the ends of a text decide whether its outer braces are taken for brackets.
Without outer braces a call reads the placeholders that plain syntax reads, and so it does where
brackets stand around a text. Where the outer braces are those of two placeholders they are taken
for brackets too, and what stands between them is read in their place.
-/
import QueryMethods.Proofs.Template.Grammar
import QueryMethods.Proofs.Template.Unrolling

namespace QueryMethods

open Text

/-! ## The same placeholders -/

/-- A result before it has a column or a marker. -/
def Template.Result.unplaced (r : Template.Result) : Template.Result := { r with slot := 0 }

namespace Template

/-- The same parameters and the same results in the same order. Numbers and text may differ. -/
structure Agrees (t t' : Template) : Prop where
  parameters : t.parameters.map (·.unplaced) = t'.parameters.map (·.unplaced)
  results : t.results.map (·.unplaced) = t'.results.map (·.unplaced)

/-- Without their numbers, the placeholders of one kind are the same whatever they share their
numbers with. -/
theorem numbered_unplaced {α : Type} {numbered : Nat → Placeholder → Option α} {unplace : α → α}
    {kind : Placeholder → Bool} (form : TemplateForm)
    (same : ∀ slot p, (numbered slot p).map unplace = numbered 0 p)
    (other : ∀ p, kind p = false → numbered 0 p = none) (all : List Placeholder) :
    (((numberedWith form kind all).zipIdx 1).filterMap fun (p, slot) => numbered slot p).map unplace =
      all.filterMap (numbered 0) := by
  have numberless (ps : List Placeholder) :
      ((ps.zipIdx 1).filterMap fun (p, slot) => numbered slot p).map unplace =
        ps.filterMap (numbered 0) := by
    rw [List.map_filterMap]
    calc (ps.zipIdx 1).filterMap (fun p => (numbered p.2 p.1).map unplace)
        = (ps.zipIdx 1).filterMap (numbered 0 ∘ Prod.fst) :=
          List.filterMap_congr fun p _ => same p.2 p.1
      _ = ps.filterMap (numbered 0) := by rw [← List.filterMap_map, List.zipIdx_map_fst]
  rw [numberless]
  cases form with
  | call => rfl
  | plain =>
    -- the placeholders of the other kind are filtered out, and have no number anyway
    unfold numberedWith
    rw [List.filterMap_filter]
    refine List.filterMap_congr fun p _ => ?_
    split
    · rfl
    · next no => exact (other p (Bool.not_eq_true _ ▸ no)).symm

/-- Templates agree where their segments hold the same placeholders. -/
theorem agrees_ofSegments {form form' : TemplateForm} {before before' after after' : List Char}
    {segments segments' : List Segment}
    (same : segments.filterMap Segment.meaning? = segments'.filterMap Segment.meaning?) :
    (ofSegments form before segments after).Agrees (ofSegments form' before' segments' after') := by
  have parameters (form : TemplateForm) (before after : List Char) (segments : List Segment) :
      (ofSegments form before segments after).parameters.map (·.unplaced) =
        (segments.filterMap Segment.meaning?).filterMap (·.parameter? 0) :=
    numbered_unplaced form (fun slot p => by cases p <;> rfl)
      (fun p hp => by cases p <;> first | rfl | cases hp) _
  have results (form : TemplateForm) (before after : List Char) (segments : List Segment) :
      (ofSegments form before segments after).results.map (·.unplaced) =
        (segments.filterMap Segment.meaning?).filterMap (·.result? 0) :=
    numbered_unplaced form (fun slot p => by cases p <;> rfl)
      (fun p hp => by cases p <;> first | rfl | cases hp) _
  exact ⟨by rw [parameters, parameters, same], by rw [results, results, same]⟩

/-! ## Between brackets -/

/-- A text with outer braces, but for white space. -/
def Bracketed (text : List Char) : Prop :=
  ∃ lead inner trail, Blanks lead ∧ Blanks trail ∧ text = lead ++ '{' :: (inner ++ '}' :: trail)

/-- A text keeps its placeholders when the closing bracket stands behind it. A backslash at its end
then escapes the bracket. -/
theorem Spells.enclosed {text : List Char} {segments : List Segment}
    (h : Spells false text segments) :
    ∃ segments', Spells true text segments' ∧
      segments'.filterMap Segment.meaning? = segments.filterMap Segment.meaning? := by
  induction h with
  | nil => exact ⟨[], .nil, rfl⟩
  | @plain c text _ special slash backslash behind ih =>
    obtain ⟨segments', spelled, same⟩ := ih
    -- only a backslash at the end of the text meets the bracket
    by_cases last : c = '\\' ∧ text = []
    · obtain ⟨rfl, rfl⟩ := last
      cases behind
      exact ⟨[.escape none], .bracket rfl, rfl⟩
    · refine ⟨.plain c :: segments', .plain special slash (fun e => ?_) spelled, same⟩
      obtain ⟨opening, closing, -⟩ := backslash e
      exact ⟨opening, closing, fun _ empty => last ⟨e, empty⟩⟩
  | escape which _ ih =>
    obtain ⟨segments', spelled, same⟩ := ih
    exact ⟨_, .escape which spelled, same⟩
  | bracket closing => cases closing
  | literal quote _ ih =>
    obtain ⟨segments', spelled, same⟩ := ih
    exact ⟨_, .literal quote spelled, same⟩
  | comment first _ ih =>
    obtain ⟨segments', spelled, same⟩ := ih
    exact ⟨_, .comment first spelled, same⟩
  | openComment never => exact ⟨_, .openComment never, rfl⟩
  | @placeholder _ _ meaning _ means _ ih =>
    obtain ⟨segments', spelled, same⟩ := ih
    exact ⟨_, .placeholder means spelled, congrArg (meaning :: ·) same⟩

/-! ## The braces of two placeholders -/

/-- A text that starts with one placeholder and ends with another, but for white space: the
segments that it falls into. -/
structure OuterPair where
  lead : List Char
  first : List Char
  firstMeaning : Placeholder
  between : List Segment
  last : List Char
  lastMeaning : Placeholder
  trail : List Char
  blankLead : Blanks lead
  blankTrail : Blanks trail

namespace OuterPair

def segments (o : OuterPair) : List Segment :=
  o.lead.map .plain ++ .placeholder o.first o.firstMeaning ::
    (o.between ++ .placeholder o.last o.lastMeaning :: o.trail.map .plain)

/-- What stands between the first brace and the last one. -/
def inner (o : OuterPair) : List Char :=
  o.first ++ '}' :: (Segment.sources o.between ++ '{' :: o.last)

end OuterPair

theorem sources_plain (text : List Char) : Segment.sources (text.map .plain) = text := by
  induction text with
  | nil => rfl
  | cons c text ih =>
    rw [List.map_cons, Segment.sources_cons, ih]
    rfl

/-- In a call the braces of the two placeholders are the brackets. -/
theorem OuterPair.framed {text : List Char} {o : OuterPair}
    (spelled : Spells false text o.segments) :
    Framed .call text (o.lead ++ ['{']) o.inner ('}' :: o.trail) := by
  have whole : text = o.lead ++ '{' :: (o.inner ++ '}' :: o.trail) := by
    rw [← (spells_iff_wellFormed.1 spelled).2]
    simp [segments, inner, sources_plain, Segment.source]
  rw [whole]
  exact .brackets o.blankLead o.blankTrail

/-! ## A closing brace alone -/

/-- Where nothing in front of a closing brace can take it, the scan stops at it, or at a bind
marker in front of it. -/
theorem scan_stops_at_brace (bracketed : Bool) (rest : List Char) :
    ∀ {run : List Char} (offset : Nat), (∀ c ∈ run, c ∉ ['\'', '/', '{', '\\']) →
    ∃ e, Segment.scan bracketed offset (run ++ '}' :: rest) = .error e ∧
      (e.fault = .unmatchedBrace ∨ e.fault = .bareMarker) ∧ e.offset ≤ offset + byteLength run
  | [], offset, _ =>
    ⟨⟨offset, .unmatchedBrace⟩, by rw [List.nil_append, Segment.scan], .inl rfl, le_rfl⟩
  | c :: run, offset, free => by
    obtain ⟨hc, others⟩ := List.forall_mem_cons.1 free
    rw [List.cons_append, byteLength_cons]
    by_cases marker : c = '?'
    · subst marker
      exact ⟨⟨offset, .bareMarker⟩, by rw [Segment.scan], .inr rfl, Nat.le_add_right _ _⟩
    by_cases closing : c = '}'
    · subst closing
      exact ⟨⟨offset, .unmatchedBrace⟩, by rw [Segment.scan], .inl rfl, Nat.le_add_right _ _⟩
    obtain ⟨e, stops, fault, place⟩ := scan_stops_at_brace bracketed rest (offset + c.utf8Size) others
    refine ⟨e, ?_, fault, by omega⟩
    have apart : ∀ d ∈ ['\'', '/', '{', '\\', '?', '}'], c ≠ d := by
      simp only [List.mem_cons, List.not_mem_nil, or_false, not_or] at hc
      simp [hc, marker, closing]
    rw [Segment.scan.eq_def]
    split
    case h_1 heq => cases heq
    case h_9 heq =>
      cases heq
      rw [stops]
      rfl
    -- the other cases start with a character that the run is free of
    all_goals
      next heq => exact absurd (List.cons.inj heq).1 (apart _ (by decide))

/-! ## Calls -/

/-- What a call makes of a text that plain syntax reads. -/
structure ReadAsCall (text : String) (t : Template) : Prop where
  /-- Without outer braces it reads the same placeholders. -/
  bare : ¬ Bracketed text.toList → ∃ t', read .call text = .ok t' ∧ t'.Agrees t
  /-- Between brackets it reads the same placeholders. -/
  enclosed : ∀ lead trail, Blanks lead → Blanks trail →
    ∃ t', read .call (String.ofList (lead ++ '{' :: (text.toList ++ '}' :: trail))) = .ok t' ∧
      t'.Agrees t
  /-- The outer braces of two placeholders are left in the text, and what stands between them is
  read instead. -/
  paired : ∀ o : OuterPair, Spells false text.toList o.segments → ∀ t', read .call text = .ok t' ↔
    ∃ segments, Spells true o.inner segments ∧
      t' = ofSegments .call (o.lead ++ ['{']) segments ('}' :: o.trail)
  /-- Unless something in the first placeholder can take the brace at its end, it is refused. -/
  refused : ∀ o : OuterPair, Spells false text.toList o.segments →
    (∀ c ∈ o.first, c ∉ ['\'', '/', '{', '\\']) →
    ∃ e, read .call text = .error e ∧ (e.fault = .unmatchedBrace ∨ e.fault = .bareMarker) ∧
      e.offset ≤ byteLength (o.lead ++ '{' :: o.first)

/-- A call reads what plain syntax reads if its outer braces are brackets or if there are none. The
braces of two placeholders are not told from brackets. -/
theorem call_brackets {text : String} {t : Template} (h : read .plain text = .ok t) :
    ReadAsCall text t := by
  obtain ⟨before, inner, after, segments, framed, spelled, rfl⟩ := read_iff_spells.1 h
  cases framed
  have spelled : Spells false text.toList segments := by simpa using spelled
  refine ⟨fun bare => ?_, fun lead trail blankLead blankTrail => ?_, fun o pair t' => ?_,
    fun o pair free => ?_⟩
  · have none : Framed .call text.toList [] text.toList [] :=
      .bare fun lead inner trail hl ht whole => bare ⟨lead, inner, trail, hl, ht, whole⟩
    exact ⟨_, read_iff_spells.2 ⟨_, _, _, segments, none, by simpa using spelled, rfl⟩,
      agrees_ofSegments rfl⟩
  · obtain ⟨segments', between, same⟩ := spelled.enclosed
    have framed : Framed .call (String.ofList (lead ++ '{' :: (text.toList ++ '}' :: trail))).toList
        (lead ++ ['{']) text.toList ('}' :: trail) := by
      rw [String.toList_ofList]
      exact .brackets blankLead blankTrail
    exact ⟨_, read_iff_spells.2 ⟨_, _, _, segments', framed, by simpa using between, rfl⟩,
      agrees_ofSegments same⟩
  · have brackets := OuterPair.framed pair
    rw [read_iff_spells]
    constructor
    · rintro ⟨before, inner, after, segments', framed, between, rfl⟩
      cases (outer_eq_iff_framed.2 framed).symm.trans (outer_eq_iff_framed.2 brackets)
      exact ⟨segments', by simpa using between, rfl⟩
    · rintro ⟨segments', between, rfl⟩
      exact ⟨_, _, _, segments', brackets, by simpa using between, rfl⟩
  · obtain ⟨e, stops, fault, place⟩ := scan_stops_at_brace (decide ('}' :: o.trail ≠ []))
      (Segment.sources o.between ++ '{' :: o.last) (byteLength (o.lead ++ ['{'])) free
    refine ⟨e, ?_, fault, by simpa [Nat.add_assoc] using place⟩
    rw [read_outer, outer_eq_iff_framed.2 (OuterPair.framed pair)]
    unfold readBetween OuterPair.inner
    rw [stops]
    rfl

/-- Brackets around a statement are left in the text. -/
theorem bracketed_transfer :
    ∃ t t', read .plain "call transfer(\x7b%1\x7d, \x7blong %2\x7d)" = .ok t ∧
      read .call "\x7bcall transfer(\x7b%1\x7d, \x7blong %2\x7d)\x7d" = .ok t' ∧ t'.Agrees t ∧
      t.parameters.length = 2 := by
  have two : (read .plain "call transfer(\x7b%1\x7d, \x7blong %2\x7d)").toOption.any
      (fun t => t.parameters.length == 2) = true := by decide +kernel
  obtain ⟨t, plain, count⟩ := exists_of_any two
  obtain ⟨t', called, agrees⟩ := (call_brackets plain).enclosed [] [] blanks_nil blanks_nil
  exact ⟨t, t', plain, called, agrees, beq_iff_eq.1 count⟩

/-- A sum that a result takes: the text between the placeholders, and the placeholders. -/
def assignedSum : OuterPair :=
  { lead := []
    first := "long %%".toList
    firstMeaning := .result (.value []) (some ⟨"long", false⟩)
    between := " := f(".toList.map .plain ++
      .placeholder "%1".toList (.parameter (.position 0) [] none none) :: ") + ".toList.map .plain
    last := "%2".toList
    lastMeaning := .parameter (.position 1) [] none none
    trail := []
    blankLead := blanks_nil
    blankTrail := blanks_nil }

/-- Plain syntax reads the three placeholders; a call refuses the text at the brace that ends the
first one. -/
theorem assigned_sum_refused :
    Spells false "\x7blong %%\x7d := f(\x7b%1\x7d) + \x7b%2\x7d".toList assignedSum.segments ∧
      (∃ t, read .plain "\x7blong %%\x7d := f(\x7b%1\x7d) + \x7b%2\x7d" = .ok t) ∧
      ∀ t', read .call "\x7blong %%\x7d := f(\x7b%1\x7d) + \x7b%2\x7d" ≠ .ok t' := by
  have segments : (Segment.scan false 0
      "\x7blong %%\x7d := f(\x7b%1\x7d) + \x7b%2\x7d".toList).toOption.any
        (fun segments => decide (segments = assignedSum.segments)) = true := by decide +kernel
  obtain ⟨segments, scanned, same⟩ := exists_of_any segments
  rw [of_decide_eq_true same] at scanned
  have spelled := scan_eq_ok.1 scanned
  have refused : (read .call "\x7blong %%\x7d := f(\x7b%1\x7d) + \x7b%2\x7d").toOption = none := by
    decide +kernel
  refine ⟨spelled, ⟨_, read_iff_spells.2 ⟨_, _, _, _, .plain, by simpa using spelled, rfl⟩⟩,
    fun t' h => ?_⟩
  rw [h] at refused
  cases refused

end Template

end QueryMethods
