/-
Unrolling a list in a template: every placeholder of the list becomes one placeholder for each of
some names, with its separator between them. The result is a template again, it has the same
results, and with single markers it is laid out like the list written out.
-/
import QueryMethods.Proofs.Template.Layout
import QueryMethods.Proofs.Template.Placeholders

namespace QueryMethods

open Sql Text

namespace Segment

/-! ## Writing out a list -/

/-- A placeholder for a named parameter. -/
def named (tag : Option Tag) (path : List String) (name : String) : Segment :=
  .placeholder (Placeholder.parameterText tag name path) (.parameter (.name name) path tag none)

/-- Segments with a separator between each two. -/
def joined (separator : List Char) : List Segment → List Segment
  | [] => []
  | [segment] => [segment]
  | segment :: next :: rest => segment :: (separator.map .plain ++ joined separator (next :: rest))

/-- A placeholder of a listed argument becomes one placeholder for each name. -/
def unroll (listed : ArgumentSelector → Bool) (names : List String) : Segment → List Segment
  | .placeholder body (.parameter argument path tag separator) =>
    if listed argument then
      joined (separator.getD Template.defaultSeparator).toList (names.map (named tag path))
    else [.placeholder body (.parameter argument path tag separator)]
  | segment => [segment]

/-- Every placeholder of a listed argument is written out. -/
def unrolled (listed : ArgumentSelector → Bool) (names : List String) (segments : List Segment) :
    List Segment := segments.flatMap (unroll listed names)

/-! ## Placeholders in order -/

/-- The parameter of a placeholder, before it has a marker. -/
def parameter? : Segment → Option Template.Parameter
  | .placeholder _ (.parameter argument path tag separator) =>
    some ⟨0, argument, path, tag, separator.getD Template.defaultSeparator⟩
  | _ => none

/-- The result of a placeholder. -/
def result? : Segment → Option (ResultPlace × Option Tag)
  | .placeholder _ (.result place tag) => some (place, tag)
  | _ => none

/-- The parameters in order, before they have markers. -/
def parameters (segments : List Segment) : List Template.Parameter := segments.filterMap parameter?

/-- Whether the segment is a placeholder. -/
def isPlaceholder : Segment → Bool
  | .placeholder _ _ => true
  | _ => false

/-- No placeholder stands right behind a slash. -/
def slashFree : List Segment → Bool
  | [] => true
  | segment :: rest =>
    (segment ≠ .plain '/' || !(rest.head?.any isPlaceholder)) && slashFree rest

end Segment

/-- A parameter before it has a marker. -/
def Template.Parameter.unplaced (p : Template.Parameter) : Template.Parameter := { p with slot := 0 }

/-- A listed parameter becomes one parameter for each name. -/
def Template.Parameter.unroll (listed : ArgumentSelector → Bool) (names : List String)
    (p : Template.Parameter) : List Template.Parameter :=
  if listed p.argument then
    names.map fun name => ⟨0, .name name, p.path, p.tag, Template.defaultSeparator⟩
  else [p]

/-- Results in the columns behind the first ones. -/
def Template.inColumns : Nat → List (ResultPlace × Option Tag) → List Template.Result
  | _, [] => []
  | columns, (place, tag) :: rest => ⟨columns + 1, place, tag⟩ :: inColumns (columns + 1) rest

namespace Segment

theorem mem_parameters_cons {segment : Segment} {rest : List Segment} {p : Template.Parameter}
    (h : p ∈ parameters rest) : p ∈ parameters (segment :: rest) := by
  unfold parameters
  rw [List.filterMap_cons]
  split
  · exact h
  · exact List.mem_cons_of_mem _ h

theorem parameters_slot {segments : List Segment} {p : Template.Parameter}
    (h : p ∈ parameters segments) : p.slot = 0 := by
  obtain ⟨segment, -, hp⟩ := List.mem_filterMap.1 h
  unfold parameter? at hp
  split at hp <;> cases hp
  rfl

theorem mark_plain (segment : Segment) :
    segment.mark? .plain = segment.parameter?.map fun _ => true := by
  cases segment with
  | placeholder body meaning => cases meaning <;> rfl
  | plain _ | escape _ | literal _ | comment _ _ => rfl

theorem marks_plain_length (segments : List Segment) :
    (marks .plain segments).length = (parameters segments).length := by
  have eq : marks .plain segments = (parameters segments).map fun _ => true := by
    unfold marks parameters
    rw [List.map_filterMap]
    exact List.filterMap_congr fun segment _ => mark_plain segment
  rw [eq, List.length_map]

/-- Assembling puts markers on the parameters. -/
theorem assemble_unplaced : ∀ (segments : List Segment) (markers columns : Nat),
    (Template.assemble .plain markers columns segments).parameters.map (·.unplaced) =
      parameters segments
  | [], _, _ => rfl
  | segment :: rest, markers, columns => by
    have ih := assemble_unplaced rest
    cases segment with
    | placeholder body meaning =>
      cases meaning with
      | parameter argument path tag separator => exact congrArg (_ :: ·) (ih (markers + 1) columns)
      | result place tag => exact ih markers (columns + 1)
    | plain _ | escape _ | literal _ | comment _ _ => exact ih markers columns

/-- In plain text the markers do not matter to the results. -/
theorem assemble_results : ∀ (segments : List Segment) (markers columns : Nat),
    (Template.assemble .plain markers columns segments).results =
      Template.inColumns columns (segments.filterMap result?)
  | [], _, _ => rfl
  | segment :: rest, markers, columns => by
    have ih := assemble_results rest
    cases segment with
    | placeholder body meaning =>
      cases meaning with
      | parameter argument path tag separator => exact ih (markers + 1) columns
      | result place tag => exact congrArg (_ :: ·) (ih markers (columns + 1))
    | plain _ | escape _ | literal _ | comment _ _ => exact ih markers columns

/-! ## Placeholders of an unrolled template -/

section

variable (listed : ArgumentSelector → Bool) (names : List String)

theorem filterMap_separator {β : Type} {f : Segment → Option β} (h : ∀ c, f (.plain c) = none)
    (separator : List Char) : (separator.map Segment.plain).filterMap f = [] := by
  rw [List.filterMap_map]
  exact List.filterMap_eq_nil_iff.2 fun c _ => h c

theorem filterMap_joined {β : Type} {f : Segment → Option β} (h : ∀ c, f (.plain c) = none)
    (separator : List Char) : ∀ segments : List Segment,
    (joined separator segments).filterMap f = segments.filterMap f
  | [] => rfl
  | [segment] => rfl
  | segment :: next :: rest => by
    have ih := filterMap_joined h separator (next :: rest)
    rw [joined, ← List.singleton_append, List.filterMap_append, List.filterMap_append,
      filterMap_separator h, ih, List.nil_append, ← List.filterMap_append]
    rfl

theorem unroll_parameter (body : List Char) (argument : ArgumentSelector) (path : List String)
    (tag : Option Tag) (separator : Option String) :
    unroll listed names (.placeholder body (.parameter argument path tag separator)) =
      if listed argument then
        joined (separator.getD Template.defaultSeparator).toList (names.map (named tag path))
      else [.placeholder body (.parameter argument path tag separator)] := rfl

theorem parameters_unroll (segment : Segment) :
    (segment.unroll listed names).filterMap parameter? =
      segment.parameter?.toList.flatMap (Template.Parameter.unroll listed names) := by
  cases segment with
  | placeholder body meaning =>
    cases meaning with
    | parameter argument path tag separator =>
      rw [unroll_parameter]
      unfold parameter? Template.Parameter.unroll
      simp only [Option.toList_some, List.flatMap_singleton]
      split
      · rw [filterMap_joined fun _ => rfl, List.filterMap_map, ← List.filterMap_eq_map]
        rfl
      · rfl
    | result place tag => rfl
  | plain _ | escape _ | literal _ | comment _ _ => rfl

theorem results_unroll (segment : Segment) :
    (segment.unroll listed names).filterMap result? = segment.result?.toList := by
  cases segment with
  | placeholder body meaning =>
    cases meaning with
    | parameter argument path tag separator =>
      rw [unroll_parameter]
      split
      · rw [filterMap_joined fun _ => rfl, List.filterMap_map]
        exact List.filterMap_eq_nil_iff.2 fun _ _ => rfl
      · rfl
    | result place tag => rfl
  | plain _ | escape _ | literal _ | comment _ _ => rfl

theorem parameters_unrolled (segments : List Segment) :
    parameters (unrolled listed names segments) =
      (parameters segments).flatMap (Template.Parameter.unroll listed names) := by
  unfold parameters unrolled
  rw [List.filterMap_flatMap, List.filterMap_eq_flatMap_toList parameter?, List.flatMap_assoc]
  exact List.flatMap_congr fun segment _ => parameters_unroll listed names segment

theorem results_unrolled (segments : List Segment) :
    (unrolled listed names segments).filterMap result? = segments.filterMap result? := by
  unfold unrolled
  rw [List.filterMap_flatMap, List.filterMap_eq_flatMap_toList]
  exact List.flatMap_congr fun segment _ => results_unroll listed names segment

end

/-! ## The unrolled template is a template -/

section

variable {rest : List Segment}

theorem wellFormed_separator {separator : List Char} (plain : IsPlainSeparator separator)
    (others : WellFormed false rest) :
    WellFormed false (separator.map .plain ++ rest) := by
  induction separator with
  | nil => exact others
  | cons c cs ih =>
    obtain ⟨hc, hcs⟩ := List.forall_mem_cons.1 plain
    simp only [List.mem_cons, List.not_mem_nil, or_false, not_or] at hc
    obtain ⟨quote, opening, closing, marker, slash, backslash⟩ := hc
    refine .plain ?_ (fun e => absurd e slash) (fun e => absurd e backslash) (ih hcs)
    simp only [List.mem_cons, List.not_mem_nil, or_false, not_or]
    exact ⟨quote, marker, opening, closing⟩

variable {tag : Option Tag} {path : List String} (ht : ∀ t, tag = some t → Placeholder.IsTag t)
  (hp : ∀ field ∈ path, Placeholder.IsField field)

include ht hp

theorem wellFormed_named {name : String} (hn : Placeholder.IsName name)
    (others : WellFormed false rest) : WellFormed false (named tag path name :: rest) := by
  refine .placeholder ?_ (Placeholder.ofBody_parameterText ht hn hp) others
  obtain ⟨c, cs, start, solid, sign⟩ := Placeholder.parameterText_start ht name path
  have closed := Placeholder.parameterText_closes ht hn.1 hp
  unfold IsBody
  rw [start] at closed ⊢
  rw [List.dropWhile_cons, solid]
  exact (closes_of_ne sign).2 closed

theorem wellFormed_joined {separator : List Char} (plain : IsPlainSeparator separator) :
    ∀ {names : List String}, (∀ name ∈ names, Placeholder.IsName name) → WellFormed false rest →
    WellFormed false (joined separator (names.map (named tag path)) ++ rest)
  | [], _, others => others
  | [name], hn, others => wellFormed_named ht hp (hn name (List.mem_singleton_self name)) others
  | name :: next :: names, hn, others => by
    obtain ⟨first, more⟩ := List.forall_mem_cons.1 hn
    have ih := wellFormed_joined plain more others
    have text : joined separator ((name :: next :: names).map (named tag path)) ++ rest =
        named tag path name :: (separator.map .plain ++
          (joined separator ((next :: names).map (named tag path)) ++ rest)) := by
      simp [joined]
    rw [text]
    exact wellFormed_named ht hp first (wellFormed_separator plain ih)

end

section

variable {listed : ArgumentSelector → Bool} {names : List String}

theorem unroll_of_not_placeholder {segment : Segment} (h : segment.isPlaceholder = false) :
    segment.unroll listed names = [segment] := by
  cases segment with
  | placeholder body meaning => cases h
  | plain _ | escape _ | literal _ | comment _ _ => rfl

theorem source_ne_nil (segment : Segment) : segment.source ≠ [] := by
  cases segment <;> simp [source]

/-- Unrolling leaves the start of a template alone that does not start with a placeholder. -/
theorem head_unrolled {segments : List Segment}
    (h : segments.head?.any isPlaceholder = false) :
    (sources (unrolled listed names segments)).head? = (sources segments).head? := by
  cases segments with
  | nil => rfl
  | cons segment rest =>
    have apart : segment.isPlaceholder = false := h
    have text : unrolled listed names (segment :: rest) = segment :: unrolled listed names rest := by
      unfold unrolled
      rw [List.flatMap_cons, unroll_of_not_placeholder apart]
      rfl
    rw [text, sources_cons, sources_cons, List.head?_append_of_ne_nil _ (source_ne_nil segment),
      List.head?_append_of_ne_nil _ (source_ne_nil segment)]

/-- An unrolled template is a template. -/
theorem WellFormed.unrolled (valid : ∀ name ∈ names, Placeholder.IsName name) :
    ∀ {segments : List Segment}, WellFormed false segments → slashFree segments = true →
    (∀ p ∈ parameters segments, listed p.argument = true → IsPlainSeparator p.separator.toList) →
    WellFormed false (Segment.unrolled listed names segments)
  | [], _, _, _ => WellFormed.nil
  | segment :: rest, wf, free, safe => by
    obtain ⟨first, others⟩ := Bool.and_eq_true_iff.1 free
    have ih := WellFormed.unrolled valid wf.tail others fun p hp => safe p (mem_parameters_cons hp)
    have text : Segment.unrolled listed names (segment :: rest) =
        segment.unroll listed names ++ Segment.unrolled listed names rest := List.flatMap_cons
    rw [text]
    cases wf with
    | literal quote _ => exact .literal quote ih
    | comment closes _ => exact .comment closes ih
    | openComment opens => exact .openComment opens
    | escape brace _ => exact .escape brace ih
    | bracket bracket => cases bracket
    | @placeholder body meaning _ closes means _ =>
      cases meaning with
      | parameter argument path tag separator =>
        rw [unroll_parameter]
        split
        · next hl =>
          obtain ⟨ht, hp⟩ := Placeholder.ofBody_parts means
          exact wellFormed_joined ht hp (safe _ List.mem_cons_self hl) valid ih
        · exact .placeholder closes means ih
      | result place tag => exact .placeholder closes means ih
    | @plain c _ special slash backslash _ =>
      have head (h : rest.head?.any isPlaceholder = false) :
          (sources (Segment.unrolled listed names rest)).head? = (sources rest).head? :=
        head_unrolled h
      refine .plain special (fun e => ?_) (fun e => ?_) ih
      · have apart : rest.head?.any isPlaceholder = false := by
          simpa [e] using first
        show (sources (Segment.unrolled listed names rest)).head? ≠ some '*'
        rw [head apart]
        exact slash e
      · -- a backslash before a placeholder would escape its brace
        obtain ⟨opening, closing, -⟩ := backslash e
        have apart : rest.head?.any isPlaceholder = false := by
          cases rest with
          | nil => rfl
          | cons next _ =>
            cases next with
            | placeholder _ _ => exact absurd rfl opening
            | plain _ | escape _ | literal _ | comment _ _ => rfl
        show (sources (Segment.unrolled listed names rest)).head? ≠ some '{' ∧
          (sources (Segment.unrolled listed names rest)).head? ≠ some '}' ∧ (false = true → _)
        rw [head apart]
        exact ⟨opening, closing, nofun⟩

/-! ## Slashes -/

/-- Without placeholders behind slashes no layout has a false comment. -/
theorem noFalseComment_of_slashFree {form : TemplateForm} {bracketed : Bool}
    {segments : List Segment} (wf : WellFormed bracketed segments)
    (free : slashFree segments = true) (groups : List MarkerGroup) :
    NoFalseComment form segments groups := by
  refine noFalseComment_of wf ?_
  rintro a b body meaning rfl
  have exposed : slashFree (a ++ .plain '/' :: .placeholder body meaning :: b) = false := by
    induction a with
    | nil => rfl
    | cons segment rest ih =>
      show (_ && slashFree (rest ++ _)) = false
      rw [ih (wf.tail) (Bool.and_eq_true_iff.1 free).2]
      exact Bool.and_false _
  rw [exposed] at free
  cases free

theorem slashFree_append {a b : List Segment} (h : ∀ segment ∈ a, segment ≠ .plain '/')
    (free : slashFree b = true) : slashFree (a ++ b) = true := by
  induction a with
  | nil => exact free
  | cons segment rest ih =>
    obtain ⟨hs, hr⟩ := List.forall_mem_cons.1 h
    show ((decide (segment ≠ .plain '/') || _) && slashFree (rest ++ b)) = true
    rw [ih hr, decide_eq_true hs]
    rfl

theorem mem_joined {separator : List Char} {segment : Segment} : ∀ {segments : List Segment},
    segment ∈ joined separator segments → segment ∈ segments ∨ ∃ c ∈ separator, segment = .plain c
  | [], h => absurd h List.not_mem_nil
  | [_], h => .inl h
  | first :: next :: rest, h => by
    rw [joined, List.mem_cons, List.mem_append] at h
    rcases h with rfl | h | h
    · exact .inl List.mem_cons_self
    · obtain ⟨c, hc, rfl⟩ := List.mem_map.1 h
      exact .inr ⟨c, hc, rfl⟩
    · exact (mem_joined h).imp_left (List.mem_cons_of_mem _)

/-- Unrolling puts no placeholder behind a slash. -/
theorem slashFree_unrolled : ∀ {segments : List Segment}, slashFree segments = true →
    (∀ p ∈ parameters segments, listed p.argument = true → IsPlainSeparator p.separator.toList) →
    slashFree (unrolled listed names segments) = true
  | [], _, _ => rfl
  | segment :: rest, free, safe => by
    obtain ⟨first, others⟩ := Bool.and_eq_true_iff.1 free
    have ih := slashFree_unrolled others fun p hp => safe p (mem_parameters_cons hp)
    have text : unrolled listed names (segment :: rest) =
        segment.unroll listed names ++ unrolled listed names rest := List.flatMap_cons
    rw [text]
    by_cases slash : segment = .plain '/'
    · subst slash
      have apart : rest.head?.any isPlaceholder = false := by simpa using first
      have apart' : (unrolled listed names rest).head?.any isPlaceholder = false := by
        cases rest with
        | nil => rfl
        | cons next more =>
          have hn : next.isPlaceholder = false := apart
          unfold unrolled
          rw [List.flatMap_cons, unroll_of_not_placeholder hn]
          exact hn
      show ((_ || !((unrolled listed names rest).head?.any isPlaceholder)) &&
        slashFree (unrolled listed names rest)) = true
      rw [apart', ih]
      simp
    · refine slashFree_append (fun s hs => ?_) ih
      cases segment with
      | placeholder body meaning =>
        cases meaning with
        | parameter argument path tag separator =>
          rw [unroll_parameter] at hs
          split at hs
          · next hl =>
            have plain : IsPlainSeparator (separator.getD Template.defaultSeparator).toList :=
              safe _ List.mem_cons_self hl
            rcases mem_joined hs with hs | ⟨c, hc, rfl⟩
            · obtain ⟨name, -, rfl⟩ := List.mem_map.1 hs
              nofun
            · rintro e
              cases e
              exact plain '/' hc (by decide)
          · rw [List.mem_singleton.1 hs]
            nofun
        | result place tag =>
          rw [List.mem_singleton.1 hs]
          exact slash
      | plain _ | escape _ | literal _ | comment _ _ =>
        rw [List.mem_singleton.1 hs]
        exact slash

/-! ## The layout -/

theorem layout_separator (separator : List Char) (rest : List Segment) (groups : List MarkerGroup) :
    layout .plain (separator.map .plain ++ rest) groups =
      separator ++ layout .plain rest groups := by
  induction separator with
  | nil => rfl
  | cons c cs ih => exact congrArg (c :: ·) ih

/-- Placeholders that are written out are laid out like the markers of a list. -/
theorem layout_joined (separator : List Char) (tag : Option Tag) (path : List String)
    (rest : List Segment) (groups : List MarkerGroup) : ∀ (names : List String)
    (singles : List MarkerGroup), singles.length = names.length → (∀ g ∈ singles, g.count = 1) →
    layout .plain (joined separator (names.map (named tag path)) ++ rest) (singles ++ groups) =
      joinedMarkers separator names.length ++ layout .plain rest groups
  | [], [], _, _ => rfl
  | [name], [g], _, one => by
    have mark : (named tag path name).mark? .plain = some true := rfl
    show layout .plain (named tag path name :: rest) (g :: groups) = _
    rw [layout_cons_some mark, MarkerGroup.text_of_count (one g (List.mem_singleton_self g))]
    rfl
  | name :: next :: names, g :: g' :: singles, length, one => by
    obtain ⟨first, others⟩ := List.forall_mem_cons.1 one
    have ih := layout_joined separator tag path rest groups (next :: names) (g' :: singles)
      (Nat.succ.inj length) others
    have mark : (named tag path name).mark? .plain = some true := rfl
    have text : joined separator ((name :: next :: names).map (named tag path)) ++ rest =
        named tag path name :: (separator.map .plain ++
          (joined separator ((next :: names).map (named tag path)) ++ rest)) := by
      simp [joined]
    rw [text, List.cons_append, layout_cons_some mark, MarkerGroup.text_of_count first,
      layout_separator, ih]
    simp [joinedMarkers]

variable (listed names) in
/-- The markers of a placeholder, and the markers of what it is unrolled to. -/
def Unrolls (p : Template.Parameter) (group : MarkerGroup) (groups : List MarkerGroup) : Prop :=
  if listed p.argument then
    group = ⟨p.separator.toList, names.length⟩ ∧ groups.length = names.length ∧
      ∀ g ∈ groups, g.count = 1
  else groups = [group]

/-- A template with a list written out is laid out like the unrolled template. -/
theorem layout_unrolled : ∀ (segments : List Segment)
    {units : List (MarkerGroup × List MarkerGroup)},
    List.Forall₂ (fun p unit => Unrolls listed names p unit.1 unit.2) (parameters segments) units →
    layout .plain (unrolled listed names segments) (units.flatMap (·.2)) =
      layout .plain segments (units.map (·.1))
  | [], units, h => by
    rw [List.forall₂_nil_left_iff.1 h]
    rfl
  | segment :: rest, units, h => by
    have text : unrolled listed names (segment :: rest) =
        segment.unroll listed names ++ unrolled listed names rest := List.flatMap_cons
    have alone (single : segment.unroll listed names = [segment]) (mark : segment.mark? .plain = none)
        (same : parameters (segment :: rest) = parameters rest) :
        layout .plain (unrolled listed names (segment :: rest)) (units.flatMap (·.2)) =
          layout .plain (segment :: rest) (units.map (·.1)) := by
      rw [same] at h
      rw [text, single, List.singleton_append, layout_cons_none mark, layout_cons_none mark,
        layout_unrolled rest h]
    cases segment with
    | placeholder body meaning =>
      cases meaning with
      | parameter argument path tag separator =>
        have first : parameters (.placeholder body (.parameter argument path tag separator) :: rest) =
          ⟨0, argument, path, tag, separator.getD Template.defaultSeparator⟩ :: parameters rest := rfl
        have mark : (placeholder body (.parameter argument path tag separator)).mark? .plain =
          some true := rfl
        rw [first] at h
        cases h with
        | @cons _ unit _ units unrolls others =>
          have ih := layout_unrolled rest others
          unfold Unrolls at unrolls
          rw [text, unroll_parameter, List.flatMap_cons, List.map_cons, layout_cons_some mark]
          split
          · next hl =>
            rw [if_pos hl] at unrolls
            obtain ⟨group, length, single⟩ := unrolls
            rw [layout_joined _ tag path _ _ names unit.2 length single, group, ih]
            rfl
          · next hl =>
            rw [if_neg hl] at unrolls
            rw [unrolls, List.singleton_append, List.singleton_append, layout_cons_some mark, ih]
      | result place tag => exact alone rfl rfl rfl
    | plain _ | escape _ | literal _ | comment _ _ => exact alone rfl rfl rfl

end

end Segment

end QueryMethods
