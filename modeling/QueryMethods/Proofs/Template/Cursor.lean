/-
Templates read by a cursor. It moves over the bytes of the text one by one, cuts literal text and
placeholders out by slices, and may look at the byte behind the part that it reads. Where that part
lies and where a placeholder ends is found by searching slices; it is where trimming and splitting
the characters say that it is.
-/
import QueryMethods.Proofs.Template.Grammar
import QueryMethods.Proofs.Template.Slices

namespace QueryMethods

open Text

/-! ## Definitions -/

/-- The part of a text that is read: where it starts and ends, and whether there are brackets around
it. -/
def Template.bounds? (form : TemplateForm) (cs : List Char) : Option (Nat × Nat × Bool) :=
  match form with
  | .plain => some (0, byteLength cs, false)
  | .call => do
    let leading ← sub? (byteLength cs) (byteLength (trimStart cs))
    let trailing := byteLength (trimEnd cs)
    let trimmed := trim cs
    if 2 ≤ byteLength trimmed ∧ trimmed.head? = some '{' ∧ trimmed.getLast? = some '}' then do
      let stop ← sub? trailing 1
      some (leading + 1, stop, true)
    else some (0, byteLength cs, false)

/-- Where the first closing brace behind a place is. -/
def Template.findBrace? (cs : List Char) (cursor stop : Nat) : Option (Option Nat) := do
  let rest ← slice? cs cursor stop
  some ((find? (· = '}') rest).map (cursor + ·))

/-- Where the brace is that closes a placeholder opened before `start`, if there is one. -/
def Template.findClose? (cs : List Char) (start stop : Nat) : Option (Option Nat) := do
  let body ← slice? cs start stop
  let skip ← sub? (byteLength body) (byteLength (trimStart body))
  let cursor := start + skip
  let first ← slice? cs cursor stop
  if first.head? = some '#' then do
    let separator ← slice? cs (cursor + 1) stop
    match find? (· = '#') separator with
    | some close => findBrace? cs (cursor + 1 + close + 1) stop
    | none => some none
  else findBrace? cs cursor stop

/-- What a byte outside of a literal starts. -/
inductive Template.Opening where
  | literal
  | comment
  | escape
  | marker
  | closing
  | placeholder
  | nothing

/-- What a byte starts, by the byte behind it. -/
def Template.opening (byte : UInt8) (next : Option UInt8) : Opening :=
  if byte = '\''.toUInt8 then .literal
  else if byte = '/'.toUInt8 ∧ next = some '*'.toUInt8 then .comment
  else if byte = '\\'.toUInt8 ∧ (next = some '{'.toUInt8 ∨ next = some '}'.toUInt8) then .escape
  else if byte = '?'.toUInt8 then .marker
  else if byte = '}'.toUInt8 then .closing
  else if byte = '{'.toUInt8 then .placeholder
  else .nothing

/-- A cursor in a text, and what it has read. -/
structure Cursor where
  position : Nat
  /-- Where the literal text starts that is not yet copied. -/
  literalFrom : Nat
  inLiteral : Bool
  sql : List Char
  parameters : List Template.Parameter
  results : List Template.Result
  markers : Nat
  columns : Nat

namespace Cursor

/-- Note a placeholder. -/
def place (form : TemplateForm) (s : Cursor) : Placeholder → Cursor
  | .parameter argument path tag separator =>
    { s with
      markers := s.markers + 1
      sql := s.sql ++ ['?']
      parameters := s.parameters ++
        [⟨s.markers + 1, argument, path, tag, separator.getD Template.defaultSeparator⟩] }
  | .result place tag =>
    match form with
    | .call =>
      { s with
        markers := s.markers + 1
        sql := s.sql ++ ['?']
        results := s.results ++ [⟨s.markers + 1, place, tag⟩] }
    | .plain =>
      { s with
        columns := s.columns + 1
        results := s.results ++ [⟨s.columns + 1, place, tag⟩] }

/-- Take what starts at the cursor. -/
def take (form : TemplateForm) (cs : List Char) (stop : Nat) (s : Cursor) :
    Template.Opening → Sliced TemplateFailure Cursor
  | .literal => pure { s with position := s.position + 1, inLiteral := true }
  | .comment => do
    let comment ← slice? cs (s.position + 2) stop
    match findText? ['*', '/'] comment with
    | some close => pure { s with position := s.position + 2 + close + 2 }
    | none => pure { s with position := stop }
  | .escape => do
    let literal ← slice? cs s.literalFrom s.position
    pure
      { s with
        position := s.position + 2
        literalFrom := s.position + 1
        sql := s.sql ++ literal }
  | .marker => throw ⟨s.position, .bareMarker⟩
  | .closing => throw ⟨s.position, .unmatchedBrace⟩
  | .placeholder => do
    match ← Template.findClose? cs (s.position + 1) stop with
    | none => throw ⟨s.position, .unterminatedPlaceholder⟩
    | some close => do
      let literal ← slice? cs s.literalFrom s.position
      let body ← slice? cs (s.position + 1) close
      match ← (Placeholder.sliceBody body).run with
      | .error fault => throw ⟨s.position + 1, .placeholder fault (String.ofList body)⟩
      | .ok meaning =>
        let placed := place form { s with sql := s.sql ++ literal } meaning
        pure { placed with position := close + 1, literalFrom := close + 1 }
  | .nothing => pure { s with position := s.position + 1 }

/-- Take the byte at the cursor; inside of a literal only its end counts. -/
def step (form : TemplateForm) (cs : List Char) (stop : Nat) (s : Cursor) :
    Sliced TemplateFailure Cursor := do
  let byte ← ((bytes cs)[s.position]? : Option UInt8)
  if s.inLiteral then
    pure { s with position := s.position + 1, inLiteral := byte ≠ '\''.toUInt8 }
  else take form cs stop s (Template.opening byte (bytes cs)[s.position + 1]?)

theorem take_ahead {form : TemplateForm} {cs : List Char} {stop : Nat} {s : Cursor}
    (inside : s.position < stop) (opening : Template.Opening) :
    (take form cs stop s opening).Gives (s.position < ·.position) := by
  unfold take
  cases opening with
  | literal | nothing => exact Sliced.gives_pure (Nat.lt_succ_self _)
  | marker | closing => exact Sliced.gives_throw _
  | escape => exact Sliced.gives_slice fun _ _ => Sliced.gives_pure (Nat.lt_add_of_pos_right (by decide))
  | comment =>
    refine Sliced.gives_slice fun comment _ => ?_
    cases findText? ['*', '/'] comment with
    | none => exact Sliced.gives_pure inside
    | some close =>
      refine Sliced.gives_pure ?_
      show s.position < s.position + 2 + close + 2
      omega
  | placeholder =>
    refine Sliced.gives_slice fun close _ => ?_
    cases close with
    | none => exact Sliced.gives_throw _
    | some close =>
      refine Sliced.gives_slice fun literal _ => Sliced.gives_slice fun body between => ?_
      -- the body is a slice, so the brace stands behind the start of it
      have order := (slice?_isSome.1 (Option.isSome_of_eq_some between)).1
      refine Sliced.gives_slice fun meaning _ => ?_
      cases meaning with
      | error fault => exact Sliced.gives_throw _
      | ok meaning =>
        refine Sliced.gives_pure ?_
        show s.position < close + 1
        omega

/-- A step moves the cursor ahead. -/
theorem step_ahead {form : TemplateForm} {cs : List Char} {stop : Nat} {s : Cursor}
    (inside : s.position < stop) : (step form cs stop s).Gives (s.position < ·.position) := by
  refine Sliced.gives_slice fun byte _ => ?_
  split
  · exact Sliced.gives_pure (Nat.lt_succ_self _)
  · exact take_ahead inside _

/-- Move the cursor up to the end of the part that is read. It gets there, for every step moves it
ahead. -/
def run (form : TemplateForm) (cs : List Char) (stop : Nat) (s : Cursor) :
    Sliced TemplateFailure Cursor :=
  if _inside : s.position < stop then
    match _moved : (step form cs stop s).run with
    | some (.ok s') => run form cs stop s'
    | some (.error e) => throw e
    | none => .missing
  else pure s
termination_by stop - s.position
decreasing_by
  have ahead := step_ahead _inside _ _moved
  omega

/-- What has been read at the end. -/
def finish (cs : List Char) (stop : Nat) (s : Cursor) : Sliced TemplateFailure Template.Parts :=
  if s.inLiteral then throw ⟨stop, .unterminatedLiteral⟩
  else do
    let literal ← slice? cs s.literalFrom stop
    pure ⟨s.sql ++ literal, s.parameters, s.results⟩

end Cursor

/-- Read a template with a cursor. -/
def Template.readSlices (form : TemplateForm) (text : String) : Sliced TemplateFailure Template := do
  let cs := text.toList
  let (start, stop, outer) ← bounds? form cs
  let before ← slice? cs 0 start
  let s ← Cursor.run form cs stop ⟨start, start, false, before, [], [], 0, 0⟩
  let parts ← s.finish cs stop
  let after ← if outer then slice? cs stop (byteLength cs) else (some [] : Option (List Char))
  pure ⟨String.ofList (parts.text ++ after), parts.parameters, parts.results⟩

/-! ## Bounds -/

/-- What trimming takes off in front is counted by its length. -/
theorem sub?_trimStart (cs : List Char) : sub? (byteLength cs) (byteLength (trimStart cs)) =
    some (byteLength (cs.takeWhile isBlank)) := by
  have split : cs.takeWhile isBlank ++ trimStart cs = cs := List.takeWhile_append_dropWhile
  conv_lhs => arg 1; rw [← split, byteLength_append, Nat.add_comm]
  exact sub?_add _ _

namespace Template

/-- A text has brackets if two braces are at the ends of what trimming leaves. -/
theorem brackets?_isSome (cs : List Char) : (brackets? cs).isSome ↔
    2 ≤ byteLength (trim cs) ∧ (trim cs).head? = some '{' ∧ (trim cs).getLast? = some '}' := by
  have braces : IsAscii '{' ∧ IsAscii '}' := by decide
  rw [Option.isSome_iff_exists]
  constructor
  · rintro ⟨⟨before, inner, after⟩, found⟩
    obtain ⟨lead, trail, blankLead, blankTrail, rfl, -⟩ := brackets?_eq_some.1 found
    have solid : Solid ('{' :: (inner ++ ['}'])) :=
      ⟨⟨_, _, rfl, by decide⟩, '{' :: inner, '}', rfl, by decide⟩
    have trimmed := solid.trim_around blankLead blankTrail
    rw [List.cons_append, List.append_assoc, List.singleton_append] at trimmed
    rw [trimmed, braces.1.byteLength_around braces.2]
    exact ⟨Nat.le_add_left _ _, rfl, List.getLast?_concat (l := '{' :: inner)⟩
  · rintro ⟨-, first, last⟩
    obtain ⟨lead, trail, whole, blankLead, blankTrail⟩ := trim_append cs
    obtain ⟨t, start⟩ := List.head?_eq_some_iff.1 first
    obtain ⟨front, ends⟩ := List.getLast?_eq_some_iff.1 last
    rw [start] at ends
    cases front with
    | nil => cases ends
    | cons c inner =>
      rw [List.cons_append, List.cons.injEq] at ends
      obtain ⟨rfl, rfl⟩ := ends
      have split : cs = lead ++ '{' :: (inner ++ '}' :: trail) := by
        rw [whole, start]
        simp
      exact ⟨_, brackets?_eq_some.2 ⟨lead, trail, blankLead, blankTrail, split, rfl, rfl⟩⟩

/-- The part of a text that is read is what stands between its brackets, if it has them. -/
theorem bounds?_eq (form : TemplateForm) (cs : List Char) : bounds? form cs =
    some (byteLength (outer form cs).1,
      byteLength (outer form cs).1 + byteLength (outer form cs).2.1,
      decide ((outer form cs).2.2 ≠ [])) := by
  have bare : some (0, byteLength cs, false) = some (byteLength ([] : List Char),
      byteLength ([] : List Char) + byteLength cs, decide (([] : List Char) ≠ [])) := by
    rw [byteLength_nil, Nat.zero_add]
    rfl
  cases form with
  | plain => exact bare
  | call =>
    unfold bounds? outer
    simp only [sub?_trimStart, Option.bind_eq_bind, Option.bind_some, ← brackets?_isSome]
    cases found : brackets? cs with
    | none => exact bare
    | some parts =>
      obtain ⟨before, inner, after⟩ := parts
      obtain ⟨lead, trail, blankLead, blankTrail, whole, rfl, rfl⟩ := brackets?_eq_some.1 found
      have braces : IsAscii '{' ∧ IsAscii '}' := by decide
      -- what is around the brackets is what trimming takes off
      have front : cs.takeWhile isBlank = lead := by
        have start : trimStart cs = '{' :: (inner ++ '}' :: trail) := by
          rw [whole]
          exact dropWhile_blanks blankLead (by decide)
        have split : cs.takeWhile isBlank ++ trimStart cs = cs := List.takeWhile_append_dropWhile
        rw [start] at split
        exact List.append_cancel_right (split.trans whole)
      have stop : trimEnd cs = lead ++ '{' :: inner ++ ['}'] := by
        have ends := trimEnd_blanks (lead ++ '{' :: inner) blankTrail (c := '}') (by decide)
        rwa [List.append_assoc, List.append_assoc, List.cons_append, List.singleton_append,
          ← whole] at ends
      have last : sub? (byteLength (trimEnd cs)) 1 =
          some (byteLength (lead ++ ['{']) + byteLength inner) := by
        have length : byteLength (trimEnd cs) = 1 + (byteLength (lead ++ ['{']) + byteLength inner) := by
          rw [stop, byteLength_append, braces.2.byteLength, ← List.singleton_append,
            ← List.append_assoc, byteLength_append, Nat.add_comm]
        rw [length]
        exact sub?_add _ _
      rw [Option.isSome_some, if_pos rfl, last, front, Option.getD_some, byteLength_append,
        braces.1.byteLength]
      rfl

/-! ## The end of a placeholder -/

/-- Behind a place inside of the rest, a character is found where the rest is split at it. -/
theorem find?_splitAt? (stop : Char) (place : Nat) (rest : List Char) :
    (find? (· = stop) rest).map (place + ·) =
      (Placeholder.splitAt? stop rest).map fun (front, _) => place + byteLength front := by
  cases split : Placeholder.splitAt? stop rest with
  | none =>
    rw [Placeholder.find?_of_splitAt?_none split]
    rfl
  | some parts =>
    obtain ⟨front, tail⟩ := parts
    rw [Placeholder.find?_of_splitAt? split]
    rfl

section

variable {cs before rest after : List Char} (whole : cs = before ++ (rest ++ after))

include whole

/-- What is behind some of the rest can be cut out. -/
theorem slice?_rest {a b : List Char} (split : rest = a ++ b) :
    slice? cs (byteLength before + byteLength a) (byteLength before + byteLength rest) =
      some b := by
  refine slice?_eq_some.2 ⟨before ++ a, after, ?_, byteLength_append .., ?_⟩
  · rw [whole, split]
    simp only [List.append_assoc]
  · rw [split, byteLength_append, Nat.add_assoc]

theorem findBrace?_eq {a b : List Char} (split : rest = a ++ b) :
    findBrace? cs (byteLength before + byteLength a) (byteLength before + byteLength rest) =
      some ((Placeholder.splitAt? '}' b).map fun (tail, _) =>
        byteLength before + byteLength (a ++ tail)) := by
  unfold findBrace?
  simp only [slice?_rest whole split, Option.bind_eq_bind, Option.bind_some, find?_splitAt?,
    byteLength_append, ← Nat.add_assoc]

/-- Behind a separator the brace is searched for from the number sign that ends it. -/
theorem findBrace?_separator {blanks between r : List Char}
    (split : rest = blanks ++ '#' :: (between ++ '#' :: r)) :
    findBrace? cs (byteLength before + byteLength blanks + 1 + byteLength between + 1)
        (byteLength before + byteLength rest) =
      some ((Placeholder.splitAt? '}' r).map fun (tail, _) =>
        byteLength before + byteLength (blanks ++ '#' :: between ++ '#' :: tail)) := by
  have length : byteLength (blanks ++ '#' :: (between ++ ['#'])) =
      byteLength blanks + byteLength between + 2 := by
    rw [byteLength_append, IsAscii.byteLength_around (by decide) (by decide), Nat.add_assoc]
  have place : byteLength before + byteLength blanks + 1 + byteLength between + 1 =
      byteLength before + byteLength (blanks ++ '#' :: (between ++ ['#'])) := by omega
  have behind : rest = blanks ++ '#' :: (between ++ ['#']) ++ r := by
    rw [split]
    simp
  rw [place, findBrace?_eq whole behind]
  cases Placeholder.splitAt? '}' r with
  | none => rfl
  | some parts => simp

/-- The brace that closes a placeholder is the one behind its body. -/
theorem findClose?_eq :
    findClose? cs (byteLength before) (byteLength before + byteLength rest) =
      some ((Segment.placeholderBody? rest).map fun (body, _) =>
        byteLength before + byteLength body) := by
  have split := List.takeWhile_append_dropWhile (p := isBlank) (l := rest)
  have all := slice?_rest whole (List.nil_append rest).symm
  rw [byteLength_nil, Nat.add_zero] at all
  unfold findClose? Segment.placeholderBody?
  simp only [all, sub?_trimStart, slice?_rest whole split.symm, Option.bind_eq_bind,
    Option.bind_some]
  clear all
  generalize rest.takeWhile isBlank = blanks, rest.dropWhile isBlank = core at split ⊢
  by_cases sign : ∃ r, core = '#' :: r
  · -- a separator may hold braces, so the closing one is looked for behind it
    obtain ⟨r, rfl⟩ := sign
    have opening : byteLength (blanks ++ ['#']) = byteLength blanks + 1 := byteLength_append ..
    have inside := slice?_rest whole (a := blanks ++ ['#']) (b := r) (by rw [← split]; simp)
    rw [opening, ← Nat.add_assoc] at inside
    simp only [List.head?_cons, if_true, inside, Option.bind_some]
    cases separated : Placeholder.splitAt? '#' r with
    | none =>
      rw [Placeholder.find?_of_splitAt?_none separated]
      rfl
    | some parts =>
      obtain ⟨between, r'⟩ := parts
      rw [Placeholder.splitAt?_eq separated] at split
      rw [Placeholder.find?_of_splitAt? separated]
      dsimp only
      rw [findBrace?_separator whole split.symm, Option.bind_some]
      cases Placeholder.splitAt? '}' r' <;> rfl
  · have noSign : core.head? ≠ some '#' := fun h => sign (List.head?_eq_some_iff.1 h)
    rw [if_neg noSign, findBrace?_eq whole split.symm]
    split
    · next r => exact absurd ⟨r, rfl⟩ sign
    · cases Placeholder.splitAt? '}' core <;> rfl

end

end Template

namespace Cursor

variable {form : TemplateForm} {cs lit : List Char} {stop : Nat} {s : Cursor}

/-! ## Steps -/

section

variable {b : UInt8} (byte : (bytes cs)[s.position]? = some b)

include byte

theorem step_inside (inside : s.inLiteral = true) : step form cs stop s =
    .whole (.ok { s with position := s.position + 1, inLiteral := b ≠ '\''.toUInt8 }) := by
  unfold step
  rw [Sliced.slice_bind byte]
  exact if_pos inside

theorem step_outside {opening : Template.Opening} (outside : s.inLiteral = false)
    (opens : Template.opening b (bytes cs)[s.position + 1]? = opening) :
    step form cs stop s = take form cs stop s opening := by
  unfold step
  rw [Sliced.slice_bind byte, outside, opens]
  rfl

end

theorem take_comment {comment : List Char}
    (behind : slice? cs (s.position + 2) stop = some comment) : take form cs stop s .comment =
      .whole (.ok { s with
        position := (findText? ['*', '/'] comment).elim stop (s.position + 2 + · + 2) }) := by
  unfold take
  rw [Sliced.slice_bind behind]
  cases findText? ['*', '/'] comment <;> rfl

theorem take_escape (literal : slice? cs s.literalFrom s.position = some lit) :
    take form cs stop s .escape = .whole (.ok { s with
      position := s.position + 2, literalFrom := s.position + 1, sql := s.sql ++ lit }) := by
  unfold take
  rw [Sliced.slice_bind literal]
  rfl

theorem take_unclosed (unclosed : Template.findClose? cs (s.position + 1) stop = some none) :
    take form cs stop s .placeholder =
      .whole (.error ⟨s.position, .unterminatedPlaceholder⟩) := by
  unfold take
  rw [Sliced.slice_bind unclosed]
  rfl

theorem take_placeholder {close : Nat} {body : List Char}
    (closed : Template.findClose? cs (s.position + 1) stop = some (some close))
    (literal : slice? cs s.literalFrom s.position = some lit)
    (inside : slice? cs (s.position + 1) close = some body) :
    take form cs stop s .placeholder = .whole (match Placeholder.ofBody body with
      | .error fault => .error ⟨s.position + 1, .placeholder fault (String.ofList body)⟩
      | .ok meaning => .ok { place form { s with sql := s.sql ++ lit } meaning with
          position := close + 1, literalFrom := close + 1 }) := by
  unfold take
  rw [Sliced.slice_bind closed]
  dsimp only
  rw [Sliced.slice_bind literal, Sliced.slice_bind inside, Placeholder.sliceBody_eq]
  cases Placeholder.ofBody body <;> rfl

/-! ## Runs -/

/-- What a cursor reads from here to the end. -/
def Reads (form : TemplateForm) (cs : List Char) (stop : Nat) (s : Cursor)
    (r : Except TemplateFailure Template.Parts) : Prop :=
  (run form cs stop s >>= finish cs stop) = .whole r

theorem run_step {s' : Cursor} (inside : s.position < stop)
    (h : step form cs stop s = .whole (.ok s')) : run form cs stop s = run form cs stop s' := by
  rw [run, dif_pos inside]
  split
  · next moved =>
    cases h.symm.trans moved
    rfl
  · next moved => cases h.symm.trans moved
  · next moved => cases h.symm.trans moved

theorem run_error {e : TemplateFailure} (inside : s.position < stop)
    (h : step form cs stop s = .whole (.error e)) : run form cs stop s = .whole (.error e) := by
  rw [run, dif_pos inside]
  split
  · next moved => cases h.symm.trans moved
  · next moved =>
    cases h.symm.trans moved
    rfl
  · next moved => cases h.symm.trans moved

theorem run_end (ended : stop ≤ s.position) : run form cs stop s = pure s := by
  rw [run, dif_neg (Nat.not_lt.2 ended)]

theorem Reads.step {s' : Cursor} {r : Except TemplateFailure Template.Parts}
    (inside : s.position < stop) (h : step form cs stop s = .whole (.ok s'))
    (reads : Reads form cs stop s' r) : Reads form cs stop s r := by
  unfold Reads
  rw [run_step inside h]
  exact reads

theorem reads_error {e : TemplateFailure} (inside : s.position < stop)
    (h : step form cs stop s = .whole (.error e)) : Reads form cs stop s (.error e) := by
  unfold Reads
  rw [run_error inside h]
  rfl

theorem reads_end (outside : s.inLiteral = false) (ended : stop ≤ s.position)
    (literal : slice? cs s.literalFrom stop = some lit) :
    Reads form cs stop s (.ok ⟨s.sql ++ lit, s.parameters, s.results⟩) := by
  unfold Reads
  rw [run_end ended]
  unfold finish
  show (if s.inLiteral then _ else _) = _
  rw [outside, if_neg Bool.false_ne_true, Sliced.slice_bind literal]
  rfl

theorem reads_unterminated (inside : s.inLiteral = true) (ended : stop ≤ s.position) :
    Reads form cs stop s (.error ⟨stop, .unterminatedLiteral⟩) := by
  unfold Reads
  rw [run_end ended]
  exact if_pos inside

/-- Bytes that only move the cursor are passed over. -/
theorem run_pass : ∀ (n : Nat) (s : Cursor), (∀ k < n,
      step form cs stop { s with position := s.position + k } =
        .whole (.ok { s with position := s.position + k + 1 })) → s.position + n ≤ stop →
    run form cs stop s = run form cs stop { s with position := s.position + n }
  | 0, _, _, _ => rfl
  | n + 1, s, passed, inside => by
    have others := run_pass n { s with position := s.position + 1 } (fun k hk => by
      have one := passed (k + 1) (Nat.succ_lt_succ hk)
      rw [← Nat.add_assoc, Nat.add_right_comm] at one
      exact one) (by dsimp only; omega)
    have first : step form cs stop s = .whole (.ok { s with position := s.position + 1 }) :=
      passed 0 (Nat.succ_pos n)
    rw [run_step (by omega) first, others]
    dsimp only
    rw [Nat.add_assoc, Nat.add_comm 1 n]

end Cursor

end QueryMethods
