/-
A cursor reads the segments that the scan by characters finds. Where it stands the text is cut in
three: what is still to be copied, what is still to be read, and what is behind the part that is
read. Bytes that open nothing move it only, and a byte that opens something is no part of a longer
character, so that one step by bytes is one by characters or a part of one.
-/
import QueryMethods.Proofs.Template.Cursor

namespace QueryMethods

open Text

/-! ## Segments in front of a text -/

namespace Segment

variable {rest body tail : List Char}

theorem literal_append (split : Placeholder.splitAt? '\'' rest = some (body, tail)) :
    '\'' :: rest = '\'' :: (body ++ ['\'']) ++ tail := by
  rw [Placeholder.splitAt?_eq split]
  simp

theorem comment_append (split : commentBody rest = (body, some tail)) :
    '/' :: '*' :: rest = '/' :: '*' :: (body ++ ['*', '/']) ++ tail := by
  rw [commentBody_eq rest, split]
  simp

theorem placeholder_append (closes : placeholderBody? rest = some (body, tail)) :
    '{' :: rest = '{' :: (body ++ ['}']) ++ tail := by
  rw [placeholderBody?_eq closes]
  simp

end Segment

namespace Cursor

variable {form : TemplateForm} {cs lit rest after : List Char} {stop : Nat} {s : Cursor}

/-! ## Places -/

/-- Where a cursor is outside of a literal: behind the text that is still to be copied and in front
of the rest of what is read, with more text behind that. -/
structure At (cs : List Char) (stop : Nat) (lit rest after : List Char) (s : Cursor) : Prop where
  outside : s.inLiteral = false
  place : ∃ before, cs = before ++ (lit ++ (rest ++ after)) ∧ s.literalFrom = byteLength before ∧
    s.position = s.literalFrom + byteLength lit
  stop : stop = s.position + byteLength rest

namespace At

section

variable (h : At cs stop lit rest after s)

include h

theorem literal : slice? cs s.literalFrom s.position = some lit := by
  obtain ⟨before, whole, from', position⟩ := h.place
  exact slice?_eq_some.2 ⟨before, rest ++ after, whole, from'.symm, position.symm⟩

/-- Counted from behind some of the rest, the bytes are those of what follows it. -/
theorem byte {a b : List Char} (split : rest = a ++ b) (k : Nat) :
    (bytes cs)[s.position + byteLength a + k]? = (bytes (b ++ after))[k]? := by
  obtain ⟨before, whole, from', position⟩ := h.place
  have front : cs = before ++ lit ++ a ++ (b ++ after) := by
    rw [whole, split]
    simp only [List.append_assoc]
  rw [front, position, from', ← byteLength_append, ← byteLength_append]
  exact getElem?_bytes_append _ _ k

/-- Behind some of the rest, a byte is that of a character if the character follows. -/
theorem byte_iff {a b : List Char} {c : Char} (ascii : IsAscii c) (split : rest = a ++ b) :
    (bytes cs)[s.position + byteLength a]? = some c.toUInt8 ↔ (b ++ after).head? = some c := by
  rw [← ascii.first_byte]
  exact Eq.congr_left (h.byte split 0)

theorem slice {a b c : List Char} (split : rest = a ++ (b ++ c)) :
    slice? cs (s.position + byteLength a) (s.position + byteLength a + byteLength b) = some b := by
  obtain ⟨before, whole, from', position⟩ := h.place
  refine slice?_eq_some.2 ⟨before ++ lit ++ a, c ++ after, ?_, ?_, rfl⟩
  · rw [whole, split]
    simp only [List.append_assoc]
  · rw [byteLength_append, byteLength_append, ← from', position]

theorem inside (some : rest ≠ []) : s.position < stop := by
  obtain ⟨c, rest, rfl⟩ := List.exists_cons_of_ne_nil some
  have pos := c.utf8Size_pos
  have stop := h.stop
  rw [byteLength_cons] at stop
  omega

/-- Behind more text that is still to be copied. -/
theorem move {a b : List Char} {s' : Cursor} (split : rest = a ++ b) (outside : s'.inLiteral = false)
    (same : s'.literalFrom = s.literalFrom) (position : s'.position = s.position + byteLength a) :
    At cs stop (lit ++ a) b after s' := by
  obtain ⟨before, whole, from', here⟩ := h.place
  refine ⟨outside, ⟨before, ?_, same.trans from', ?_⟩, ?_⟩
  · rw [whole, split]
    simp only [List.append_assoc]
  · rw [position, here, same, byteLength_append, Nat.add_assoc]
  · rw [h.stop, split, position, byteLength_append, Nat.add_assoc]

/-- Behind text that is copied or taken. -/
theorem cut {a b c : List Char} {s' : Cursor} (split : rest = a ++ (b ++ c))
    (outside : s'.inLiteral = false) (from' : s'.literalFrom = s.position + byteLength a)
    (position : s'.position = s'.literalFrom + byteLength b) : At cs stop b c after s' := by
  obtain ⟨before, whole, start, here⟩ := h.place
  refine ⟨outside, ⟨before ++ lit ++ a, ?_, ?_, position⟩, ?_⟩
  · rw [whole, split]
    simp only [List.append_assoc]
  · rw [from', here, start, byteLength_append, byteLength_append]
  · rw [h.stop, split, position, from', byteLength_append, byteLength_append]
    omega

end

section

variable {c : Char} (h : At cs stop lit (c :: rest) after s) (ascii : IsAscii c)

include h ascii

theorem first_byte : (bytes cs)[s.position]? = some c.toUInt8 :=
  (h.byte_iff ascii (List.nil_append _).symm).2 rfl

/-- The byte behind a character of one byte is the first one of the next character. -/
theorem next_byte {a : Char} (ascii' : IsAscii a) :
    (bytes cs)[s.position + 1]? = some a.toUInt8 ↔ (rest ++ after).head? = some a := by
  have next := h.byte_iff ascii' (List.singleton_append).symm
  rwa [ascii.byteLength] at next

/-- A character of one byte is taken in one step. -/
theorem step_eq {opening : Template.Opening}
    (opens : Template.opening c.toUInt8 (bytes cs)[s.position + 1]? = opening) :
    step form cs stop s = take form cs stop s opening :=
  step_outside (h.first_byte ascii) h.outside opens

end

/-! ## Passing over text -/

section

variable {c : Char} (h : At cs stop lit (c :: rest) after s)
  (free : ∀ a ∈ ['\'', '?', '}', '{'], c ≠ a)
  (slash : c = '/' → (rest ++ after).head? ≠ some '*')
  (backslash : c = '\\' → (rest ++ after).head? ≠ some '{' ∧ (rest ++ after).head? ≠ some '}')

include h free slash backslash

/-- No byte of a character opens anything if the character does not. -/
theorem opens_nothing {k : Nat} {b : UInt8} (byte : (String.utf8EncodeChar c)[k]? = some b) :
    Template.opening b (bytes cs)[s.position + k + 1]? = .nothing := by
  have ascii : ∀ a ∈ ['\'', '?', '}', '{', '/', '\\', '*'], IsAscii a := by simp [IsAscii]
  -- the byte of a sign is no byte of any other character
  have apart {a : Char} (ha : a ∈ ['\'', '?', '}', '{']) : b ≠ a.toUInt8 := fun e =>
    free a ha ((ascii a (List.mem_append_left ['/', '\\', '*'] ha)).eq_of_byte (e ▸ byte)).1
  have slash' : ¬(b = '/'.toUInt8 ∧ (bytes cs)[s.position + k + 1]? = some '*'.toUInt8) := by
    rintro ⟨e, next⟩
    obtain ⟨rfl, rfl⟩ := (ascii '/' (by decide)).eq_of_byte (e ▸ byte)
    exact slash rfl ((h.next_byte (ascii '/' (by decide)) (ascii '*' (by decide))).1 next)
  have backslash' : ¬(b = '\\'.toUInt8 ∧ ((bytes cs)[s.position + k + 1]? = some '{'.toUInt8 ∨
      (bytes cs)[s.position + k + 1]? = some '}'.toUInt8)) := by
    rintro ⟨e, next⟩
    obtain ⟨rfl, rfl⟩ := (ascii '\\' (by decide)).eq_of_byte (e ▸ byte)
    have next' {a : Char} (ha : IsAscii a) := h.next_byte (a := a) (ascii '\\' (by decide)) ha
    exact next.elim (fun e => (backslash rfl).1 ((next' (by decide)).1 e))
      fun e => (backslash rfl).2 ((next' (by decide)).1 e)
  unfold Template.opening
  rw [if_neg (apart (by decide)), if_neg slash', if_neg backslash', if_neg (apart (by decide)),
    if_neg (apart (by decide)), if_neg (apart (by decide))]

/-- A character that opens nothing is passed over byte by byte. -/
theorem pass_char :
    run form cs stop s = run form cs stop { s with position := s.position + c.utf8Size } := by
  refine run_pass c.utf8Size s (fun k hk => ?_) ?_
  · have wide : k < (String.utf8EncodeChar c).length := by rwa [String.length_utf8EncodeChar]
    have byte := List.getElem?_eq_getElem wide
    have here : (bytes cs)[s.position + k]? = some (String.utf8EncodeChar c)[k] := by
      have here := h.byte (List.nil_append _).symm k
      rw [List.cons_append, bytes_cons, List.getElem?_append_left wide, byte] at here
      exact here
    exact step_outside (s := { s with position := s.position + k }) here h.outside
      (h.opens_nothing free slash backslash byte)
  · rw [h.stop, byteLength_cons]
    omega

end

/-- The inside of a literal is passed over byte by byte. -/
theorem pass_inside {body tail : List Char} (h : At cs stop lit ('\'' :: (body ++ tail)) after s)
    (free : '\'' ∉ body) : run form cs stop s = run form cs stop
      { s with position := s.position + 1 + byteLength body, inLiteral := true } := by
  have quote : IsAscii '\'' := by decide
  have stop' := h.stop
  rw [← List.singleton_append, byteLength_append, quote.byteLength, byteLength_append] at stop'
  rw [run_step (h.inside (List.cons_ne_nil _ _)) (h.step_eq quote rfl)]
  -- in a literal every byte is passed but that of a quote
  refine run_pass (byteLength body) { s with position := s.position + 1, inLiteral := true }
    (fun k hk => ?_) (by dsimp only; omega)
  obtain ⟨b, byte⟩ : ∃ b, (bytes body)[k]? = some b :=
    ⟨_, List.getElem?_eq_getElem (by rwa [length_bytes])⟩
  have here : (bytes cs)[s.position + 1 + k]? = some b := by
    have here := h.byte (List.singleton_append).symm k
    rw [quote.byteLength, List.append_assoc, bytes_append,
      List.getElem?_append_left (by rwa [length_bytes]), byte] at here
    exact here
  have other : b ≠ '\''.toUInt8 := fun e => free (quote.mem_of_byte (e ▸ List.mem_of_getElem? byte))
  have inside : step form cs stop { s with position := s.position + 1 + k, inLiteral := true } = _ :=
    step_inside here rfl
  rw [inside, decide_eq_true other]

/-- A literal is passed over. -/
theorem pass_literal {body tail : List Char}
    (h : At cs stop lit ('\'' :: (body ++ ['\'']) ++ tail) after s) (free : '\'' ∉ body) :
    run form cs stop s = run form cs stop
      { s with position := s.position + byteLength ('\'' :: (body ++ ['\''])) } := by
  have quote : IsAscii '\'' := by decide
  have whole : '\'' :: (body ++ ['\'']) ++ tail = ('\'' :: body) ++ ('\'' :: tail) := by simp
  have split : '\'' :: (body ++ ['\'']) ++ tail = '\'' :: (body ++ ('\'' :: tail)) := by simp
  have length := quote.byteLength_around quote body
  have front : s.position + byteLength ('\'' :: body) = s.position + 1 + byteLength body := by
    rw [← List.singleton_append, byteLength_append, quote.byteLength, Nat.add_assoc]
  have close := (h.byte_iff quote whole).2 rfl
  rw [front] at close
  have inside := h.stop
  rw [byteLength_append, length] at inside
  rw [split] at h
  have ended : s.position + 1 + byteLength body + 1 = s.position + (byteLength body + 2) := by omega
  have closed : decide ('\''.toUInt8 ≠ '\''.toUInt8) = s.inLiteral := h.outside.symm
  rw [h.pass_inside free, run_step (by dsimp only; omega) (step_inside close rfl), length]
  dsimp only
  rw [ended, closed]

end At

theorem findText?_eq (cs : List Char) : findText? ['*', '/'] cs =
    (Segment.commentBody cs).2.map fun _ => byteLength (Segment.commentBody cs).1 := by
  fun_induction Segment.commentBody cs with
  | case1 => rfl
  | case2 rest => rfl
  | case3 c rest apart ih =>
    have other : ['*', '/'].isPrefixOf (c :: rest) = false := by
      rw [← Bool.not_eq_true, List.isPrefixOf_iff_prefix, List.cons_prefix_cons]
      rintro ⟨rfl, r, rfl⟩
      exact apart r rfl rfl
    rw [findText?, if_neg (by rw [other]; exact Bool.false_ne_true), ih]
    cases (Segment.commentBody rest).2 <;> rfl

/-- A comment is passed over, up to the end if it is open. -/
theorem At.pass_comment (h : At cs stop lit ('/' :: '*' :: rest) after s) :
    run form cs stop s = run form cs stop { s with
      position := (Segment.commentBody rest).2.elim stop fun _ =>
        s.position + byteLength (Segment.commentBody rest).1 + 4 } := by
  have ascii : IsAscii '/' ∧ IsAscii '*' := by decide
  have next := (h.next_byte ascii.1 ascii.2).2 rfl
  have inside : slice? cs (s.position + 2) stop = some rest := by
    have opening : byteLength ['/', '*'] = 2 := by decide
    have slice := h.slice (a := ['/', '*']) (b := rest) (c := []) (by simp)
    have whole := h.stop
    rw [show '/' :: '*' :: rest = ['/', '*'] ++ rest from rfl, byteLength_append, ← Nat.add_assoc]
      at whole
    rwa [← whole, opening] at slice
  have step : step form cs stop s = _ :=
    (h.step_eq ascii.1 (by rw [next]; rfl)).trans (take_comment inside)
  rw [run_step (h.inside (List.cons_ne_nil _ _)) step, findText?_eq]
  cases (Segment.commentBody rest).2 with
  | none => rfl
  | some tail =>
    have ended : s.position + 2 + byteLength (Segment.commentBody rest).1 + 2 =
        s.position + byteLength (Segment.commentBody rest).1 + 4 := by omega
    dsimp only [Option.map, Option.elim]
    rw [ended]

/-! ## Collecting -/

/-- What has been read once the literal text and the segments behind it are read. -/
def collect (form : TemplateForm) (s : Cursor) (lit : List Char) (segments : List Segment) :
    Template.Parts :=
  let parts := Template.assemble form s.markers s.columns segments
  ⟨s.sql ++ lit ++ parts.text, s.parameters ++ parts.parameters, s.results ++ parts.results⟩

theorem collect_nil : s.collect form lit [] = ⟨s.sql ++ lit, s.parameters, s.results⟩ := by
  unfold collect Template.assemble
  simp only [List.append_nil]

/-- A segment that is no placeholder leaves its text behind the literal. -/
theorem collect_kept {segment : Segment} (segments : List Segment)
    (kept : segment.meaning? = none) :
    s.collect form lit (segment :: segments) = s.collect form (lit ++ segment.sql) segments := by
  unfold collect
  cases segment with
  | placeholder body meaning => cases kept
  | _ => simp only [Template.assemble, List.append_assoc]

/-- A placeholder is noted behind the literal. -/
theorem collect_placeholder (body : List Char) (meaning : Placeholder) (segments : List Segment) :
    s.collect form lit (.placeholder body meaning :: segments) =
      (place form { s with sql := s.sql ++ lit } meaning).collect form [] segments := by
  unfold collect
  cases meaning with
  | parameter argument path tag separator => simp [Template.assemble, place]
  | result target tag => cases form <;> simp [Template.assemble, place]

/-- Text that has been copied is not collected once more. -/
theorem collect_copied {lit' : List Char} {s' : Cursor} (segments : List Segment)
    (sql : s'.sql = s.sql ++ lit) (parameters : s'.parameters = s.parameters)
    (results : s'.results = s.results) (markers : s'.markers = s.markers)
    (columns : s'.columns = s.columns) :
    s.collect form (lit ++ lit') segments = s'.collect form lit' segments := by
  unfold collect
  rw [sql, parameters, results, markers, columns]
  simp only [List.append_assoc]

theorem place_outside (meaning : Placeholder) :
    (place form s meaning).inLiteral = s.inLiteral := by
  cases meaning with
  | parameter => rfl
  | result => cases form <;> rfl

/-! ## Scanning -/

/-- A cursor at the offset, in front of the rest, reads these segments behind what it has read. -/
def ReadsAs (form : TemplateForm) (cs : List Char) (stop : Nat) (after : List Char) (offset : Nat)
    (rest : List Char) (x : Except TemplateFailure (List Segment)) : Prop :=
  ∀ s lit, s.position = offset → At cs stop lit rest after s →
    Reads form cs stop s (x.map (s.collect form lit))

section

variable {offset offset' : Nat} {body tail : List Char} {x : Except TemplateFailure (List Segment)}

theorem readsAs_nil : ReadsAs form cs stop after offset [] (.ok []) := fun s lit _ h => by
  have stop := h.stop
  rw [byteLength_nil, Nat.add_zero] at stop
  have literal := h.literal
  rw [← stop] at literal
  show Reads _ _ _ s (.ok (s.collect form lit []))
  rw [collect_nil]
  exact reads_end h.outside stop.le literal

theorem readsAs_error {e : TemplateFailure} (some : rest ≠ [])
    (h : ∀ s lit, s.position = offset → At cs stop lit rest after s →
      step form cs stop s = .whole (.error e)) :
    ReadsAs form cs stop after offset rest (.error e) := fun s lit here place =>
  reads_error (place.inside some) (h s lit here place)

theorem map_collect_cons (s' : Cursor) (lit' : List Char) {segment : Segment}
    (h : ∀ segments, s.collect form lit (segment :: segments) = s'.collect form lit' segments) :
    (x >>= fun segments => .ok (segment :: segments)).map (s.collect form lit) =
      x.map (s'.collect form lit') := by
  cases x with
  | error e => rfl
  | ok segments => exact congrArg Except.ok (h segments)

/-- A segment that the cursor only passes over stays in the literal text. -/
theorem readsAs_kept (segment : Segment) (kept : segment.meaning? = none)
    (length : offset' = offset + byteLength segment.sql)
    (passes : ∀ s lit, At cs stop lit (segment.sql ++ tail) after s → run form cs stop s =
      run form cs stop { s with position := s.position + byteLength segment.sql })
    (ih : ReadsAs form cs stop after offset' tail x) :
    ReadsAs form cs stop after offset (segment.sql ++ tail)
      (x >>= fun segments => .ok (segment :: segments)) := fun s lit here h => by
  subst here
  let s' : Cursor := { s with position := s.position + byteLength segment.sql }
  have moved : At cs stop (lit ++ segment.sql) tail after s' := h.move rfl h.outside rfl rfl
  have kept' (segments : List Segment) : s.collect form lit (segment :: segments) =
      s'.collect form (lit ++ segment.sql) segments := collect_kept segments kept
  rw [map_collect_cons s' _ kept']
  unfold Reads
  rw [passes s lit h]
  exact ih s' _ length.symm moved

theorem readsAs_char {c : Char} (free : ∀ a ∈ ['\'', '?', '}', '{'], c ≠ a)
    (slash : c = '/' → (rest ++ after).head? ≠ some '*')
    (backslash : c = '\\' → (rest ++ after).head? ≠ some '{' ∧ (rest ++ after).head? ≠ some '}')
    (ih : ReadsAs form cs stop after (offset + c.utf8Size) rest x) :
    ReadsAs form cs stop after offset (c :: rest)
      (x >>= fun segments => .ok (.plain c :: segments)) :=
  readsAs_kept (.plain c) rfl rfl (fun _ _ h => h.pass_char free slash backslash) ih

theorem readsAs_literal (split : Placeholder.splitAt? '\'' rest = some (body, tail))
    (ih : ReadsAs form cs stop after (offset + byteLength body + 2) tail x) :
    ReadsAs form cs stop after offset ('\'' :: rest)
      (x >>= fun segments => .ok (.literal body :: segments)) := by
  have quote : IsAscii '\'' := by decide
  have free := Placeholder.splitAt?_not_mem split
  have length := quote.byteLength_around quote body
  rw [Segment.literal_append split]
  refine readsAs_kept (.literal body) rfl ?_ (fun _ _ h => h.pass_literal free) ih
  rw [Nat.add_assoc, ← length]
  rfl

theorem readsAs_open_literal (split : Placeholder.splitAt? '\'' rest = none) :
    ReadsAs form cs stop after offset ('\'' :: rest)
      (.error ⟨offset + byteLength ('\'' :: rest), .unterminatedLiteral⟩) := fun s lit here h => by
  subst here
  have ended := h.stop
  rw [← List.append_nil rest] at h
  have passed : run form cs stop s = _ := h.pass_inside (Placeholder.splitAt?_eq_none split)
  show Reads form cs stop s (.error ⟨s.position + byteLength ('\'' :: rest), _⟩)
  unfold Reads
  rw [passed, ← ended]
  refine reads_unterminated rfl (le_of_eq ?_)
  rw [ended, ← List.singleton_append, byteLength_append, IsAscii.byteLength (by decide),
    Nat.add_assoc]

theorem readsAs_comment (split : Segment.commentBody rest = (body, some tail))
    (ih : ReadsAs form cs stop after (offset + byteLength body + 4) tail x) :
    ReadsAs form cs stop after offset ('/' :: '*' :: rest)
      (x >>= fun segments => .ok (.comment body true :: segments)) := by
  have whole := Segment.comment_append split
  have source : (Segment.comment body true).sql = '/' :: '*' :: (body ++ ['*', '/']) := rfl
  rw [whole]
  refine readsAs_kept (.comment body true) rfl ?_ (fun s _ h => ?_) ih
  · rw [source, byteLength_comment, Nat.add_assoc]
  · have opened : At cs stop _ ('/' :: '*' :: rest) after s := whole ▸ h
    have passed : run form cs stop s = _ := opened.pass_comment
    rw [split] at passed
    rw [passed, source, byteLength_comment]
    rfl

theorem readsAs_open_comment (split : Segment.commentBody rest = (body, none)) :
    ReadsAs form cs stop after offset ('/' :: '*' :: rest) (.ok [.comment body false]) := by
  obtain rfl := Segment.commentBody_open split
  have source : (Segment.comment rest false).sql = '/' :: '*' :: rest := List.append_nil _
  have whole : '/' :: '*' :: rest = (Segment.comment rest false).sql ++ [] := by
    rw [source, List.append_nil]
  rw [whole]
  refine readsAs_kept (.comment rest false) rfl rfl (fun s _ h => ?_) readsAs_nil
  rw [← whole] at h
  have passed : run form cs stop s = _ := h.pass_comment
  rw [split] at passed
  rw [passed, source, ← h.stop]
  rfl

/-- A brace behind a backslash is the start of the next literal text. -/
theorem readsAs_escape {c : Char} (brace : c = '{' ∨ c = '}')
    (ih : ReadsAs form cs stop after (offset + 2) rest x) :
    ReadsAs form cs stop after offset ('\\' :: c :: rest)
      (x >>= fun segments => .ok (.escape (some c) :: segments)) := fun s lit here h => by
  subst here
  have backslash : IsAscii '\\' := by decide
  have ascii : IsAscii c := by rcases brace with rfl | rfl <;> decide
  have next : (bytes cs)[s.position + 1]? = some c.toUInt8 := (h.next_byte backslash ascii).2 rfl
  have opens : Template.opening '\\'.toUInt8 (bytes cs)[s.position + 1]? = .escape := by
    rw [next]
    rcases brace with rfl | rfl <;> rfl
  let s' : Cursor :=
    { s with position := s.position + 2, literalFrom := s.position + 1, sql := s.sql ++ lit }
  have cut : At cs stop [c] rest after s' := by
    refine h.cut (a := ['\\']) (b := [c]) rfl h.outside ?_ ?_
    · rw [backslash.byteLength]
    · rw [ascii.byteLength]
  have kept (segments : List Segment) : s.collect form lit (.escape (some c) :: segments) =
      s.collect form (lit ++ [c]) segments := collect_kept segments rfl
  rw [map_collect_cons s' [c] fun segments =>
    (kept segments).trans (collect_copied segments rfl rfl rfl rfl rfl)]
  exact .step (h.inside (List.cons_ne_nil _ _))
    ((h.step_eq backslash opens).trans (take_escape h.literal)) (ih s' _ rfl cut)

/-- A backslash in front of the closing bracket escapes it, although it is not read here. -/
theorem readsAs_bracket (closing : after.head? = some '}') :
    ReadsAs form cs stop after offset ['\\'] (.ok [.escape none]) := fun s lit here h => by
  have backslash : IsAscii '\\' := by decide
  have next : (bytes cs)[s.position + 1]? = some '}'.toUInt8 :=
    (h.next_byte backslash (by decide)).2 closing
  have ended := h.stop
  rw [backslash.byteLength] at ended
  have nothing : slice? cs (s.position + 1) stop = some [] := by
    have behind := h.slice (a := ['\\']) (b := []) (c := []) rfl
    rw [backslash.byteLength, byteLength_nil, Nat.add_zero] at behind
    rw [ended]
    exact behind
  have kept : s.collect form lit [.escape none] = s.collect form (lit ++ []) [] :=
    collect_kept [] rfl
  rw [collect_nil, ← List.append_assoc] at kept
  refine .step (h.inside (List.cons_ne_nil _ _))
    ((h.step_eq backslash (by rw [next]; rfl)).trans (take_escape h.literal)) ?_
  show Reads form cs stop _ (.ok (s.collect form lit [.escape none]))
  rw [kept]
  exact reads_end h.outside (by rw [ended]; exact Nat.le_succ _) nothing

end

theorem At.closes (h : At cs stop lit ('{' :: rest) after s) :
    Template.findClose? cs (s.position + 1) stop = some ((Segment.placeholderBody? rest).map
      fun (body, _) => s.position + 1 + byteLength body) := by
  have brace : IsAscii '{' := by decide
  obtain ⟨before, whole, from', position⟩ := h.place
  have behind : byteLength (before ++ lit ++ ['{']) = s.position + 1 := by
    rw [byteLength_append, byteLength_append, brace.byteLength, position, from']
  have ended : stop = s.position + 1 + byteLength rest := by
    rw [h.stop, ← List.singleton_append, byteLength_append, brace.byteLength, Nat.add_assoc]
  have split : cs = before ++ lit ++ ['{'] ++ (rest ++ after) := by rw [whole]; simp
  have closes := Template.findClose?_eq split
  rwa [behind, ← ended] at closes

theorem At.step_placeholder {body tail : List Char} (h : At cs stop lit ('{' :: rest) after s)
    (closes : Segment.placeholderBody? rest = some (body, tail)) :
    step form cs stop s = .whole (match Placeholder.ofBody body with
      | .error fault => .error ⟨s.position + 1, .placeholder fault (String.ofList body)⟩
      | .ok meaning => .ok { Cursor.place form { s with sql := s.sql ++ lit } meaning with
          position := s.position + 1 + byteLength body + 1
          literalFrom := s.position + 1 + byteLength body + 1 }) := by
  have brace : IsAscii '{' := by decide
  have closed := h.closes
  rw [closes] at closed
  have inside := h.slice (a := ['{']) (b := body) (c := '}' :: tail)
    (congrArg ('{' :: ·) (Segment.placeholderBody?_eq closes))
  rw [brace.byteLength] at inside
  exact (h.step_eq brace rfl).trans (take_placeholder closed h.literal inside)

section

variable {offset : Nat} {body tail : List Char} {x : Except TemplateFailure (List Segment)}

/-- Behind a placeholder a new literal text starts. -/
theorem readsAs_placeholder {meaning : Placeholder}
    (closes : Segment.placeholderBody? rest = some (body, tail))
    (means : Placeholder.ofBody body = .ok meaning)
    (ih : ReadsAs form cs stop after (offset + byteLength body + 2) tail x) :
    ReadsAs form cs stop after offset ('{' :: rest)
      (x >>= fun segments => .ok (.placeholder body meaning :: segments)) := fun s lit here h => by
  subst here
  have braces : IsAscii '{' ∧ IsAscii '}' := by decide
  have step : step form cs stop s = _ := h.step_placeholder closes
  rw [means] at step
  have ended : s.position + 1 + byteLength body + 1 = s.position + byteLength body + 2 := by omega
  let s' : Cursor := { place form { s with sql := s.sql ++ lit } meaning with
    position := s.position + 1 + byteLength body + 1
    literalFrom := s.position + 1 + byteLength body + 1 }
  have cut : At cs stop [] tail after s' := by
    refine h.cut (a := '{' :: (body ++ ['}'])) (b := []) (Segment.placeholder_append closes)
      ((place_outside meaning).trans h.outside) ?_ rfl
    rw [braces.1.byteLength_around braces.2]
    exact ended
  rw [map_collect_cons s' [] fun segments => collect_placeholder body meaning segments]
  exact .step (h.inside (List.cons_ne_nil _ _)) step (ih s' _ ended cut)

end

/-- A cursor reads what the scan by characters reads. -/
theorem readsAs_scan {bracketed : Bool} (closing : after.head? = if bracketed then some '}' else none)
    (offset : Nat) (rest : List Char) :
    ReadsAs form cs stop after offset rest (Segment.scan bracketed offset rest) := by
  fun_induction Segment.scan bracketed offset rest with
  | case1 => exact readsAs_nil
  | case2 offset rest body tail split ih => exact readsAs_literal split ih
  | case3 offset rest split => exact readsAs_open_literal split
  | case4 offset rest body tail split ih => exact readsAs_comment split ih
  | case5 offset rest body split => exact readsAs_open_comment split
  | case6 offset c rest brace ih => exact readsAs_escape (by simpa using brace) ih
  | case7 offset c rest brace ih =>
    have other : c ≠ '{' ∧ c ≠ '}' := by simpa [not_or] using brace
    exact readsAs_char (by simp) (by simp)
      (fun _ => ⟨fun e => other.1 (Option.some.inj e), fun e => other.2 (Option.some.inj e)⟩) ih
  | case8 offset =>
    -- the last backslash of a call stands in front of its closing bracket
    cases bracketed with
    | true => exact readsAs_bracket closing
    | false =>
      obtain rfl : after = [] := List.head?_eq_none_iff.1 closing
      show ReadsAs form cs stop [] offset ['\\']
        (.ok [] >>= fun segments => .ok (.plain '\\' :: segments))
      exact readsAs_char (by simp) (by simp) (by simp) readsAs_nil
  | case9 offset rest =>
    refine readsAs_error (List.cons_ne_nil _ _) fun s lit here h => ?_
    rw [h.step_eq (by decide) rfl, ← here]
    rfl
  | case10 offset rest =>
    refine readsAs_error (List.cons_ne_nil _ _) fun s lit here h => ?_
    rw [h.step_eq (by decide) rfl, ← here]
    rfl
  | case11 offset rest unclosed =>
    refine readsAs_error (List.cons_ne_nil _ _) fun s lit here h => ?_
    have closed := h.closes
    rw [unclosed] at closed
    rw [← here]
    exact (h.step_eq (by decide) rfl).trans (take_unclosed closed)
  | case12 offset rest body tail closes fault means =>
    refine readsAs_error (List.cons_ne_nil _ _) fun s lit here h => ?_
    rw [h.step_placeholder closes, means, here]
  | case13 offset rest body tail closes meaning means ih => exact readsAs_placeholder closes means ih
  | case14 offset c rest quote slash backslash last marker close opening ih =>
    have free : ∀ a ∈ ['\'', '?', '}', '{'], c ≠ a := by
      simp only [List.mem_cons, List.not_mem_nil, or_false, forall_eq_or_imp, forall_eq]
      exact ⟨quote, marker, close, opening⟩
    refine readsAs_char free (fun e => ?_) (fun e => ?_) ih
    · cases rest with
      | nil =>
        rw [List.nil_append, closing]
        cases bracketed <;> decide
      | cons d r => exact fun star => slash r e (by rw [Option.some.inj star])
    · cases rest with
      | nil => exact (last e rfl).elim
      | cons d r => exact (backslash d r e rfl).elim

end Cursor

end QueryMethods
