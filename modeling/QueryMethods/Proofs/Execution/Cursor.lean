/-
Runs over the rows of a cursor. The cursor is moved on by each request for the next row, and what is
fetched are the columns of the row that it stands at. On a database that serves given rows a dialogue
`Delivers` an outcome, which the rows alone decide, with a number of moves.
-/
import QueryMethods.Proofs.Execution.Constructors
import QueryMethods.Proofs.Execution.Parts

namespace QueryMethods.Dialogue

/-! ## Served rows -/

/-- How often the cursor is moved. -/
def moves (s : List Step) : Nat := (events s).count .next

@[simp] theorem moves_append (s s' : List Step) : moves (s ++ s') = moves s + moves s' := by
  unfold moves
  rw [events_append, List.count_append]

/-- What is answered by a cursor over the rows that has been moved so often: the number of the rows,
and the columns of the row that it stands at. -/
def cursorAnswers (rows : List RowContent) (place : Nat) : Expectation
  | .query, count => count = rows.length
  | .get column type, v => ∀ row, place ≠ 0 → rows[place - 1]? = some row → v = row column type
  | _, _ => True

/-- No request fails, and the answers are those of a cursor over the rows, from a place on. -/
def ServesRows (rows : List RowContent) : Nat → List Step → Prop
  | _, [] => True
  | place, x :: rest =>
    x.Answered (cursorAnswers rows place) ∧ ServesRows rows (place + moves [x]) rest

theorem servesRows_append {rows : List RowContent} {s s' : List Step} : ∀ {place : Nat},
    ServesRows rows place (s ++ s') ↔
      ServesRows rows place s ∧ ServesRows rows (place + moves s) s' := by
  induction s with
  | nil => exact fun {place} => ⟨fun h => ⟨trivial, h⟩, fun h => h.2⟩
  | cons x rest ih =>
    intro place
    have split : moves (x :: rest) = moves [x] + moves rest := moves_append [x] rest
    show _ ∧ ServesRows rows _ (rest ++ s') ↔ (_ ∧ ServesRows rows _ rest) ∧ _
    rw [ih, split, and_assoc, Nat.add_assoc]

/-- A database that keeps the place of its cursor serves its rows to every dialogue. -/
theorem servesRows_run {σ α : Type} {respond : Responder σ} {rows : List RowContent} (place : σ → Nat)
    (h : ∀ event state, (∃ reply, (respond event state).1 = .ok reply ∧
        cursorAnswers rows (place state) event reply) ∧
      place (respond event state).2 = place state + if event = .next then 1 else 0) :
    ∀ (d : Dialogue α) (state : σ), ServesRows rows (place state) (d.run respond state).steps
  | done _, _ => trivial
  | ask event next, state => by
    obtain ⟨⟨reply, answer, expected⟩, moved⟩ := h event state
    have one : moves [.asked event (respond event state).1] = if event = .next then 1 else 0 := by
      show List.count .next [event] = _
      rw [List.count_singleton]
      exact if_congr beq_iff_eq rfl rfl
    refine ⟨?_, ?_⟩
    · rw [answer]
      exact expected
    · rw [one, ← moved]
      exact servesRows_run place h (next _) _
  | fault e rest, state => ⟨trivial, servesRows_run place h rest state⟩

/-! ## Delivering -/

/-- On a database that serves the rows from a place on, the outcome and the number of moves are
these. -/
def Delivers {α : Type} (rows : List RowContent) (place : Nat) (d : Dialogue α)
    (outcome : Except QueryFailure α) (count : Nat) : Prop :=
  d.Always fun s r => ServesRows rows place s → r = outcome ∧ moves s = count

section

variable {α β : Type} {rows : List RowContent} {place : Nat} {d : Dialogue α}

theorem delivers_pure (a : α) : Delivers rows place (pure a) (.ok a) 0 := fun _ => ⟨rfl, rfl⟩

theorem delivers_fail (e : QueryFailure) :
    Delivers rows place (fail e : Dialogue α) (.error e) 0 := fun _ => ⟨rfl, rfl⟩

theorem delivers_request {event : Event} {reply : event.Reply} (still : event ≠ .next)
    (only : ∀ answer, cursorAnswers rows place event answer → answer = reply) :
    Delivers rows place (request event) (.ok reply) 0 := by
  have none : List.count Event.next [event] = 0 := List.count_eq_zero.2 (by simpa using still.symm)
  rintro (e | answer) ⟨answered, -⟩
  · exact absurd answered id
  · rw [only answer answered]
    exact ⟨rfl, none⟩

theorem delivers_next : Delivers rows place (request .next) (.ok ()) 1 := by
  rintro (e | answer) ⟨answered, -⟩
  · exact absurd answered id
  · exact ⟨rfl, rfl⟩

theorem delivers_bind {f : α → Dialogue β} {first : Except QueryFailure α}
    {second : Except QueryFailure β} {m n : Nat} (h : Delivers rows place d first m)
    (ok : ∀ a, first = .ok a → Delivers rows (place + m) (f a) second n)
    (error : ∀ e, first = .error e → second = .error e ∧ n = 0) :
    Delivers rows place (d >>= f) second (m + n) := by
  unfold Delivers
  rw [always_bind]
  refine Always.mono h fun s r hs => ?_
  cases r with
  | ok a =>
    by_cases served : ServesRows rows place s
    · obtain ⟨same, count⟩ := hs served
      refine (ok a same.symm).mono fun s' r' hs' both => ?_
      rw [servesRows_append, count] at both
      obtain ⟨outcome, more⟩ := hs' both.2
      exact ⟨outcome, by rw [moves_append, count, more]⟩
    · refine (always_path _).mono fun s' r' _ both => ?_
      exact absurd (servesRows_append.1 both).1 served
  | error e =>
    intro served
    obtain ⟨same, count⟩ := hs served
    obtain ⟨outcome, none⟩ := error e same.symm
    exact ⟨outcome.symm, by rw [count, none, Nat.add_zero]⟩

/-- What goes on with a value. -/
theorem Delivers.bind {f : α → Dialogue β} {a : α} {second : Except QueryFailure β} {m n : Nat}
    (h : Delivers rows place d (.ok a) m) (hf : Delivers rows (place + m) (f a) second n) :
    Delivers rows place (d >>= f) second (m + n) :=
  delivers_bind h (fun a' same => by cases same; exact hf) fun _ => nofun

/-- A failure is passed on. -/
theorem Delivers.bind_error {f : α → Dialogue β} {e : QueryFailure} {m : Nat}
    (h : Delivers rows place d (.error e) m) : Delivers rows place (d >>= f) (.error e) m :=
  delivers_bind h (fun _ => nofun) fun _ same => by cases same; exact ⟨rfl, rfl⟩

/-- What goes on with a value at the same place. -/
theorem Delivers.bind_still {f : α → Dialogue β} {a : α} {second : Except QueryFailure β} {n : Nat}
    (h : Delivers rows place d (.ok a) 0) (hf : Delivers rows place (f a) second n) :
    Delivers rows place (d >>= f) second n := by
  rw [← Nat.zero_add n]
  exact h.bind hf

/-- A last step that only converts the result. -/
theorem Delivers.map {outcome : Except QueryFailure α} {count : Nat}
    (h : Delivers rows place d outcome count) (g : α → β) :
    Delivers rows place (d >>= fun a => pure (g a)) (outcome.map g) count := by
  cases outcome with
  | ok a =>
    show Delivers rows place _ (.ok (g a)) (count + 0)
    exact h.bind (delivers_pure (g a))
  | error e => exact h.bind_error

/-- Two conversions after each other, both of what stands at the same place. -/
theorem Delivers.then {f : α → Dialogue β} {first : Except ConversionFailure α}
    {second : α → Except ConversionFailure β}
    (h : Delivers rows place d (first.mapError .conversion) 0)
    (hf : ∀ a, Delivers rows place (f a) ((second a).mapError .conversion) 0) :
    Delivers rows place (d >>= f) ((first >>= second).mapError .conversion) 0 := by
  cases first with
  | ok a => exact Delivers.bind_still h (hf a)
  | error e => exact Delivers.bind_error h

/-- A conversion whose value is changed. -/
theorem Delivers.map_conversion {first : Except ConversionFailure α} {count : Nat}
    (h : Delivers rows place d (first.mapError .conversion) count) (g : α → β) :
    Delivers rows place (d >>= fun a => pure (g a)) ((first.map g).mapError .conversion) count := by
  cases first <;> exact h.map g

theorem delivers_mapM {γ : Type} {f : γ → Dialogue β} {g : γ → β}
    (each : ∀ x, Delivers rows place (f x) (.ok (g x)) 0) (xs : List γ) :
    Delivers rows place (xs.mapM f) (.ok (xs.map g)) 0 :=
  mapM_rule (J := fun d a => Delivers rows place d (.ok a) 0) delivers_pure
    (fun h hf => h.bind_still hf) each xs

/-- A cursor that is opened has the rows to read. -/
theorem Delivers.onRows {body : Nat → Dialogue α} {outcome : Except QueryFailure α} {count : Nat}
    (h : Delivers rows place (body rows.length) outcome count) :
    Delivers rows place (onRows body) outcome count := by
  have inside (n : Nat) : (body n).Always fun s r => n = rows.length →
      ServesRows rows place s → r = outcome ∧ moves s = count := by
    by_cases same : n = rows.length
    · subst same
      exact Always.mono h fun _ _ hs _ => hs
    · exact (always_path _).mono fun _ _ _ wrong => absurd wrong same
  refine (always_bracket inside).mono fun s r hs served => ?_
  rcases hs with ⟨e, rfl, -⟩ | ⟨n, used, inner, closed, hin, rfl, rfl⟩
  · exact absurd served.1 id
  · obtain ⟨opened, rest⟩ := served
    obtain ⟨here, last⟩ := servesRows_append.1 rest
    obtain ⟨rfl, moved⟩ := hin opened here
    have none : moves [.asked .closeRows closed] = 0 := rfl
    refine ⟨?_, ?_⟩
    · cases closed with
      | error e => exact absurd last.1 id
      | ok u => cases inner <;> rfl
    · show moves ([.asked .query (.ok n)] ++ (used ++ [.asked .closeRows closed])) = count
      rw [moves_append, moves_append, none, moved]
      exact Nat.zero_add _

/-! ## Around the query -/

/-- Where the rows are served, the outcome and the number of moves are these once the query is made;
without the query there is a failure. -/
def Answers {α : Type} (rows : List RowContent) (outcome : Except QueryFailure α) (count : Nat)
    (s : List Step) (r : Except QueryFailure α) : Prop :=
  ServesRows rows 0 s →
    (.query ∈ events s → r = outcome ∧ moves s = count) ∧ (.query ∉ events s → ∃ e, r = .error e)

/-- Requests that neither open the cursor nor move it. -/
abbrev OffRows (event : Event) : Prop := event ≠ .query ∧ event ≠ .next

theorem moves_of_offRows {s : List Step} (h : Within OffRows s) : moves s = 0 :=
  List.count_eq_zero.2 fun mem => (h _ mem).2 rfl

section

variable {outcome : Except QueryFailure α} {count : Nat}

/-- Steps around those with the query do not count. -/
theorem Answers.around {a s b : List Step} {r : Except QueryFailure α}
    (h : Answers rows outcome count s r) (ha : Within OffRows a) (hb : Within OffRows b) :
    Answers rows outcome count (a ++ (s ++ b)) r := by
  intro served
  have na := moves_of_offRows ha
  have nb := moves_of_offRows hb
  obtain ⟨-, behind⟩ := servesRows_append.1 served
  rw [na] at behind
  obtain ⟨queried, silent⟩ := h (servesRows_append.1 behind).1
  have same : .query ∈ events (a ++ (s ++ b)) ↔ .query ∈ events s := by
    rw [events_append, events_append, List.mem_append, List.mem_append]
    constructor
    · rintro (early | made | late)
      · exact absurd rfl (ha _ early).1
      · exact made
      · exact absurd rfl (hb _ late).1
    · exact fun made => .inr (.inl made)
  rw [same, moves_append, moves_append, na, nb, Nat.zero_add, Nat.add_zero]
  exact ⟨queried, silent⟩

/-- A cursor that is opened answers the query. -/
theorem answers_onRows {body : Nat → Dialogue α}
    (h : Delivers rows 0 (body rows.length) outcome count) :
    (onRows body).Always (Answers rows outcome count) := by
  have asks : (onRows body).Always fun s _ => .query ∈ events s :=
    fun _ => (always_path _).mono fun _ _ _ => List.mem_cons_self
  refine (Always.and h.onRows asks).mono fun s r ⟨hs, made⟩ served => ?_
  exact ⟨fun _ => hs served, fun none => absurd made none⟩

theorem answers_fail (e : QueryFailure) :
    (fail e : Dialogue α).Always (Answers rows outcome count) := fun _ => ⟨nofun, fun _ => ⟨e, rfl⟩⟩

theorem answers_after {f : β → Dialogue α} {first : Dialogue β}
    (off : first.Always fun s _ => Within OffRows s)
    (h : ∀ b, (f b).Always (Answers rows outcome count)) :
    (first >>= f).Always (Answers rows outcome count) := by
  refine Always.bind off (fun s b hs => ?_) fun s e hs _ =>
    ⟨fun made => absurd rfl (hs _ made).1, fun _ => ⟨e, rfl⟩⟩
  refine Always.mono (h b) fun s' r hr => ?_
  rw [← List.append_nil s']
  exact hr.around hs within_nil

theorem answers_bracket {opening closing : Event} {body : opening.Reply → Dialogue α}
    (first : OffRows opening) (last : OffRows closing)
    (h : ∀ reply, (body reply).Always (Answers rows outcome count)) :
    (bracket opening body closing).Always (Answers rows outcome count) := by
  refine (always_bracket h).mono fun s r hs served => ?_
  rcases hs with ⟨e, rfl, -⟩ | ⟨reply, used, inner, closed, hin, rfl, rfl⟩
  · exact absurd served.1 id
  · have opened : Within OffRows [.asked opening (.ok reply)] := within_asked.2 ⟨first, within_nil⟩
    have closes : Within OffRows [.asked closing closed] := within_asked.2 ⟨last, within_nil⟩
    have answered := (servesRows_append.1 served.2).2.1
    have kept : afterClose inner closed = inner := by
      cases closed with
      | error e => exact absurd answered id
      | ok u => cases inner <;> rfl
    rw [kept]
    exact hin.around opened closes served

theorem answers_onConnection {p : Provider} (h : d.Always (Answers rows outcome count)) :
    (onConnection p d).Always (Answers rows outcome count) := by
  have inside : (p.onAcquire >>= fun _ => d).Always (Answers rows outcome count) :=
    answers_after (p.sequential_onAcquire ⟨nofun, nofun⟩).within fun _ => h
  refine (always_onConnection inside).mono fun s r hs served => ?_
  rcases hs with ⟨e, rfl, -⟩ | ⟨inner, own, released, hin, rfl, rfl⟩
  · exact absurd served.1 id
  · have opened : Within OffRows [.asked .acquire (.ok ())] :=
      within_asked.2 ⟨⟨nofun, nofun⟩, within_nil⟩
    have closes : Within OffRows [.asked .release released] :=
      within_asked.2 ⟨⟨nofun, nofun⟩, within_nil⟩
    have answered := (servesRows_append.1 served.2).2.1
    cases released with
    | error e => exact absurd answered id
    | ok u => exact hin.around opened closes served

end

end

end QueryMethods.Dialogue
