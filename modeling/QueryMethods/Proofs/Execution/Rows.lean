/-
Rows. A mutation binds its parameters and sends them, to be executed at once or with a queue. What
is bound between one send and the next is a row. Whatever the database answers, the rows that were
sent are those of the arguments: one, or in a batch one for each element, in order.
-/
import QueryMethods.Proofs.Execution.Batches
import QueryMethods.Proofs.Execution.Cases

namespace QueryMethods

open Dialogue

/-! ## Rows of requests -/

namespace Event

/-- Requests that send what is bound, to be executed at once or with the queue. -/
def sends : Event → Bool
  | executeUpdate | addBatch => true
  | _ => false

/-- What is bound for each row that is sent, if some slots are bound already. -/
def rows (bound : List (Nat × SlotContent)) : List Event → List (List (Nat × SlotContent))
  | [] => []
  | event :: rest =>
    if event.sends then bound :: rows [] rest else rows (bound ++ event.binding?.toList) rest

/-- Requests that send nothing only add what they bind. -/
theorem rows_unsent {log : List Event} (rest : List Event) :
    (∀ event ∈ log, event.sends = false) → ∀ bound : List (Nat × SlotContent),
      rows bound (log ++ rest) = rows (bound ++ log.filterMap binding?) rest := by
  induction log with
  | nil =>
    intro _ bound
    rw [List.nil_append, List.filterMap_nil, List.append_nil]
  | cons event log ih =>
    intro unsent bound
    obtain ⟨first, others⟩ := List.forall_mem_cons.1 unsent
    have pairs : (event :: log).filterMap binding? = event.binding?.toList ++ log.filterMap binding? := by
      rw [List.filterMap_cons]
      cases event.binding? <;> rfl
    rw [List.cons_append, rows, if_neg (by rw [first]; exact Bool.false_ne_true), ih others, pairs,
      List.append_assoc]

/-- What follows is no row unless it is sent. -/
theorem rows_append_unsent {behind : List Event} (unsent : ∀ event ∈ behind, event.sends = false) :
    ∀ (bound : List (Nat × SlotContent)) (log : List Event),
      rows bound (log ++ behind) = rows bound log
  | bound, [] => by
    have none := rows_unsent [] unsent bound
    rw [List.append_nil] at none
    exact none
  | bound, event :: log => by
    rw [List.cons_append, rows, rows, rows_append_unsent unsent, rows_append_unsent unsent]

theorem not_sends_of_binds {event : Event} (binds : event.binding?.isSome = true) :
    event.sends = false := by
  cases event <;> first | rfl | cases binds

end Event

/-! ## Binding -/

namespace FilledParameter

theorem always_bindAll : ∀ (slot : Nat) (xs : List (Value × SlotType)),
    (bindAll slot xs).Always fun s r => ∀ u, r = .ok u →
      events s = SlotContent.requests slot (xs.map SlotContent.ofTyped)
  | _, [] => fun _ _ => rfl
  | slot, x :: rest => by
    have one : (bindOne slot x).Always fun s r => ∀ u, r = .ok u →
        events s = [(SlotContent.ofTyped x).request slot] := by
      unfold bindOne SlotContent.ofTyped
      split
      all_goals
        rintro (e | reply) u ok
        · cases ok
        · rfl
    unfold bindAll
    refine Always.bind one (fun s a hs => ?_) fun s e _ u failed => by cases failed
    refine (always_bindAll (slot + 1) rest).mono fun s' r hs' u ok => ?_
    rw [events_append, hs a rfl, hs' u ok]
    rfl

/-- Without lists in between the parameters are bound to the slots that they have. -/
theorem always_bindFrom : ∀ es : List FilledParameter, (∀ e ∈ es, e.Placed) →
    (bindFrom 0 es).Always fun s r => ∀ u, r = .ok u →
      (events s).filterMap Event.binding? = es.flatMap placed
  | [], _ => fun _ _ => rfl
  | e :: rest, h => by
    obtain ⟨place, others⟩ := List.forall_mem_cons.1 h
    rw [place.bindFrom_cons]
    refine Always.bind (always_bindAll _ _) (fun s a hs => ?_) nofun
    refine Always.bind (always_bindFrom rest others) (fun s' n hs' => ?_) nofun
    intro u _
    have own : (events s).filterMap Event.binding? = e.placed := by
      rw [hs a rfl, placed, SlotContent.bindings_requests, place.slots]
      exact congrArg (fun n => (List.range' _ n).zip e.contents) e.contents_length
    rw [List.append_nil, events_append, List.filterMap_append, own, hs' n rfl, List.flatMap_cons]

end FilledParameter

namespace CompiledMethod

variable {m : CompiledMethod} {args : List Bindable} {i : CallContext}

/-! ## Rows of arguments -/

/-- The rows that steps have sent are those of the elements, in order. -/
def SendsRows (m : CompiledMethod) (args : List Bindable) (elements : List (Option Bindable))
    (s : List Step) : Prop :=
  ∀ (k : Nat) (bound : List (Nat × SlotContent)), (Event.rows [] (events s))[k]? = some bound →
    ∃ (element : Option Bindable) (es : List FilledParameter), elements[k]? = some element ∧
      m.encode args element = .ok es ∧ bound = es.flatMap FilledParameter.placed

section

variable {elements : List (Option Bindable)}

theorem SendsRows.none {s : List Step} (unsent : Within (fun event => event.sends = false) s) :
    m.SendsRows args elements s := by
  intro k bound row
  have none := Event.rows_unsent [] unsent []
  rw [List.append_nil] at none
  rw [none] at row
  cases row

/-- What is around the sends, unless it binds, does not matter. -/
theorem SendsRows.pad {a s b : List Step}
    (ahead : Within (fun event => event.sends = false ∧ event.binding? = Option.none) a)
    (behind : Within (fun event => event.sends = false ∧ event.binding? = Option.none) b)
    (h : m.SendsRows args elements s) : m.SendsRows args elements (a ++ s ++ b) := by
  intro k bound row
  have calm : (events a).filterMap Event.binding? = [] :=
    List.filterMap_eq_nil_iff.2 fun event mem => (ahead event mem).2
  rw [events_append, events_append, Event.rows_append_unsent fun event mem => (behind event mem).1,
    Event.rows_unsent _ fun event mem => (ahead event mem).1, calm] at row
  exact h k bound row

/-- A row is sent once it is bound, and others behind it. -/
theorem SendsRows.cons {element : Option Bindable} {es : List FilledParameter} {binds s : List Step}
    {send : Event} {reply : Except DatabaseFailure send.Reply} (only : OnlyBinds (events binds))
    (pairs : (events binds).filterMap Event.binding? = es.flatMap FilledParameter.placed)
    (filled : m.encode args element = .ok es) (sends : send.sends = true)
    (h : m.SendsRows args elements s) :
    m.SendsRows args (element :: elements) (binds ++ .asked send reply :: s) := by
  intro k bound row
  rw [events_append, events_asked,
    Event.rows_unsent _ fun event mem => Event.not_sends_of_binds (only event mem), pairs,
    Event.rows, if_pos sends] at row
  cases k with
  | zero =>
    cases row
    exact ⟨element, es, rfl, filled, rfl⟩
  | succ k => exact h k bound row

end

/-- Whatever becomes of it, this only binds, and if it ends well all values are bound. -/
theorem always_bindParameters {es : List FilledParameter} (placed : ∀ e ∈ es, e.Placed) :
    (bindParameters es).Always fun s r => OnlyBinds (events s) ∧ ∀ u, r = .ok u →
      (events s).filterMap Event.binding? = es.flatMap FilledParameter.placed := by
  refine Always.and (sequential_bindParameters (fun _ _ => rfl) (fun _ _ => rfl) es).within ?_
  unfold bindParameters
  refine Always.bind (FilledParameter.always_bindFrom es placed) (fun s n hs => ?_) nofun
  intro u _
  rw [List.append_nil]
  exact hs n rfl

/-- A row is bound, sent, and followed by others. -/
theorem always_send {α : Type} {elements : List (Option Bindable)} {element : Option Bindable}
    {es : List FilledParameter} (places : m.Places) (filled : m.encode args element = .ok es)
    {send : Event} (sends : send.sends = true) {f : send.Reply → Dialogue α}
    (h : ∀ reply, (f reply).Always fun s _ => m.SendsRows args elements s) :
    (do bindParameters es; let reply ← Dialogue.request send; f reply).Always fun s _ =>
      m.SendsRows args (element :: elements) s := by
  refine Always.bind (always_bindParameters (places filled)) (fun s u hs => ?_) fun s e hs => ?_
  · obtain ⟨only, pairs⟩ := hs
    refine always_request_bind (fun e => ?_) fun reply => (h reply).mono fun s' _ hs' => ?_
    · exact .cons only (pairs u rfl) filled sends (.none within_nil)
    · exact .cons only (pairs u rfl) filled sends hs'
  · exact SendsRows.none fun event mem => Event.not_sends_of_binds (hs.1 event mem)

/-- Whatever the batch size is, the rows that are sent are those of the elements. -/
theorem always_runEntries (places : m.Places) (size : Nat) : ∀ (pending : Nat) (items : List Bindable),
    (m.runEntries size args pending items).Always fun s _ => m.SendsRows args (items.map some) s
  | pending, [] => by
    unfold runEntries
    split
    · rintro (e | reply) <;> exact SendsRows.none (within_asked.2 ⟨rfl, within_nil⟩)
    · exact SendsRows.none within_nil
  | pending, item :: rest => by
    have ih := fun pending => always_runEntries places size pending rest
    have flushed {s : List Step} {reply : Except DatabaseFailure (Event.Reply .executeBatch)}
        (h : m.SendsRows args (rest.map some) s) :
        m.SendsRows args (rest.map some) (.asked .executeBatch reply :: s) := by
      have padded := h.pad (a := [.asked .executeBatch reply]) (within_asked.2 ⟨⟨rfl, rfl⟩, within_nil⟩)
        within_nil
      rwa [List.append_nil] at padded
    have counted {α : Type} {pending : Nat} (g : List UInt64 → α) :
        (m.runEntries size args pending rest >>= fun counts => pure (g counts)).Always fun s _ =>
          m.SendsRows args (rest.map some) s := (ih pending).then_pure g
    unfold runEntries bindEntry
    cases filled : m.encode args (some item) with
    | error e => exact SendsRows.none within_nil
    | ok es =>
      show (bindParameters es >>= _).Always _
      split
      · exact always_send places filled rfl fun _ => counted _
      · refine always_send places filled rfl fun _ => ?_
        split
        · refine always_request_bind (fun e => flushed (SendsRows.none within_nil)) fun reply => ?_
          exact (counted _).mono fun s _ hs => flushed hs
        · exact ih _

/-! ## Rows of calls -/

/-- What the rows are bound from: the elements of the batch, or the arguments alone. -/
def rowElements (m : CompiledMethod) (args : List Bindable) : List (Option Bindable) :=
  if m.isBatched then
    match m.batchItems args with
    | .ok items => items.map some
    | .error _ => []
  else [none]

/-- What a row takes from a position of the arguments: of a batch argument its own element. -/
def rowSource (m : CompiledMethod) (args : List Bindable) (position k : Nat) : Option Bindable :=
  if m.batchPosition = some position then
    match m.batchItems args with
    | .ok items => items[k]?
    | .error _ => none
  else args[position]?

/-- Whatever the database answers, a mutation sends the rows of its arguments. -/
theorem always_execute_rows (places : m.Places) (mutation : m.kind ≠ .select) (noCall : m.kind ≠ .call)
    (i : CallContext) (args : List Bindable) :
    (m.execute i args).Always fun s _ => m.SendsRows args (m.rowElements args) s := by
  rcases m.execute_cases i args with ⟨e, -, he⟩ | ⟨isCall, sql, body, use, he⟩
  · rw [he]
    exact SendsRows.none (within_failed.2 within_nil)
  · have inside : body.Always fun s _ => m.SendsRows args (m.rowElements args) s := by
      cases use with
      | select kind _ => exact absurd kind mutation
      | count _ kind _ _ | out _ kind _ _ => exact absurd kind noCall
      | update single _ filled =>
        unfold rowElements
        rw [single.2, if_neg Bool.false_ne_true]
        exact always_send places filled rfl fun _ => SendsRows.none within_nil
      | batch batched listed =>
        unfold rowElements
        rw [batched.2, if_pos rfl, listed]
        exact (always_runEntries places _ 0 _).then_pure _
    have nil : m.SendsRows args (m.rowElements args) [] := SendsRows.none within_nil
    have prepare : (i.provider.prepareEvent isCall sql).sends = false ∧
        (i.provider.prepareEvent isCall sql).binding? = none := by
      unfold Provider.prepareEvent
      split <;> exact ⟨rfl, rfl⟩
    have pad : ∀ a s b, Within (fun event => event.sends = false ∧ event.binding? = none) a →
        Within (fun event => event.sends = false ∧ event.binding? = none) b →
        m.SendsRows args (m.rowElements args) s →
        m.SendsRows args (m.rowElements args) (a ++ s ++ b) := fun _ _ _ => SendsRows.pad
    rw [he]
    refine always_onConnection_of_pad pad nil ⟨rfl, rfl⟩ ⟨rfl, rfl⟩ ⟨rfl, rfl⟩ ?_
    exact always_onStatement_of_pad pad nil prepare ⟨rfl, rfl⟩ inside

theorem source_of_row {k position : Nat} {element : Option Bindable} {source : Bindable}
    (row : (m.rowElements args)[k]? = some element) (h : m.rowSource args position k = some source) :
    m.source? args element position = some source := by
  unfold rowSource at h
  unfold rowElements at row
  by_cases own : m.batchPosition = some position
  · rw [if_pos (isBatched_of_position own)] at row
    rw [if_pos own] at h
    cases listed : m.batchItems args with
    | error e =>
      rw [listed] at h
      cases h
    | ok items =>
      rw [listed] at row h
      dsimp only at row h
      rw [List.getElem?_map, h] at row
      cases row
      exact if_pos own
  · rw [if_neg own] at h
    exact (if_neg own).trans h

/-- In a row that a mutation sends each parameter is bound to the slots that it has. -/
theorem row_placed (places : m.Places) (mutation : m.kind ≠ .select) (noCall : m.kind ≠ .call)
    {σ : Type} {respond : Responder σ} {state : σ} {k : Nat} {bound : List (Nat × SlotContent)}
    (row : (Event.rows [] ((m.execute i args).run respond state).events)[k]? = some bound)
    {p : ParameterBinding} (hp : p ∈ m.parameters) {source : Bindable}
    (stands : m.rowSource args p.argument k = some source) :
    ∃ e : FilledParameter, e.parameter = p ∧ p.encode source = .ok e.values ∧
      ∀ x ∈ e.placed, x ∈ bound := by
  have sends := (always_execute_rows places mutation noCall i args).run respond state
  obtain ⟨element, es, own, filled, rfl⟩ := sends k bound row
  obtain ⟨e, he, filled⟩ := exists_of_forall₂_left (mapM_eq_ok.1 filled) hp
  rw [encodeParameter_eq (source_of_row own stands)] at filled
  obtain ⟨values, encoded, rfl⟩ := map_eq_ok.1 filled
  exact ⟨⟨p, values⟩, rfl, mapError_eq_ok.1 encoded, fun x hx => List.mem_flatMap.2 ⟨_, he, hx⟩⟩

end CompiledMethod

end QueryMethods
