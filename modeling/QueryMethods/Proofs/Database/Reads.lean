/-
Requests for rows and their columns. A dialogue `Reads` a log if on every path its requests for rows
and columns are the start of the log, and all of it once there is a result. How many rows there are
is only known to the query, so around it a dialogue `ReadsAny` of several logs.
-/
import QueryMethods.Proofs.Database.Answers
import QueryMethods.Proofs.Database.Handles

namespace QueryMethods.Dialogue

/-- The requests for rows and columns among steps. -/
def rowEvents (steps : List Step) : List Event := (events steps).filter readsRow

@[simp] theorem rowEvents_append (s s' : List Step) :
    rowEvents (s ++ s') = rowEvents s ++ rowEvents s' := by
  unfold rowEvents
  rw [events_append, List.filter_append]

/-- Requests of other kinds read nothing. -/
theorem rowEvents_of_within {s : List Step} (h : Within (fun event => readsRow event = false) s) :
    rowEvents s = [] := by
  refine List.filter_eq_nil_iff.2 fun event mem => ?_
  rw [h event mem]
  exact Bool.false_ne_true

theorem rowEvents_asked {event : Event} (h : readsRow event = false)
    (reply : Except DatabaseFailure event.Reply) (s : List Step) :
    rowEvents (.asked event reply :: s) = rowEvents s :=
  List.filter_cons_of_neg (by rw [h]; exact Bool.false_ne_true)

/-- Steps have read the start of a log, and all of it if they end well. -/
structure Along {α : Type} (log : List Event) (s : List Step) (r : Except QueryFailure α) : Prop where
  start : rowEvents s <+: log
  whole : ∀ a, r = .ok a → rowEvents s = log

/-- On every path the dialogue reads the log, until it fails. -/
def Reads {α : Type} (d : Dialogue α) (log : List Event) : Prop := d.Always (Along log)

/-- On every path the dialogue reads one of the logs, until it fails. -/
def ReadsAny {α ι : Type} (d : Dialogue α) (logs : ι → List Event) : Prop :=
  d.Always fun s r => ∃ i, Along (logs i) s r

section

variable {α β ι : Type} {d : Dialogue α} {log log' : List Event} {logs : ι → List Event}

theorem along_error {s : List Step} {e : QueryFailure} (h : rowEvents s <+: log) :
    Along log s (.error e : Except _ α) := ⟨h, nofun⟩

theorem along_of_eq {s : List Step} {r : Except QueryFailure α} (h : rowEvents s = log) :
    Along log s r := ⟨h ▸ List.prefix_refl _, fun _ _ => h⟩

/-- What reads nothing can be around it, and may fail where it ends well. -/
theorem Along.pad {a s b : List Step} {r : Except QueryFailure α} {r' : Except QueryFailure β}
    (h : Along log s r) (ahead : rowEvents a = []) (behind : rowEvents b = [])
    (fails : ∀ y, r' = .ok y → ∃ x, r = .ok x) : Along log (a ++ s ++ b) r' := by
  have same : rowEvents (a ++ s ++ b) = rowEvents s := by
    rw [rowEvents_append, rowEvents_append, ahead, behind, List.nil_append, List.append_nil]
  refine ⟨same ▸ h.start, fun y ok => ?_⟩
  obtain ⟨x, hx⟩ := fails y ok
  exact same.trans (h.whole x hx)

theorem reads_pure {a : α} : (pure a : Dialogue α).Reads [] := along_of_eq rfl

theorem reads_fail (e : QueryFailure) : (fail e : Dialogue α).Reads log :=
  along_error List.nil_prefix

theorem reads_request {event : Event} (h : readsRow event = true) :
    (request event).Reads [event] := by
  have asked (reply : Except DatabaseFailure event.Reply) : rowEvents [.asked event reply] = [event] :=
    List.filter_cons_of_pos h
  rintro (e | reply)
  · exact along_of_eq (asked _)
  · exact along_of_eq (asked _)

theorem Reads.bind {f : α → Dialogue β} (h : d.Reads log) (hf : ∀ a, (f a).Reads log') :
    (d >>= f).Reads (log ++ log') := by
  refine Always.bind h (fun s a hs => (hf a).mono fun s' r hr => ?_) fun s e hs => ?_
  · -- the second part only runs once all of the first log is read
    have own := hs.whole a rfl
    refine ⟨?_, fun b ok => ?_⟩
    · rw [rowEvents_append, own]
      exact (List.prefix_append_right_inj log).2 hr.start
    · rw [rowEvents_append, own, hr.whole b ok]
  · exact along_error (hs.start.trans (List.prefix_append log log'))

/-- The result is converted, which may fail. -/
theorem Reads.then_convert {f : α → Dialogue β} (h : d.Reads log) (hf : ∀ a, (f a).Reads []) :
    (d >>= f).Reads log := by
  have all := h.bind hf
  rwa [List.append_nil] at all

theorem reads_mapM {γ : Type} {f : γ → Dialogue β} {log : γ → List Event}
    (each : ∀ x, (f x).Reads (log x)) : ∀ xs : List γ, (xs.mapM f).Reads (xs.flatMap log)
  | [] => by
    rw [List.mapM_nil]
    exact reads_pure
  | x :: xs => by
    rw [List.mapM_cons]
    exact (each x).bind fun y => (reads_mapM each xs).then_convert fun ys => reads_pure

/-- With a result all of the log is read, and the result is what the answers ensure. -/
theorem Reads.ensures {expected : Expectation} {Q : α → Prop} (h : d.Reads log)
    (he : d.Ensures expected Q) : d.Always fun s r => (∀ x ∈ s, x.Answered expected) →
      ∀ a, r = .ok a → rowEvents s = log ∧ Q a :=
  (Always.and h he).mono fun _ _ hs answered a ok => ⟨hs.1.whole a ok, hs.2 answered a ok⟩

/-! ## Around the query -/

theorem Reads.any (i : ι) (h : d.Reads (logs i)) : d.ReadsAny logs := h.mono fun _ _ hs => ⟨i, hs⟩

theorem ReadsAny.quiet_bind [Inhabited ι] {f : α → Dialogue β}
    (quiet : d.Always fun s _ => Within (fun event => readsRow event = false) s)
    (h : ∀ a, (f a).ReadsAny logs) : (d >>= f).ReadsAny logs := by
  refine Always.bind quiet (fun s a hs => (h a).mono fun s' r hr => ?_) fun s e hs => ?_
  · obtain ⟨i, along⟩ := hr
    have padded : Along (logs i) (s ++ s' ++ []) r :=
      along.pad (rowEvents_of_within hs) rfl fun y ok => ⟨y, ok⟩
    rw [List.append_nil] at padded
    exact ⟨i, padded⟩
  · refine ⟨default, along_error ?_⟩
    rw [rowEvents_of_within hs]
    exact List.nil_prefix

theorem ReadsAny.bracket [Inhabited ι] {opening closing : Event}
    {body : opening.Reply → Dialogue α} (first : readsRow opening = false)
    (last : readsRow closing = false) (h : ∀ reply, (body reply).ReadsAny logs) :
    (bracket opening body closing).ReadsAny logs := by
  refine (always_bracket h).mono fun s r hs => ?_
  rcases hs with ⟨e, rfl, rfl⟩ | ⟨reply, used, inner, closed, ⟨i, along⟩, rfl, rfl⟩
  · refine ⟨default, along_error ?_⟩
    rw [rowEvents_asked first]
    exact List.nil_prefix
  · refine ⟨i, along.pad (a := [.asked opening (.ok reply)]) (rowEvents_asked first _ _)
      (rowEvents_asked last _ _) fun y ok => ?_⟩
    cases inner with
    | ok x => exact ⟨x, rfl⟩
    | error e => cases ok

theorem ReadsAny.onConnection [Inhabited ι] {p : Provider} (h : d.ReadsAny logs) :
    (onConnection p d).ReadsAny logs := by
  have inside : (p.onAcquire >>= fun _ => d).ReadsAny logs :=
    ReadsAny.quiet_bind (Sequential.within (p.sequential_onAcquire (by rfl))) fun _ => h
  refine (always_onConnection inside).mono fun s r hs => ?_
  rcases hs with ⟨e, rfl, rfl⟩ | ⟨inner, outcome, released, ⟨i, along⟩, rfl, rfl⟩
  · exact ⟨default, along_error List.nil_prefix⟩
  · refine ⟨i, along.pad (a := [.asked .acquire (.ok ())]) rfl (rowEvents_asked rfl _ _)
      fun y ok => ?_⟩
    cases released with
    | ok u => exact ⟨y, ok⟩
    | error e => cases ok

end

end QueryMethods.Dialogue
