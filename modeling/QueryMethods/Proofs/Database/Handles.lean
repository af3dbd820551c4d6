/-
The life of a handle in a run: it is opened at most once, used only while it is open, and closed
exactly once. What is done before the opening and behind the closing does not matter as long as
it leaves the handle alone, so the lives of nested handles are found from the inside out.
-/
import QueryMethods.Proofs.Database.FirstFailure

namespace QueryMethods.Dialogue

/-! ## Kinds of requests -/

/-- Requests that prepare a statement. -/
def Prepares (event : Event) : Prop := (∃ sql, event = .prepare sql) ∨ ∃ sql, event = .prepareCall sql

/-- Requests on a prepared statement, those on its cursor included. -/
def onPrepared : Event → Bool
  | .acquire | .onAcquire | .prepare _ | .prepareCall _ | .closeStatement | .release => false
  | _ => true

/-- Requests for a row or for a column of it. -/
def readsRow : Event → Bool
  | .next | .get _ _ => true
  | _ => false

/-- Requests on a prepared statement that have nothing to do with a cursor. -/
def offCursor (event : Event) : Bool :=
  onPrepared event && !readsRow event && event ≠ .query && event ≠ .closeRows

/-! ## Lives -/

/-- A step that opens a handle: the request did not fail. -/
def Opens (opening : Event → Prop) : Step → Prop
  | .asked event (.ok _) => opening event
  | _ => False

/-- What a handle goes through: it is never opened, and then neither used nor closed, or it is
opened, used and closed, all else being done with other things. -/
inductive HandleLife (opening : Event → Prop) (uses : Event → Bool) (closing : Event)
    (steps : List Step) : Prop
  | unopened (never : ∀ x ∈ steps, ¬ Opens opening x)
      (idle : Within (fun event => uses event = false ∧ event ≠ closing) steps)
  | closed (before used rest : List Step) (first : Step)
      (reply : Except DatabaseFailure closing.Reply)
      (split : steps = before ++ first :: used ++ .asked closing reply :: rest)
      (opened : Opens opening first)
      (once : ∀ x ∈ before ++ used ++ rest, ¬ Opens opening x)
      (closedOnce : Within (fun event => event ≠ closing) (before ++ used ++ rest))
      (idle : Within (fun event => uses event = false) (before ++ rest))

/-- Requests that leave a handle alone. -/
def LeavesAlone (opening : Event → Prop) (uses : Event → Bool) (closing : Event) (event : Event) :
    Prop := ¬ opening event ∧ uses event = false ∧ event ≠ closing

section

variable {opening : Event → Prop} {uses : Event → Bool} {closing : Event}

theorem not_opens_of_within {s : List Step} (h : Within (fun event => ¬ opening event) s) :
    ∀ x ∈ s, ¬ Opens opening x := by
  intro x hx ho
  match x, ho with
  | .asked event (.ok reply), ho =>
    exact h event (List.mem_filterMap.2 ⟨_, hx, rfl⟩) ho

theorem LeavesAlone.never {s : List Step} (h : Within (LeavesAlone opening uses closing) s) :
    ∀ x ∈ s, ¬ Opens opening x := not_opens_of_within (h.mono fun _ he => he.1)

theorem HandleLife.untouched {s : List Step} (h : Within (LeavesAlone opening uses closing) s) :
    HandleLife opening uses closing s := .unopened (LeavesAlone.never h) (h.mono fun _ he => he.2)

/-- A life goes on as it was in a longer run that leaves the handle alone elsewhere. -/
theorem HandleLife.pad {a s b : List Step} (h : HandleLife opening uses closing s)
    (ha : Within (LeavesAlone opening uses closing) a)
    (hb : Within (LeavesAlone opening uses closing) b) :
    HandleLife opening uses closing (a ++ s ++ b) := by
  have na := LeavesAlone.never ha
  have nb := LeavesAlone.never hb
  have ea := ha.mono fun _ he => he.2
  have eb := hb.mono fun _ he => he.2
  cases h with
  | unopened never idle =>
    refine .unopened ?_ (within_append.2 ⟨within_append.2 ⟨ea, idle⟩, eb⟩)
    intro x hx
    rcases List.mem_append.1 hx with hx | hx
    · exact (List.mem_append.1 hx).elim (na x) (never x)
    · exact nb x hx
  | closed before used rest first reply split opened once closedOnce idle =>
    obtain ⟨⟨cb, cu⟩, cr⟩ := by simpa only [within_append] using closedOnce
    obtain ⟨ib, ir⟩ := within_append.1 idle
    refine .closed (a ++ before) used (rest ++ b) first reply ?_ opened ?_ ?_ ?_
    · rw [split]; simp only [List.append_assoc, List.cons_append]
    · intro x hx
      have : x ∈ a ∨ x ∈ before ++ used ++ rest ∨ x ∈ b := by
        simp only [List.mem_append] at hx ⊢
        tauto
      exact this.elim (na x) fun h => h.elim (once x) (nb x)
    · simp only [within_append]
      exact ⟨⟨⟨ea.mono fun _ he => he.2, cb⟩, cu⟩, cr, eb.mono fun _ he => he.2⟩
    · simp only [within_append]
      exact ⟨⟨ea.mono fun _ he => he.1, ib⟩, ir, eb.mono fun _ he => he.1⟩

/-- A handle that is bracketed lives well if its inside neither opens nor closes it. -/
theorem handleLife_bracket {α : Type} {first : Event} {body : first.Reply → Dialogue α}
    (ho : opening first) (hu : uses first = false) (hc : first ≠ closing)
    (hb : ∀ reply, (body reply).Always fun s _ =>
      Within (fun event => ¬ opening event ∧ event ≠ closing) s) :
    (bracket first body closing).Always fun s _ => HandleLife opening uses closing s := by
  refine (always_bracket hb).mono fun s r hr => ?_
  rcases hr with ⟨e, rfl, rfl⟩ | ⟨reply, used, inner, closed, hin, rfl, rfl⟩
  · refine .unopened ?_ (within_asked.2 ⟨⟨hu, hc⟩, within_nil⟩)
    intro x hx
    obtain rfl := List.mem_singleton.1 hx
    exact id
  · refine .closed [] used [] (.asked first (.ok reply)) closed rfl ho ?_ ?_ within_nil
    · rw [List.nil_append, List.append_nil]
      exact not_opens_of_within (hin.mono fun _ he => he.1)
    · rw [List.nil_append, List.append_nil]
      exact hin.mono fun _ he => he.2

end

/-! ## Around a handle -/

section

variable {α : Type} {A : Event → Prop} {Q : List Step → Prop}
  (pad : ∀ a s b, Within A a → Within A b → Q s → Q (a ++ s ++ b))

include pad

/-- What holds of the use of a statement and does not depend on what is around it holds with the
statement opened and closed. -/
theorem always_onStatement_of_pad {p : Provider} {isCall : Bool} {sql : String} {body : Dialogue α}
    (nil : Q []) (opening : A (p.prepareEvent isCall sql)) (closing : A .closeStatement)
    (h : body.Always fun s _ => Q s) :
    (onStatement p isCall sql body).Always fun s _ => Q s := by
  refine (always_bracket fun _ => h).mono fun s r hr => ?_
  have one {event : Event} (he : A event) (reply : Except DatabaseFailure event.Reply) :
      Within A [.asked event reply] := within_asked.2 ⟨he, within_nil⟩
  rcases hr with ⟨e, rfl, -⟩ | ⟨reply, used, inner, closed, hin, rfl, -⟩
  · exact pad [_] [] [] (one opening _) within_nil nil
  · exact pad [_] used [_] (one opening _) (one closing _) hin

/-- The like for a connection. -/
theorem always_onConnection_of_pad {p : Provider} {body : Dialogue α} (nil : Q [])
    (acquire : A .acquire) (acquired : A .onAcquire) (release : A .release)
    (h : body.Always fun s _ => Q s) : (onConnection p body).Always fun s _ => Q s := by
  have inside : (p.onAcquire >>= fun _ => body).Always fun s _ => Q s := by
    refine (p.sequential_onAcquire acquired).within.bind (fun s _ hs => ?_) fun s _ hs => ?_
    · exact h.mono fun s' _ hs' => by simpa using pad s s' [] hs within_nil hs'
    · simpa using pad s [] [] hs within_nil nil
  refine (always_onConnection inside).mono fun s r hr => ?_
  have one {event : Event} (he : A event) (reply : Except DatabaseFailure event.Reply) :
      Within A [.asked event reply] := within_asked.2 ⟨he, within_nil⟩
  rcases hr with ⟨e, rfl, -⟩ | ⟨inner, outcome, released, hin, rfl, -⟩
  · exact pad [_] [] [] (one acquire _) within_nil nil
  · exact pad [_] inner [_] (one acquire _) (one release _) hin

end

/-! ## Connections -/

/-- What a connection goes through: it is never asked for, it is refused and nothing else happens,
or it is released as the last thing. -/
inductive ConnectionLife (steps : List Step) : Prop
  | unopened (idle : events steps = [])
  | refused {e : DatabaseFailure} (only : steps = [.asked .acquire (.error e)])
  | released {inner : List Step} {reply : Except DatabaseFailure Unit}
      (split : steps = .asked .acquire (.ok ()) :: (inner ++ [.asked .release reply]))
      (once : Within Inside inner)

section

variable {α : Type} {p : Provider} {body : Dialogue α}

theorem connectionLife_onConnection
    (h : (p.onAcquire >>= fun _ => body).Always fun s _ => Within Inside s) :
    (onConnection p body).Always fun s _ => ConnectionLife s := by
  refine (always_onConnection h).mono fun s r hr => ?_
  rcases hr with ⟨e, rfl, -⟩ | ⟨inner, outcome, released, hin, rfl, -⟩
  · exact .refused rfl
  · exact .released rfl hin

theorem stops_onConnection (h : (p.onAcquire >>= fun _ => body).Always Orderly) :
    (onConnection p body).Always fun s _ => Stops s := by
  refine (always_onConnection h).mono fun s r hr => ?_
  rcases hr with ⟨e, rfl, -⟩ | ⟨inner, outcome, released, hin, rfl, -⟩
  · exact List.pairwise_singleton _ _
  · refine List.pairwise_cons.2 ⟨fun y _ hf => absurd (failure_asked_ok _ _) hf, ?_⟩
    refine hin.2.append (List.pairwise_singleton _ _) fun _ y hy => ?_
    obtain rfl := List.mem_singleton.1 hy
    exact ⟨.release, rfl, rfl⟩

end

end QueryMethods.Dialogue
