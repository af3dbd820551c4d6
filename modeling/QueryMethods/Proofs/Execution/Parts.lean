/-
The parts of a run between the handles: binding, reading and queueing are sequences of requests
of their own kinds, so that what is known of sequences holds of them.
-/
import QueryMethods.Execution.Run
import QueryMethods.Proofs.Database.Paths

namespace QueryMethods

open Dialogue

variable {A : Event → Prop}

/-! ## Binding -/

namespace FilledParameter

section

variable (hb : ∀ slot v, A (.bind slot v)) (hn : ∀ slot type, A (.bindNull slot type))

include hb hn

theorem sequential_bindSlots (types : List SlotType) :
    ∀ (slot index : Nat) (vs : List Value), Sequential A (bindSlots types slot index vs)
  | _, _, [] => sequential_pure _
  | slot, index, v :: rest => by
    have ih := sequential_bindSlots types (nextSlot slot) (index + 1) rest
    unfold bindSlots
    dsimp only
    split
    · exact (sequential_request (hn _ _)).bind fun _ => ih
    · exact (sequential_request (hb _ _)).bind fun _ => ih

theorem sequential_bindFrom : ∀ (shift : Int) (ps : List FilledParameter),
    Sequential A (bindFrom shift ps)
  | _, [] => sequential_pure _
  | shift, e :: rest => by
    unfold bindFrom
    exact (sequential_ofExcept _).bind fun _ => (sequential_bindSlots hb hn _ _ _ _).bind fun _ =>
      (sequential_bindFrom _ rest).bind fun _ => sequential_pure _

end

theorem sequential_bindValues (hb : ∀ slot v, A (.bind slot v)) :
    ∀ (slot : Nat) (vs : List Value), Sequential A (bindValues slot vs)
  | _, [] => sequential_pure _
  | slot, _ :: rest => by
    unfold bindValues
    exact (sequential_request (hb _ _)).bind fun _ => sequential_bindValues hb _ rest

end FilledParameter

/-! ## Reading results -/

/-- Results that make a bean. -/
def ResultReading.isPart (r : ResultReading) : Bool :=
  match r.target with
  | .field _ | .constructorSlot _ => true
  | .whole | .mapKey => false

section

variable {column : ColumnReader} (hc : ∀ slot type, Sequential A (column slot type))

include hc

theorem SlotMapping.sequential_read (m : SlotMapping) : Sequential A (m.read column) := by
  unfold SlotMapping.read
  refine (sequential_mapM (fun x : Nat × SlotType => hc x.1 x.2) _).bind fun columns => ?_
  cases m.decode columns with
  | ok v => exact sequential_pure v
  | error e => exact sequential_fail _

theorem ResultReading.sequential_readParts :
    ∀ rs : List ResultReading, Sequential A (readParts column rs)
  | [] => sequential_pure _
  | r :: rest => by
    have ih := sequential_readParts rest
    have hr := r.mapping.sequential_read hc
    unfold readParts
    cases r.target with
    | field path => exact hr.bind fun _ => ih.bind fun _ => sequential_pure _
    | constructorSlot n => exact hr.bind fun _ => ih.bind fun _ => sequential_pure _
    | whole => exact ih
    | mapKey => exact ih

namespace CompiledMethod

variable (m : CompiledMethod)

theorem sequential_readMapKey : Sequential A (m.readMapKey column) := by
  unfold readMapKey
  split
  · exact sequential_fail _
  · exact (SlotMapping.sequential_read hc _).bind fun _ => sequential_pure _

theorem sequential_readResult : Sequential A (m.readResult column) := by
  unfold readResult
  split
  · exact sequential_pure _
  · split
    · exact sequential_fail _
    · exact (SlotMapping.sequential_read hc _).bind fun _ => sequential_pure _
  · refine (ResultReading.sequential_readParts hc _).bind fun parts => ?_
    split
    · exact sequential_pure _
    · exact sequential_fail _

end CompiledMethod

end

namespace CompiledMethod

variable (m : CompiledMethod)

/-! ## Rows -/

section

variable (hn : A .next) (hg : ∀ slot type, A (.get slot type))

include hg

theorem sequential_column (slot : Nat) (type : SlotType) : Sequential A (column slot type) :=
  sequential_request (hg slot type)

theorem sequential_readEntry : Sequential A m.readEntry :=
  (m.sequential_readMapKey (sequential_column hg)).bind fun _ =>
    (m.sequential_readResult (sequential_column hg)).bind fun _ => sequential_pure _

include hn

omit hg in
theorem sequential_readRows {α : Type} {row : Dialogue α} (hr : Sequential A row) :
    ∀ n, Sequential A (readRows row n)
  | 0 => (sequential_request hn).bind fun _ => sequential_pure _
  | n + 1 => by
    unfold readRows
    exact (sequential_request hn).bind fun _ => hr.bind fun _ =>
      (sequential_readRows hr n).bind fun _ => sequential_pure _

theorem sequential_readSingle (nullable : Bool) (rows : Nat) :
    Sequential A (m.readSingle nullable rows) := by
  unfold readSingle
  refine (sequential_request hn).bind fun _ => ?_
  split
  · split
    · exact sequential_pure _
    · exact sequential_fail _
  · refine (m.sequential_readResult (sequential_column hg)).bind fun _ =>
      (sequential_request hn).bind fun _ => ?_
    split
    · exact sequential_fail _
    · exact sequential_pure _

end

/-! ## Parameters -/

/-- Entries are run by what binds each of them and the requests in between. -/
theorem sequential_runEntries_of (hu : A .executeUpdate) (ha : A .addBatch) (he : A .executeBatch)
    (size : Nat) (args : List Bindable) : ∀ (pending : Nat) (items : List Bindable),
      (∀ item ∈ items, Sequential A (m.bindEntry args item)) →
      Sequential A (m.runEntries size args pending items)
  | pending, [], _ => by
    unfold runEntries
    split
    · exact sequential_request he
    · exact sequential_pure _
  | pending, item :: rest, entries => by
    obtain ⟨entry, others⟩ := List.forall_mem_cons.1 entries
    have ih := fun pending => sequential_runEntries_of hu ha he size args pending rest others
    unfold runEntries
    refine entry.bind fun _ => ?_
    split
    · exact (sequential_request hu).bind fun _ => (ih _).bind fun _ => sequential_pure _
    · refine (sequential_request ha).bind fun _ => ?_
      split
      · exact (sequential_request he).bind fun _ => (ih _).bind fun _ => sequential_pure _
      · exact ih _

section

variable (hb : ∀ slot v, A (.bind slot v)) (hn : ∀ slot type, A (.bindNull slot type))

include hb hn

theorem ReadySelect.sequential_bind (r : ReadySelect) : Sequential A r.bind := by
  unfold ReadySelect.bind
  split
  · exact (FilledParameter.sequential_bindValues hb _ _).bind fun _ =>
      (FilledParameter.sequential_bindFrom hb hn _ _).bind fun _ => sequential_pure _
  · exact (FilledParameter.sequential_bindFrom hb hn _ _).bind fun _ =>
      FilledParameter.sequential_bindValues hb _ _

theorem sequential_bindParameters (encoded : List FilledParameter) :
    Sequential A (bindParameters encoded) :=
  (FilledParameter.sequential_bindFrom hb hn _ _).bind fun _ => sequential_pure _

theorem sequential_bindEntry (args : List Bindable) (item : Bindable) :
    Sequential A (m.bindEntry args item) :=
  (sequential_ofExcept _).bind fun encoded => sequential_bindParameters hb hn encoded

theorem sequential_runEntries (hu : A .executeUpdate) (ha : A .addBatch) (he : A .executeBatch)
    (size : Nat) (args : List Bindable) (pending : Nat) (items : List Bindable) :
    Sequential A (m.runEntries size args pending items) :=
  m.sequential_runEntries_of hu ha he size args pending items fun item _ =>
    m.sequential_bindEntry hb hn args item

end

theorem sequential_registerResults (p : Provider) (h : ∀ slot type, A (.registerOut slot type)) :
    ∀ rs : List ResultReading, Sequential A (registerResults p rs)
  | [] => sequential_pure _
  | r :: rest => by
    unfold registerResults
    exact (sequential_forM (fun x : Nat × SlotType => p.sequential_registerOut h x.1 x.2) _).bind fun _ =>
      sequential_registerResults p h rest

end CompiledMethod

end QueryMethods
