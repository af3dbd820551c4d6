/-
Binding encoded values. The marker of a list becomes one marker per value, and every slot behind
it moves by as many as were added, or by one back for an empty list.
-/
import QueryMethods.Database.Provider
import QueryMethods.Execution.Filling
import QueryMethods.Sql.Marker

namespace QueryMethods

namespace ParameterBinding

/-- Whether the values of a list are bound. -/
def isIterated (p : ParameterBinding) : Bool := p.mapping.iteration ≠ .single

/-- The first slot once the lists before it have moved it. Slots are 64-bit words from 1 on. -/
def movedSlot (p : ParameterBinding) (shift : Int) : Except QueryFailure Nat :=
  let slot := p.mapping.firstSlot + shift
  if 0 < slot ∧ slot < UInt64.size then .ok slot.toNat
  else
    .error (.statement
      ⟨"bind slot of argument " ++ toString (p.argument + 1) ++ " shifted out of range", none⟩)

theorem movedSlot_eq_ok {p : ParameterBinding} {shift : Int} {slot : Nat} :
    p.movedSlot shift = .ok slot ↔
      (p.mapping.firstSlot : Int) + shift = slot ∧ 0 < slot ∧ slot < UInt64.size := by
  unfold movedSlot
  dsimp only
  split
  · next word =>
    rw [Except.ok.injEq]
    omega
  · next word => exact ⟨nofun, fun _ => by omega⟩

end ParameterBinding

namespace FilledParameter

/-- By how much the parameter moves the slots behind it. -/
def growth (e : FilledParameter) : Int :=
  if e.parameter.isIterated then (e.values.length : Int) - 1 else 0

/-- The statement with one marker per value, `shift` being the growth so far. -/
def expandFrom (shift : Int) (sql : String) : List FilledParameter → Except QueryFailure String
  | [] => .ok sql
  | e :: rest =>
    if e.parameter.isIterated then do
      let slot ← e.parameter.movedSlot shift
      let sql := Sql.replaceMarker sql slot e.values.length e.parameter.separator
      expandFrom (shift + e.growth) sql rest
    else expandFrom shift sql rest

/-- The statement with one marker per value. -/
def expand (sql : String) (encoded : List FilledParameter) : Except QueryFailure String :=
  expandFrom 0 sql encoded

/-- The type code of a null at that place among the values. -/
def nullType (types : List SlotType) (index : Nat) : SlotType :=
  (types[index % max types.length 1]?).getD .varchar

/-- The slot behind a slot; the last word is followed by 0. -/
def nextSlot (slot : Nat) : Nat := (slot + 1) % UInt64.size

/-- Bind values to consecutive slots from `slot` on; `index` counts them. -/
def bindSlots (types : List SlotType) (slot index : Nat) : List Value → Dialogue Unit
  | [] => pure ()
  | v :: rest => do
    if v.isNull then Dialogue.request (.bindNull slot (nullType types index))
    else Dialogue.request (.bind slot v)
    bindSlots types (nextSlot slot) (index + 1) rest

/-- Bind every parameter, its slots moved by `shift`; gives the number of values. -/
def bindFrom (shift : Int) : List FilledParameter → Dialogue Nat
  | [] => pure 0
  | e :: rest => do
    let first ← Dialogue.ofExcept (e.parameter.movedSlot shift)
    bindSlots e.parameter.mapping.conversion.slotTypes first 0 e.values
    let bound ← bindFrom (shift + e.growth) rest
    pure (e.values.length + bound)

/-- Bind plain values to consecutive slots. -/
def bindValues (slot : Nat) : List Value → Dialogue Unit
  | [] => pure ()
  | v :: rest => do
    Dialogue.request (.bind slot v)
    bindValues (slot + 1) rest

end FilledParameter

end QueryMethods
