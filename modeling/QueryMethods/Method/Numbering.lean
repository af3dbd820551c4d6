/-
Numbering of slots and columns. In a template every placeholder has one marker; a value that takes
several slots gets as many markers, and the markers behind it move on.
-/
import QueryMethods.Method.Compiled
import QueryMethods.Sql.Marker

namespace QueryMethods

/-- A marker of a template text and the number of slots of the value it stands for. -/
structure WideMarker where
  slot : Nat
  width : Nat
  deriving DecidableEq, Repr

namespace WideMarker

/-- What stands between the slots of one value. -/
def separator : String := ", "

/-- By how much the markers before `slot` push it on. -/
def shift : List WideMarker → Nat → Nat
  | [], _ => 0
  | m :: rest, slot => (if m.slot < slot then m.width - 1 else 0) + shift rest slot

/-- The slots of the value whose marker was `slot`. -/
def slots (markers : List WideMarker) (slot width : Nat) : List Nat :=
  List.range' (slot + shift markers slot) width

/-- Write out the markers of wide values, in the order given. -/
def expand (markers : List WideMarker) (sql : String) : String :=
  markers.foldl
    (fun text m =>
      if 1 < m.width then Sql.replaceMarker text (m.slot + shift markers m.slot) m.width separator
      else text)
    sql

/-- The last slot. -/
def lastSlot (markers : List WideMarker) : Nat :=
  (markers.map fun m => m.slot + shift markers m.slot + m.width - 1).foldl max 0

/-- In the order of the text. -/
def sort (markers : List WideMarker) : List WideMarker :=
  markers.mergeSort fun a b => a.slot ≤ b.slot

end WideMarker

/-- The marker of a mapping that still has its slot in the template. A list keeps one marker. -/
def SlotMapping.wideMarker (m : SlotMapping) : WideMarker :=
  ⟨m.firstSlot, if m.iteration = .single then m.conversion.width else 1⟩

/-- Give a mapping its slots. -/
def SlotMapping.number (markers : List WideMarker) (m : SlotMapping) : SlotMapping :=
  { m with slots := WideMarker.slots markers m.wideMarker.slot m.wideMarker.width }

/-- Give results consecutive columns, as many as their values take, from `column` on. -/
def ResultReading.numberColumns (column : Nat) : List ResultReading → List ResultReading
  | [] => []
  | r :: rest =>
    let width := r.mapping.conversion.width
    { r with mapping := { r.mapping with slots := List.range' column width } } ::
      numberColumns (column + width) rest

end QueryMethods
