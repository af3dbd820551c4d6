/-
Reading results. The columns of each result are fetched and decoded in order; then a bean is made,
fresh or by a constructor, and its fields are written.
-/
import QueryMethods.Database.Dialogue
import QueryMethods.Method.Compiled

namespace QueryMethods

/-- How a column or OUT parameter is fetched. -/
abbrev ColumnReader : Type := Nat → SlotType → Dialogue Value

/-! ## Reading -/

/-- Fetch and decode the columns of a mapping. -/
def SlotMapping.read (m : SlotMapping) (column : ColumnReader) : Dialogue Value := do
  let columns ← (m.slots.zip m.conversion.slotTypes).mapM fun (slot, type) => column slot type
  match m.decode columns with
  | .ok v => pure v
  | .error e => .fail (.conversion e)

/-- Read the results that make a bean, in order: fields and constructor slots. -/
def ResultReading.readParts (column : ColumnReader) :
    List ResultReading → Dialogue (List (Destination × Value))
  | [] => pure []
  | r :: rest =>
    match r.target with
    | .field _ | .constructorSlot _ => do
      let v ← r.mapping.read column
      let parts ← readParts column rest
      pure ((r.target, v) :: parts)
    | .whole | .mapKey => readParts column rest

/-! ## Putting together -/

namespace Destination

/-- The value for the constructor parameter with that number, the last one read; null if none. -/
def slotValue (parts : List (Destination × Value)) (number : Nat) : Value :=
  ((parts.filter (·.1 = .constructorSlot number)).getLast?.map (·.2)).getD .null

/-- Write the fields in order. -/
def writeFields (b : Bean) : List (Destination × Value) → Except ConversionFailure Bean
  | [] => .ok b
  | (.field path, v) :: rest => do
    let b ← path.write b (.value v)
    writeFields b rest
  | _ :: rest => writeFields b rest

end Destination

namespace BeanClass

/-- An instance made from what was read. -/
def construct (c : BeanClass) (origin : InstanceOrigin)
    (parts : List (Destination × Value)) : Except ConversionFailure Bean :=
  match origin with
  | .fresh =>
    match c.fresh? with
    | some b => .ok b
    | none => .error (.beanMismatch c.name)
  | .constructor index arity =>
    match c.constructors[index]? with
    | some constructor =>
      constructor.build
        ((List.range arity).map fun i => .value (Destination.slotValue parts (i + 1)))
    | none => .error (.beanMismatch c.name)

/-- The instance with its fields written. -/
def assemble (c : BeanClass) (origin : InstanceOrigin)
    (parts : List (Destination × Value)) : Except ConversionFailure Bean := do
  let b ← c.construct origin parts
  Destination.writeFields b parts

end BeanClass

namespace CompiledMethod

/-- The key of a map entry, from the current row. -/
def readMapKey (m : CompiledMethod) (column : ColumnReader) : Dialogue Datum :=
  match m.key.bind (m.results[·]?) with
  | none => .fail (.conversion (.beanMismatch "map key"))
  | some r => do
    let v ← r.mapping.read column
    pure (.value v)

/-- One result, from the current row or from OUT parameters. -/
def readResult (m : CompiledMethod) (column : ColumnReader) : Dialogue Datum :=
  match m.rowPlan with
  | .none => pure (.value .null)
  | .atomic index =>
    match m.results[index]? with
    | none => .fail (.conversion (.beanMismatch "result column"))
    | some r => do
      let v ← r.mapping.read column
      pure (.value v)
  | .bean type origin => do
    let parts ← ResultReading.readParts column m.results
    match type.assemble origin parts with
    | .ok b => pure (.bean b)
    | .error e => .fail (.conversion e)

end CompiledMethod

end QueryMethods
