/-
Codecs and the adapters that give them. A codec spreads one value over several slots and puts it
together again; its encoding is checked to fill the slots exactly. An adapter either has one codec
for all the types it handles or generates a codec for each.
-/
import QueryMethods.Value
import QueryMethods.ValueType

namespace QueryMethods

/-- How a value is spread over slots and put together from columns. -/
structure Codec where
  /-- The key of the adapter it came from. -/
  key : String
  /-- The type code of each slot. -/
  slotTypes : List SlotType
  split : Value → Except ConversionFailure (List Value)
  join : List Value → Except ConversionFailure Value

namespace Codec

/-- How many slots a value takes. -/
def width (c : Codec) : Nat := c.slotTypes.length

/-- The slot values of a value, exactly one per slot. -/
def encode (c : Codec) (v : Value) : Except ConversionFailure (List Value) := do
  let values ← c.split v
  if values.length = c.width then pure values
  else
    .error (.adapter (c.key ++ " encoded " ++ toString values.length ++ " values for " ++
      toString c.width ++ " slots"))

/-- The value that the columns hold. -/
def decode (c : Codec) (columns : List Value) : Except ConversionFailure Value := c.join columns

end Codec

/-- Conversions for types with no built-in mapping. -/
inductive Adapter where
  /-- One encoding for every type it handles. -/
  | runtime (handles : ValueType → Bool) (slotTypes : List SlotType)
      (split : Value → Except ConversionFailure (List Value))
      (join : List Value → Except ConversionFailure Value)
  /-- A codec made for each type. -/
  | generated (handles : ValueType → Bool) (generate : ValueType → Except ConversionFailure Codec)

/-- Whether the adapter has a codec for the type. -/
def Adapter.handles : Adapter → ValueType → Bool
  | runtime handles _ _ _ => handles
  | generated handles _ => handles

end QueryMethods
