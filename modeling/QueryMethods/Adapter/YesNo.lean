/-
An adapter that keeps truth values as `Y` or `N` in a character column. Only for optional types
does a column without a character read as null.
-/
import QueryMethods.Adapter.Codec

namespace QueryMethods

namespace YesNo

/-- `Y` for true, `N` for false. -/
def encode : Value → Except ConversionFailure (List Value)
  | .bool b => .ok [.char (if b then 'Y' else 'N')]
  | .null => .ok [.null]
  | v => .error (v.mismatch "bool")

/-- The first character of a column that holds text. -/
def flag? : List Value → Option Char
  | .char c :: _ => some c
  | .string s :: _ => s.toList.head?
  | _ => none

/-- The truth value of the first column, letters of either case. -/
def decode (nullable : Bool) (columns : List Value) : Except ConversionFailure Value :=
  match flag? columns with
  | none => if nullable then .ok .null else .error (.unexpectedNull "bool")
  | some c =>
    if c = 'Y' ∨ c = 'y' then .ok (.bool true)
    else if c = 'N' ∨ c = 'n' then .ok (.bool false)
    else .error (.adapter ("'" ++ String.singleton c ++ "' is not a Y/N flag"))

/-- The adapter: it serves truth values and makes a codec for each nullability. -/
def adapter : Adapter :=
  .generated (fun t => t.scalar? = some .bool) fun t =>
    .ok ⟨"", [.char], encode, decode t.nullable⟩

end YesNo

end QueryMethods
