/-
Coercion of a value to a built-in type: integers and truth values between widths within range,
numbers to floats, single characters and texts, dates and time stamps. A null stays null.
-/
import QueryMethods.Value

namespace QueryMethods

namespace Value

/-- The integer view of a value, within the range of the target type. -/
def integerWithin (v : Value) (target : String) (low high : Int) : Except ConversionFailure Int :=
  match v.asInt with
  | none => .error (v.mismatch target)
  | some n => if low ≤ n ∧ n ≤ high then .ok n else .error (.overflow (toString n) target)

end Value

/-- Convert a value to the kind of the target type. -/
def BuiltinType.conform (target : BuiltinType) (v : Value) : Except ConversionFailure Value :=
  if v.isNull then .ok .null
  else
    match target with
    | .bool =>
      match v.asInt with
      | some n => .ok (.bool (n ≠ 0))
      | none => .error (v.mismatch "bool")
    | .byte => do
      let n ← v.integerWithin "i8" Int8.minValue.toInt Int8.maxValue.toInt
      return .byte (Int8.ofInt n)
    | .short => do
      let n ← v.integerWithin "i16" Int16.minValue.toInt Int16.maxValue.toInt
      return .short (Int16.ofInt n)
    | .int => do
      let n ← v.integerWithin "i32" Int32.minValue.toInt Int32.maxValue.toInt
      return .int (Int32.ofInt n)
    | .long => do
      let n ← v.integerWithin "i64" Int64.minValue.toInt Int64.maxValue.toInt
      return .long (Int64.ofInt n)
    | .float =>
      match v with
      | .float x => .ok (.float x)
      | v =>
        match v.asBinary64 with
        | some x => .ok (.float x.toBinary32)
        | none => .error (v.mismatch "f32")
    | .double =>
      match v.asBinary64 with
      | some x => .ok (.double x)
      | none => .error (v.mismatch "f64")
    | .char =>
      match v with
      | .char c => .ok (.char c)
      | .string s =>
        match s.toList with
        | [c] => .ok (.char c)
        | _ => .error (v.mismatch "char")
      | v => .error (v.mismatch "char")
    | .string =>
      match v with
      | .string s => .ok (.string s)
      | .char c => .ok (.string (String.singleton c))
      | v => .error (v.mismatch "String")
    | .date =>
      match v with
      | .date d => .ok (.date d)
      | .timestamp ts => .ok (.date ts.date)
      | v => .error (v.mismatch "date")
    | .time =>
      match v with
      | .time t => .ok (.time t)
      | .timestamp ts => .ok (.time ts.time)
      | v => .error (v.mismatch "time")
    | .timestamp =>
      match v with
      | .timestamp ts => .ok (.timestamp ts)
      | .date d => .ok (.timestamp ⟨d, .midnight⟩)
      | v => .error (v.mismatch "timestamp")

end QueryMethods
