/-
Converting what a method produced to the type that the caller asks for: nothing, one value, a
list, a set or a map. The first element that does not convert is the failure.
-/
import QueryMethods.Execution.Run
import QueryMethods.Host.Order

namespace QueryMethods

/-- A type that a method can return to the host program. -/
inductive HostReturn where
  | unit
  | single (type : HostType)
  | list (type : HostType)
  | set (type : HostType)
  | map (key value : HostType)
  deriving DecidableEq, Repr

/-- A converted result. -/
inductive Returned where
  | unit
  | single (content : Content)
  | list (contents : List Content)
  /-- Distinct, in order. -/
  | set (contents : List Content)
  /-- In key order, of each key the last entry. -/
  | map (entries : List (Content × Content))
  deriving Inhabited

namespace Output

/-- What an output is called where another one was expected. -/
def kind : Output → String
  | unit => "nothing"
  | count _ => "a row count"
  | counts _ => "batch counts"
  | one _ => "one value"
  | many _ => "a list"
  | map _ => "a map"

/-- The failure for an output of another shape. -/
def mismatch (o : Output) (expected : String) : ConversionFailure := .typeMismatch expected o.kind

end Output

namespace HostReturn

/-- How the compiler sees the type. -/
def returnType : HostReturn → ReturnType
  | unit => .unit
  | single t => .single t.valueType
  | list t => .many t.valueType
  | set t => .many t.valueType
  | map k v => .map k.valueType v.valueType

/-- A row count as a value. -/
def countDatum (n : UInt64) : Except ConversionFailure Datum :=
  if n.toNat ≤ Int64.maxValue.toInt then .ok (.value (.long (Int64.ofInt n.toNat)))
  else .error (.overflow (toString n.toNat) "i64")

/-- One value. A row count is taken for a number, but not for an optional one. -/
def singleOf (t : HostType) (o : Output) : Except ConversionFailure Content :=
  match o with
  | .one d => t.ofDatum d
  | .count n =>
    if t.optional then .error (o.mismatch "an optional value")
    else do t.ofDatum (← countDatum n)
  | o => .error (o.mismatch (if t.optional then "an optional value" else t.valueType.text))

/-- Rows or row counts, in order. -/
def listOf (t : HostType) (o : Output) : Except ConversionFailure (List Content) :=
  match o with
  | .many data => data.mapM t.ofDatum
  | .counts rows => rows.mapM fun n => do t.ofDatum (← countDatum n)
  | o => .error (o.mismatch "a list")

/-- A map entry, the key first. -/
def entryOf (key value : HostType) (entry : Datum × Datum) :
    Except ConversionFailure (Content × Content) := do
  let k ← key.ofDatum entry.1
  let v ← value.ofDatum entry.2
  pure (k, v)

/-- Map entries, in order. -/
def entriesOf (key value : HostType) (o : Output) :
    Except ConversionFailure (List (Content × Content)) :=
  match o with
  | .map entries => entries.mapM (entryOf key value)
  | o => .error (o.mismatch "a map")

/-- Convert an output. -/
def ofOutput (r : HostReturn) (o : Output) : Except ConversionFailure Returned :=
  match r with
  | unit => .ok .unit
  | single t => (singleOf t o).map .single
  | list t => (listOf t o).map .list
  | set t => (listOf t o).map fun contents => .set (Content.sortDistinct contents)
  | map k v => (entriesOf k v o).map fun entries => .map (Content.sortByKey entries)

end HostReturn

end QueryMethods
