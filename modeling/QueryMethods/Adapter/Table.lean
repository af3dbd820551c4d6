/-
Adapters by key. A key is taken once and is no built-in type tag; keys are kept in order. A tag
selects the adapter of that key; a type without a tag is served by the adapter of its own name,
else by the first that handles it.
-/
import QueryMethods.Adapter.Codec
import QueryMethods.Failure

namespace QueryMethods

/-- Adapters by key, in the order of the keys. -/
structure AdapterTable where
  entries : List (String × Adapter) := []

namespace AdapterTable

/-- Insert into entries in key order. -/
def insertSorted (key : String) (a : Adapter) : List (String × Adapter) → List (String × Adapter)
  | [] => [(key, a)]
  | (k, b) :: rest =>
    if key < k then (key, a) :: (k, b) :: rest else (k, b) :: insertSorted key a rest

/-- The adapter of that key. -/
def get? (r : AdapterTable) (key : String) : Option Adapter :=
  (r.entries.find? (·.1 = key)).map (·.2)

/-- The keys, in order. -/
def keys (r : AdapterTable) : List String := r.entries.map (·.1)

/-- Whether an adapter can be registered under the key. -/
def isFree (r : AdapterTable) (key : String) : Bool :=
  (BuiltinType.ofTag? key).isNone && (r.get? key).isNone

/-- Add an adapter. -/
def register (r : AdapterTable) (key : String) (a : Adapter) :
    Except QueryFailure AdapterTable :=
  if r.isFree key then .ok ⟨insertSorted key a r.entries⟩ else .error (.duplicateAdapter key)

/-- The codec of an adapter for a type. -/
def build (key : String) (a : Adapter) (t : ValueType) : Except CodecFailure Codec :=
  if a.handles t then do
    let codec ← match a with
      | .runtime _ slotTypes split join => pure ⟨key, slotTypes, split, join⟩
      | .generated _ generate => (generate t).mapError .generation
    if codec.slotTypes = [] then .error (.missing (.slotless t key))
    else pure { codec with key := key }
  else .error (.missing (.unhandled t key))

/-- The codec that a tag selects; none if no adapter has this key. -/
def forTag (r : AdapterTable) (key : String) (t : ValueType) :
    Except CodecFailure (Option Codec) :=
  match r.get? key with
  | some a => (build key a t).map some
  | none => .ok none

/-- The codec for a type without a tag; none if no adapter serves it. -/
def forType (r : AdapterTable) (t : ValueType) : Except CodecFailure (Option Codec) :=
  match r.get? t.name with
  | some a => (build t.name a t).map some
  | none =>
    match r.entries.find? fun (_, a) => a.handles t with
    | some (key, a) => (build key a t).map some
    | none => .ok none

end AdapterTable

end QueryMethods
