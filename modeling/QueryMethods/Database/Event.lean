/-
What can be asked of a database while a method runs, and the kind of answer each request has.
-/
import QueryMethods.Failure

namespace QueryMethods

/-- A request to the database. Slots and columns count from 1. -/
inductive Event where
  | acquire
  | onAcquire
  | prepare (sql : String)
  | prepareCall (sql : String)
  | bind (slot : Nat) (value : Value)
  | bindNull (slot : Nat) (type : SlotType)
  | fetchSize (rows : Nat)
  /-- Run the statement and open a cursor; the answer says how many rows it has. -/
  | query
  /-- Move the cursor on; behind the last row it finds none. -/
  | next
  | get (column : Nat) (type : SlotType)
  | executeUpdate
  | addBatch
  | executeBatch
  | registerOut (slot : Nat) (type : SlotType)
  | execute
  | outValue (slot : Nat) (type : SlotType)
  | closeRows
  | closeStatement
  | release
  deriving DecidableEq, Repr, Inhabited

namespace Event

/-- The kind of answer to a request. -/
abbrev Reply : Event → Type
  | query => Nat
  | get _ _ => Value
  | executeUpdate => UInt64
  | executeBatch => List UInt64
  | outValue _ _ => Value
  | _ => Unit

/-- The name of a request. -/
def name : Event → String
  | acquire => "acquire"
  | onAcquire => "on_acquire"
  | prepare _ => "prepare"
  | prepareCall _ => "prepare_call"
  | bind _ _ => "bind"
  | bindNull _ _ => "bind_null"
  | fetchSize _ => "fetch_size"
  | query => "query"
  | next => "next"
  | get _ _ => "get"
  | executeUpdate => "execute_update"
  | addBatch => "add_batch"
  | executeBatch => "execute_batch"
  | registerOut _ _ => "register_out"
  | execute => "execute"
  | outValue _ _ => "out_value"
  | closeRows => "close_rows"
  | closeStatement => "close_statement"
  | release => "release"

end Event

end QueryMethods
