/-
A database that follows a script: it serves the rows, counts and OUT values it is given and fails
where it is told to. It stands in for a driver when methods are tried out.
-/
import QueryMethods.Database.Dialogue

namespace QueryMethods

/-- A failure to happen at a request of that name: the next one if `number` is 1, the one behind it
if `number` is 2, and so on; 0 for one that is past. -/
structure ScriptedFault where
  event : String
  number : Nat
  error : DatabaseFailure
  deriving DecidableEq, Repr

/-- What is still to be served, and where it is to fail. -/
structure ScriptedDatabase where
  rows : List (List Value) := []
  /-- The row under the cursor. -/
  current : List Value := []
  outValues : List (Nat × Value) := []
  /-- Counts for executed entries; 1 when used up. -/
  counts : List UInt64 := []
  /-- Whole answers for flushed batches, before the counts. -/
  batches : List (List UInt64) := []
  /-- Entries queued and not yet flushed. -/
  pending : Nat := 0
  faults : List ScriptedFault := []

namespace ScriptedDatabase

/-- The next count. -/
def takeCount (db : ScriptedDatabase) : UInt64 × ScriptedDatabase :=
  match db.counts with
  | [] => (1, db)
  | n :: rest => (n, { db with counts := rest })

/-- The next counts. -/
def takeCounts (db : ScriptedDatabase) : Nat → List UInt64 × ScriptedDatabase
  | 0 => ([], db)
  | n + 1 =>
    let (first, db) := db.takeCount
    let (rest, db) := db.takeCounts n
    (first :: rest, db)

/-- The failure that is due at the next request of that name. -/
def due? (db : ScriptedDatabase) (name : String) : Option DatabaseFailure :=
  (db.faults.find? fun f => f.event = name && f.number = 1).map (·.error)

/-- Let a request of that name pass: its failures come one request nearer. -/
def pass (db : ScriptedDatabase) (name : String) : ScriptedDatabase :=
  { db with faults := db.faults.map fun f =>
      if f.event = name then { f with number := f.number - 1 } else f }

/-- The answer to a request that does not fail by the script. -/
def answer (db : ScriptedDatabase) :
    (event : Event) → Except DatabaseFailure event.Reply × ScriptedDatabase
  | .query => (.ok db.rows.length, db)
  | .next => (.ok (), { db with current := db.rows.headD [], rows := db.rows.tail })
  | .get column _ =>
    match if column = 0 then none else db.current[column - 1]? with
    | some v => (.ok v, db)
    | none => (.error ⟨"no column " ++ toString column, none⟩, db)
  | .executeUpdate => let (n, db) := db.takeCount; (.ok n, db)
  | .addBatch => (.ok (), { db with pending := db.pending + 1 })
  | .executeBatch =>
    match db.batches with
    | [] =>
      let (counts, db) := db.takeCounts db.pending
      (.ok counts, { db with pending := 0 })
    | counts :: rest => (.ok counts, { db with batches := rest, pending := 0 })
  | .outValue slot _ => (.ok (((db.outValues.find? (·.1 = slot)).map (·.2)).getD .null), db)
  | .acquire => (.ok (), db)
  | .onAcquire => (.ok (), db)
  | .prepare _ => (.ok (), db)
  | .prepareCall _ => (.ok (), db)
  | .bind _ _ => (.ok (), db)
  | .bindNull _ _ => (.ok (), db)
  | .fetchSize _ => (.ok (), db)
  | .registerOut _ _ => (.ok (), db)
  | .execute => (.ok (), db)
  | .closeRows => (.ok (), db)
  | .closeStatement => (.ok (), db)
  | .release => (.ok (), db)

/-- Answer a request. -/
def respond : Dialogue.Responder ScriptedDatabase := fun event db =>
  match db.due? event.name with
  | some e => (.error e, db.pass event.name)
  | none => (db.pass event.name).answer event

end ScriptedDatabase

end QueryMethods
