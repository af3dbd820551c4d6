/-
What a provider of connections offers, and the handles a method uses: a connection, a statement
and a cursor, each closed whatever happened while it was open. The first failure is the one that
is reported; a failed release reports itself together with the failure before it.
-/
import QueryMethods.Database.Dialogue
import QueryMethods.Paging

namespace QueryMethods

/-- The operations that a driver may leave at their defaults. -/
inductive OptionalOperation where
  | onAcquire
  | prepareCall
  | fetchSize
  | registerOut
  | execute
  | outValue
  deriving DecidableEq, Repr

/-- The name of an optional operation. -/
def OptionalOperation.name : OptionalOperation → String
  | onAcquire => "on_acquire"
  | prepareCall => "prepare_call"
  | fetchSize => "fetch_size"
  | registerOut => "register_out"
  | execute => "execute"
  | outValue => "out_value"

/-- A source of connections. -/
structure Provider where
  /-- The optional operations that its driver has of its own. -/
  supports : OptionalOperation → Bool
  paging : Option PagingStrategy

namespace Provider

/-! ## Optional operations -/

/-- Called right behind `acquire`; by default nothing is done. -/
def onAcquire (p : Provider) : Dialogue Unit :=
  if p.supports .onAcquire then .request .onAcquire else pure ()

/-- Prepare a statement; by default a call is prepared like any other. -/
def prepareEvent (p : Provider) (isCall : Bool) (sql : String) : Event :=
  if isCall && p.supports .prepareCall then .prepareCall sql else .prepare sql

/-- A hint for the rows per round trip; by default it is dropped. -/
def fetchSize (p : Provider) (rows : Nat) : Dialogue Unit :=
  if p.supports .fetchSize then .request (.fetchSize rows) else pure ()

/-- What is said where there are no OUT parameters. -/
def noOutParameters : DatabaseFailure :=
  ⟨"OUT parameters are not supported by this statement", none⟩

/-- Announce an OUT parameter; by default there are none. -/
def registerOut (p : Provider) (slot : Nat) (type : SlotType) : Dialogue Unit :=
  if p.supports .registerOut then .request (.registerOut slot type)
  else .fail (.statement noOutParameters)

/-- Run a call; by default it runs like an update. -/
def execute (p : Provider) : Dialogue Unit :=
  if p.supports .execute then .request .execute
  else do
    let _ ← Dialogue.request .executeUpdate
    pure ()

/-- Read an OUT parameter; by default there are none. -/
def outValue (p : Provider) (slot : Nat) (type : SlotType) : Dialogue Value :=
  if p.supports .outValue then .request (.outValue slot type)
  else .fail (.statement noOutParameters)

end Provider

namespace Dialogue

/-! ## Handles -/

/-- The outcome of using a handle, once it is closed: the first failure. -/
def afterClose {α β : Type} (outcome : Except QueryFailure α) (closed : Except DatabaseFailure β) :
    Except QueryFailure α :=
  match outcome, closed with
  | .ok _, .error e => .error (.statement e)
  | outcome, _ => outcome

/-- Open a handle, use it, and close it. -/
def bracket {α : Type} (opening : Event) (body : opening.Reply → Dialogue α)
    (closing : Event) : Dialogue α :=
  ask opening fun
    | .error e => done (.error (.statement e))
    | .ok reply =>
      (body reply).finish fun outcome => ask closing fun closed => done (afterClose outcome closed)

/-- Use a prepared statement. -/
def onStatement {α : Type} (p : Provider) (isCall : Bool) (sql : String) (body : Dialogue α) :
    Dialogue α :=
  bracket (p.prepareEvent isCall sql) (fun _ => body) .closeStatement

/-- Use a cursor, given the number of its rows. -/
def onRows {α : Type} (body : Nat → Dialogue α) : Dialogue α :=
  bracket .query body .closeRows

/-- The failure of an outcome. -/
def failure? {α : Type} : Except QueryFailure α → Option QueryFailure
  | .ok _ => none
  | .error e => some e

/-- Use a connection. -/
def onConnection {α : Type} (p : Provider) (body : Dialogue α) : Dialogue α :=
  ask .acquire fun
    | .error e => done (.error (.noConnection e))
    | .ok _ =>
      (p.onAcquire.andThen fun _ => body).finish fun outcome =>
        ask .release fun
          | .ok _ => done outcome
          | .error e => done (.error (.release e (failure? outcome)))

end Dialogue

end QueryMethods
