/-
Execution settings and their JSON form.
-/
import QueryMethods.Adapter.Json
import QueryMethods.Failure

namespace QueryMethods

/-- The settings that an instance starts with. -/
structure ExecutionSettings where
  /-- Rows fetched per round trip by selects of many rows. -/
  fetchSize : Nat := 100
  /-- Entries per flushed batch; 0 runs every entry on its own. -/
  batchSize : Nat := 100
  deriving DecidableEq, Repr, Inhabited

namespace ExecutionSettings

/-- Read settings from their JSON form. -/
def ofJson (form : JsonForm ExecutionSettings) (text : String) :
    Except QueryFailure ExecutionSettings := (form.read text).mapError .settings

/-- The JSON form of settings. -/
def toJson (form : JsonForm ExecutionSettings) (c : ExecutionSettings) :
    Except QueryFailure String := (form.print c).mapError .settings

end ExecutionSettings

end QueryMethods
