/-
Paging of selects. A strategy makes a statement fetch one page and says in which order the
bounds are bound and whether before or after the values of the query. Six dialects are built in.
-/
import QueryMethods.Text.Basic
import QueryMethods.Value

namespace QueryMethods

/-! ## Strategies -/

/-- How a database fetches one page of a select. -/
structure PagingStrategy where
  /-- The statement with the markers for the limit and, if asked for, the offset. -/
  paginate : String → Bool → String
  /-- The limit is bound before the offset. -/
  limitBeforeOffset : Bool
  /-- The bounds are bound before the values of the query. -/
  bindBeforeQuery : Bool
  /-- The limit counts from the first row, not from the offset. -/
  offsetAddedToLimit : Bool

/-! ## Bounds -/

/-- The page that is asked for: rows to skip, and rows to fetch, 0 for no limit. -/
structure Page where
  firstResult : UInt32 := 0
  maxResults : UInt32 := 0
  deriving DecidableEq, Repr, Inhabited

namespace Page

def isWhole (b : Page) : Bool := b.firstResult = 0 && b.maxResults = 0

def skips (b : Page) : Bool := 0 < b.firstResult

/-- The limit that stands for none. -/
def unboundedLimit : Nat := 2147483647

/-- How many rows are fetched at most. -/
def limit (b : Page) : Nat :=
  if b.maxResults = 0 then unboundedLimit else b.maxResults.toNat

/-- The bound of the last row, within 64 signed bits. -/
def lastRow (b : Page) : Nat := min (b.limit + b.firstResult.toNat) Int64.maxValue.toInt.toNat

/-- A bound as a value. -/
def bindable (n : Nat) : Value := .long (Int64.ofNat n)

/-- The values of the page markers, in the order of the markers. -/
def bindValues (b : Page) (s : PagingStrategy) : List Value :=
  if b.skips then
    let limit := if s.offsetAddedToLimit then b.lastRow else b.limit
    if s.limitBeforeOffset then [bindable limit, bindable b.firstResult.toNat]
    else [bindable b.firstResult.toNat, bindable limit]
  else [bindable b.limit]

end Page

/-! ## Dialects -/

/-- The built-in ways of paging. -/
inductive Dialect where
  | standard
  | mySql
  | sqlServer
  | firebird
  | informix
  | oracle
  deriving DecidableEq, Repr, Inhabited

namespace Dialect

def all : List Dialect := [standard, mySql, sqlServer, firebird, informix, oracle]

/-- The name in settings. -/
def name : Dialect → String
  | standard => "standard"
  | mySql => "my_sql"
  | sqlServer => "sql_server"
  | firebird => "firebird"
  | informix => "informix"
  | oracle => "oracle"

/-- The dialect of that name. -/
def ofName? (name : String) : Option Dialect := all.find? fun d => d.name = name

/-- The letters of `select`, in either case. -/
def isSelect (cs : List Char) : Bool :=
  cs.map BuiltinType.lowerAscii = ['s', 'e', 'l', 'e', 'c', 't']

/-- Put a clause behind the leading SELECT; a text that does not start with it is wrapped. -/
def behindSelect (sql clause : String) : String :=
  let trimmed := Text.trimStart sql.toList
  if isSelect (trimmed.take 6) then "SELECT " ++ clause ++ String.ofList (trimmed.drop 6)
  else "SELECT " ++ clause ++ " * FROM (" ++ sql ++ ") q_"

/-- The statement that fetches one page. -/
def paginate : Dialect → String → Bool → String
  | standard, sql, true => sql ++ " LIMIT ? OFFSET ?"
  | standard, sql, false => sql ++ " LIMIT ?"
  | mySql, sql, true => sql ++ " LIMIT ?, ?"
  | mySql, sql, false => sql ++ " LIMIT ?"
  | sqlServer, sql, true => sql ++ " OFFSET ? ROWS FETCH NEXT ? ROWS ONLY"
  | sqlServer, sql, false => sql ++ " OFFSET 0 ROWS FETCH NEXT ? ROWS ONLY"
  | firebird, sql, true => behindSelect sql "FIRST ? SKIP ?"
  | informix, sql, true => behindSelect sql "SKIP ? FIRST ?"
  | firebird, sql, false => behindSelect sql "FIRST ?"
  | informix, sql, false => behindSelect sql "FIRST ?"
  | oracle, sql, true =>
    "SELECT * FROM (SELECT q_.*, ROWNUM rn_ FROM (" ++ sql ++
      ") q_ WHERE ROWNUM <= ?) WHERE rn_ > ?"
  | oracle, sql, false => "SELECT * FROM (" ++ sql ++ ") WHERE ROWNUM <= ?"

/-- The strategy of a dialect. -/
def strategy (d : Dialect) : PagingStrategy :=
  { paginate := d.paginate
    limitBeforeOffset := d = standard || d = firebird || d = oracle
    bindBeforeQuery := d = firebird || d = informix
    offsetAddedToLimit := d = oracle }

end Dialect

end QueryMethods
