/-
Type codes of the database and the types with built-in mappings: their names, the tags that
select them in a template, their type codes, and which of them a value may be passed to without
loss.
-/

namespace QueryMethods

/-! ## Type codes -/

/-- Type codes of slots and columns. -/
inductive SlotType where
  | boolean
  | tinyInt
  | smallInt
  | integer
  | bigInt
  | real
  | double
  | char
  | varchar
  | date
  | time
  | timestamp
  /-- A code that only the driver knows. -/
  | other (code : Int32)
  deriving DecidableEq, Repr, Inhabited

/-- The name of a type code. -/
def SlotType.name : SlotType → String
  | .boolean => "Boolean"
  | .tinyInt => "TinyInt"
  | .smallInt => "SmallInt"
  | .integer => "Integer"
  | .bigInt => "BigInt"
  | .real => "Real"
  | .double => "Double"
  | .char => "Char"
  | .varchar => "Varchar"
  | .date => "Date"
  | .time => "Time"
  | .timestamp => "Timestamp"
  | .other code => "Other(" ++ toString code ++ ")"

/-! ## Built-in types -/

/-- Types with built-in mappings. -/
inductive BuiltinType where
  | bool
  | byte
  | short
  | int
  | long
  | float
  | double
  | char
  | string
  | date
  | time
  | timestamp
  deriving DecidableEq, Repr, Inhabited

namespace BuiltinType

/-- Every built-in type, in declaration order. -/
def all : List BuiltinType :=
  [bool, byte, short, int, long, float, double, char, string, date, time, timestamp]

/-- The tags that select each type. -/
def tags : BuiltinType → List String
  | bool => ["bool", "boolean"]
  | byte => ["byte", "i8"]
  | short => ["short", "i16"]
  | int => ["int", "integer", "i32"]
  | long => ["long", "i64"]
  | float => ["float", "f32"]
  | double => ["double", "f64"]
  | char => ["char"]
  | string => ["string", "varchar", "text"]
  | date => ["date"]
  | time => ["time"]
  | timestamp => ["timestamp", "datetime"]

/-- A letter of the ASCII alphabet in lower case; any other character as it is. -/
def lowerAscii (c : Char) : Char :=
  if 'A' ≤ c ∧ c ≤ 'Z' then Char.ofNat (c.toNat + 32) else c

/-- The type that a tag selects; letters of the ASCII alphabet may have either case. -/
def ofTag? (tag : String) : Option BuiltinType :=
  let lower := String.ofList (tag.toList.map lowerAscii)
  all.find? fun s => s.tags.contains lower

/-- The name in signatures and messages. -/
def name : BuiltinType → String
  | bool => "bool"
  | byte => "i8"
  | short => "i16"
  | int => "i32"
  | long => "i64"
  | float => "f32"
  | double => "f64"
  | char => "char"
  | string => "String"
  | date => "NaiveDate"
  | time => "NaiveTime"
  | timestamp => "NaiveDateTime"

/-- The built-in type of that name. -/
def ofName? (name : String) : Option BuiltinType := all.find? fun s => s.name = name

/-- The type code a value of this type is bound and read with. -/
def slotType : BuiltinType → SlotType
  | bool => .boolean
  | byte => .tinyInt
  | short => .smallInt
  | int => .integer
  | long => .bigInt
  | float => .real
  | double => .double
  | char => .char
  | string => .varchar
  | date => .date
  | time => .time
  | timestamp => .timestamp

/-- Types that can carry a count of affected rows. -/
def carriesCount (s : BuiltinType) : Bool := s = int || s = long

/-- The types whose values may be passed where this one is expected, besides its own. -/
def narrower : BuiltinType → List BuiltinType
  | short => [byte]
  | int => [byte, short]
  | long => [byte, short, int]
  | double => [byte, short, int, long, float]
  | string => [char]
  | timestamp => [date]
  | _ => []

/-- Whether a value of `source` may be passed where `target` is expected. -/
def admits (target source : BuiltinType) : Bool :=
  target = source || target.narrower.contains source

end BuiltinType

end QueryMethods
