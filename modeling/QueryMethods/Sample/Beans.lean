/-
A sample catalog: bean classes that between them have every built-in type, optional and nested
members, a skipped member, custom types, and a class with constructors of its own.
-/
import QueryMethods.Bean.Class

namespace QueryMethods.Sample

/-! ## Types -/

def scalar (s : BuiltinType) : HostType := ⟨.scalar s, false⟩

/-- The same type with null. -/
def option (t : HostType) : HostType := { t with optional := true }

/-- The type that amounts of money carry. -/
def moneyName : String := "driver::catalog::Money"

/-- The type that display settings carry. -/
def settingsName : String := "driver::catalog::Settings"

/-- An amount of money; its values carry cents and a currency. -/
def moneyType : HostType := ⟨.custom "money" moneyName, false⟩

/-- Display settings; their values carry a theme and a font size. -/
def settingsType : HostType := ⟨.custom "settings" settingsName, false⟩

def money (cents : Int) (currency : String) : ForeignValue :=
  ⟨moneyName, [("cents", .integer cents), ("currency", .text currency)]⟩

def settings (theme : String) (fontSize : Int) : ForeignValue :=
  ⟨settingsName, [("theme", .text theme), ("font_size", .integer fontSize)]⟩

/-- A large integer, which no adapter knows. -/
def wideInteger (n : Int) : ForeignValue := ⟨"u128", [("value", .integer n)]⟩

/-! ## Zero values -/

/-- The value of a built-in type that a fresh member holds. -/
def zeroValue : BuiltinType → Value
  | .bool => .bool false
  | .byte => .byte 0
  | .short => .short 0
  | .int => .int 0
  | .long => .long 0
  | .float => .float ⟨0⟩
  | .double => .double ⟨0⟩
  | .char => .char (Char.ofNat 0)
  | .string => .string ""
  | .date => .date .epoch
  | .time => .time .midnight
  | .timestamp => .timestamp ⟨.epoch, .midnight⟩

/-- What a fresh member of a type other than a bean holds. -/
def zeroContent (t : HostType) : Content :=
  if t.optional then .absent
  else
    match t.kind with
    | .scalar s => .value (zeroValue s)
    | .unsigned _ => .unsigned 0
    | .custom name _ => .value (.custom (if name = "money" then money 0 "" else settings "" 0))
    | .bean _ => .absent

/-- What a fresh instance holds where no member is a bean of its own. -/
def zeroContents (s : BeanShape) : List Content := s.members.map fun m => zeroContent m.type

/-- The content that a fresh instance of the class is. -/
def freshContent (c : BeanClass) : Content := .bean c.shape c.blank

/-! ## Classes -/

/-- A class without beans inside, with the constructor that takes every field. -/
def plainClass (name : String) (members : List Member) (hasDefault : Bool) : BeanClass :=
  .ofShape ⟨name, members⟩ (zeroContents ⟨name, members⟩) hasDefault

def account : BeanClass :=
  plainClass "Account"
    [{ name := "id", type := scalar .long }, { name := "owner", type := scalar .string },
      { name := "active", type := scalar .bool }] true

def pair : BeanClass :=
  plainClass "Pair"
    [{ name := "left", type := scalar .long },
      { name := "right", type := option (scalar .string) }] false

def address : BeanClass :=
  plainClass "Address"
    [{ name := "city", type := scalar .string }, { name := "zip", type := option (scalar .int) }]
    true

/-- An address by value. -/
def addressType : HostType := ⟨.bean "Address", false⟩

def customer : BeanClass :=
  .ofShape
    ⟨"Customer",
      [{ name := "name", type := scalar .string },
        { name := "address", type := addressType, nested := true },
        { name := "billing", type := addressType },
        { name := "prior", type := option addressType }]⟩
    [.value (.string ""), freshContent address, freshContent address, .absent] true

def order : BeanClass :=
  .ofShape
    ⟨"Order",
      [{ name := "id", type := scalar .int },
        { name := "customer", type := ⟨.bean "Customer", false⟩, nested := true },
        { name := "total", type := option moneyType },
        { name := "options", type := settingsType }]⟩
    [.value (.int 0), freshContent customer, .absent, .value (.custom (settings "" 0))] true

def everything : BeanClass :=
  plainClass "Everything"
    [{ name := "a_bool", type := scalar .bool }, { name := "a_byte", type := scalar .byte },
      { name := "a_short", type := scalar .short }, { name := "a_int", type := scalar .int },
      { name := "a_long", type := scalar .long }, { name := "a_float", type := scalar .float },
      { name := "a_double", type := scalar .double }, { name := "a_char", type := scalar .char },
      { name := "a_string", type := scalar .string }, { name := "a_date", type := scalar .date },
      { name := "a_time", type := scalar .time },
      { name := "a_stamp", type := scalar .timestamp }] true

def maybe : BeanClass :=
  plainClass "Maybe"
    [{ name := "m_bool", type := option (scalar .bool) },
      { name := "m_byte", type := option (scalar .byte) },
      { name := "m_int", type := option (scalar .int) },
      { name := "m_long", type := option (scalar .long) },
      { name := "m_double", type := option (scalar .double) },
      { name := "m_char", type := option (scalar .char) },
      { name := "m_string", type := option (scalar .string) },
      { name := "m_date", type := option (scalar .date) },
      { name := "m_stamp", type := option (scalar .timestamp) },
      { name := "m_unsigned", type := option ⟨.unsigned .word32, false⟩ }] true

def counters : BeanClass :=
  plainClass "Counters"
    [{ name := "small", type := ⟨.unsigned .word32, false⟩ },
      { name := "hidden", type := scalar .int, skipped := true },
      { name := "big", type := ⟨.unsigned .word64, false⟩ },
      { name := "size", type := ⟨.unsigned .size, false⟩ }] true

def empty : BeanClass := plainClass "Empty" [] true

/-! ## A class with constructors of its own -/

namespace Multi

def shape : BeanShape :=
  ⟨"Multi",
    [{ name := "made_by", type := scalar .string }, { name := "n", type := scalar .long },
      { name := "text", type := scalar .string }]⟩

/-- An instance that says how it was made. -/
def make (madeBy : String) (n : Int64) (text : String) : Bean :=
  ⟨shape, [.value (.string madeBy), .value (.long n), .value (.string text)]⟩

/-- The next value, converted to a type, and the values behind it. -/
def take (t : HostType) : List Datum → Except ConversionFailure (Content × List Datum)
  | [] => .error (.beanMismatch "Multi")
  | d :: rest => (t.ofDatum d).map fun c => (c, rest)

/-- The integer that a content holds, as a 64-bit one. -/
def integerOf (fallback : Int64) : Content → Int64
  | .value v => (v.asInt.map Int64.ofInt).getD fallback
  | _ => fallback

/-- The text that a content holds. -/
def textOf (fallback : String) : Content → String
  | .value (.string s) => s
  | _ => fallback

/-- A constructor from a number and a text. -/
def numberAndText (name : String) (number text : HostType) (noNumber : Int64) (noText : String) :
    BeanClass.Constructor :=
  { name
    parameters := [number.valueType, text.valueType]
    build := fun data => do
      let (n, data) ← take number data
      let (s, _) ← take text data
      pure (make name (integerOf noNumber n) (textOf noText s)) }

/-- A constructor from one value. -/
def ofOne (name : String) (t : HostType) (parts : Content → Int64 × String) :
    BeanClass.Constructor :=
  { name
    parameters := [t.valueType]
    build := fun data => do
      let (c, _) ← take t data
      pure (make name (parts c).1 (parts c).2) }

def doubleParts : Content → Int64 × String
  | .value (.double x) => (x.toInt64, "")
  | _ => (0, "")

def moneyParts : Content → Int64 × String
  | .value (.custom ⟨_, [(_, .integer cents), (_, .text currency)]⟩) =>
    (Int64.ofInt cents, currency)
  | _ => (0, "")

def stampParts : Content → Int64 × String
  | .value (.timestamp ts) => (0, ts.isoText)
  | _ => (0, "")

def pairParts : Content → Int64 × String
  | .bean _ [left, right] => (integerOf 0 left, textOf "" right)
  | _ => (0, "")

/-- Refuses everything. -/
def broken : BeanClass.Constructor :=
  ⟨"broken", [(scalar .bool).valueType], fun _ => .error (.adapter "broken factory")⟩

/-- Takes three values and looks at the first. -/
def ofBean : BeanClass.Constructor :=
  let one := ofOne "of_bean" ⟨.bean "Pair", false⟩ pairParts
  { one with parameters := one.parameters ++ [(scalar .long).valueType, (scalar .long).valueType] }

end Multi

def multi : BeanClass :=
  { shape := Multi.shape
    blank := zeroContents Multi.shape
    hasDefault := true
    constructors :=
      [Multi.numberAndText "of_int" (scalar .int) (scalar .string) 0 "",
        Multi.numberAndText "of_long" (scalar .long) (scalar .string) 0 "",
        Multi.ofOne "of_double" (scalar .double) Multi.doubleParts,
        Multi.numberAndText "of_opt" (option (scalar .long)) (option (scalar .string)) (-1) "none",
        Multi.ofOne "of_money" moneyType Multi.moneyParts,
        Multi.broken,
        Multi.ofOne "of_stamp" (scalar .timestamp) Multi.stampParts,
        Multi.ofBean] }

/-- The classes of the sample. -/
def catalog : Catalog :=
  ⟨[account, pair, address, customer, order, everything, maybe, counters, empty, multi]⟩

/-- The type of that name; a question mark at the end makes it optional. -/
def hostType? (name : String) : Option HostType :=
  match name.toList.getLast? with
  | some '?' => (kind? (String.ofList name.toList.dropLast)).map fun k => ⟨k, true⟩
  | _ => (kind? name).map fun k => ⟨k, false⟩
where
  /-- The kind of type of that name. -/
  kind? (name : String) : Option HostKind :=
    match BuiltinType.ofName? name with
    | some s => some (.scalar s)
    | none =>
      if name = "u32" then some (.unsigned .word32)
      else if name = "u64" then some (.unsigned .word64)
      else if name = "usize" then some (.unsigned .size)
      else if name = "money" then some moneyType.kind
      else if name = "settings" then some settingsType.kind
      else if "custom:".isPrefixOf name then
        some (.custom (String.ofList (name.toList.drop 7)) "")
      else (catalog.find? name).map fun c => .bean c.name

end QueryMethods.Sample
