/-
Inspection texts: what a value, a type, a bean class, a codec, a registry or an instance looks
like when it is printed for a reader of logs. Texts are quoted, records name their fields.
-/
import QueryMethods.Interface.Registry
import QueryMethods.Text.Quoted

namespace QueryMethods

namespace Inspect

/-! ## Building blocks -/

/-- A record: its name and its fields. -/
def record (name : String) (fields : List (String × String)) : String :=
  name ++ " \x7b " ++ ", ".intercalate (fields.map fun (f, v) => f ++ ": " ++ v) ++ " \x7d"

def list (items : List String) : String := "[" ++ ", ".intercalate items ++ "]"

def set (items : List String) : String := "\x7b" ++ ", ".intercalate items ++ "\x7d"

/-- A name with one part. -/
def tagged (name part : String) : String := name ++ "(" ++ part ++ ")"

def bool (b : Bool) : String := if b then "true" else "false"

end Inspect

open Inspect Text

/-! ## Values -/

def Value.inspect : Value → String
  | null => "Null"
  | bool b => tagged "Bool" (Inspect.bool b)
  | byte n => tagged "Byte" (toString n.toInt)
  | short n => tagged "Short" (toString n.toInt)
  | int n => tagged "Int" (toString n.toInt)
  | long n => tagged "Long" (toString n.toInt)
  | float x => tagged "Float" (x.text .inspection)
  | double x => tagged "Double" (x.text .inspection)
  | char c => tagged "Char" (quotedChar c)
  | string s => tagged "String" (quoted s)
  | date d => tagged "Date" d.text
  | time t => tagged "Time" t.text
  | timestamp ts => tagged "Timestamp" ts.isoText
  | custom c => tagged "Custom" (tagged "CustomValue" c.typeName)

/-- A bean shows its class only. -/
def Bean.inspect (b : Bean) : String := b.shape.name ++ "\x7b..\x7d"

def Datum.inspect : Datum → String
  | value v => v.inspect
  | bean b => b.inspect

mutual

def Bindable.inspect : Bindable → String
  | .value v => v.inspect
  | .bean b => b.inspect
  | .list items => Inspect.list (inspectArgs items)
  | .invalid e => tagged "invalid" e.message

def inspectArgs : List Bindable → List String
  | [] => []
  | a :: rest => a.inspect :: inspectArgs rest

end

/-! ## Types -/

/-- The name of a built-in type in inspection texts. -/
def BuiltinType.inspect : BuiltinType → String
  | bool => "Bool"
  | byte => "Byte"
  | short => "Short"
  | int => "Int"
  | long => "Long"
  | float => "Float"
  | double => "Double"
  | char => "Char"
  | string => "String"
  | date => "Date"
  | time => "Time"
  | timestamp => "Timestamp"

def ValueKind.inspect : ValueKind → String
  | scalar s => tagged "Scalar" s.inspect
  | bean name => tagged "Bean" (tagged "Bean" name)
  | custom name => tagged "Custom" (quoted name)

def ValueType.inspect (t : ValueType) : String :=
  record "TypeRef" [("kind", t.kind.inspect), ("nullable", Inspect.bool t.nullable)]

def BeanClass.Constructor.inspect (c : BeanClass.Constructor) : String :=
  record "BeanConstructor"
    [("name", quoted c.name), ("params", Inspect.list (c.parameters.map ValueType.inspect))]

def BeanClass.inspect (c : BeanClass) : String :=
  let fields := c.fields.map fun (name, type) =>
    record "BeanField" [("name", quoted name), ("ty", type.inspect)]
  record "BeanType"
    [("name", quoted c.name), ("fields", Inspect.list fields),
      ("constructors", Inspect.list (c.constructors.map BeanClass.Constructor.inspect))]

/-! ## Adapters and instances -/

def Codec.inspect (c : Codec) : String :=
  record "Codec"
    [("key", quoted c.key), ("sql_types", Inspect.list (c.slotTypes.map SlotType.name))]

/-- A codec that may be missing. -/
def inspectCodec? : Option Codec → String
  | some c => tagged "Some" c.inspect
  | none => "None"

def AdapterTable.inspect (r : AdapterTable) : String := Inspect.set (r.keys.map quoted)

def ExecutionSettings.inspect (c : ExecutionSettings) : String :=
  record "ExecutionConfig"
    [("fetch_size", toString c.fetchSize), ("batch_size", toString c.batchSize)]

def Page.inspect (b : Page) : String :=
  record "PageBounds"
    [("first_result", toString b.firstResult.toNat), ("max_results", toString b.maxResults.toNat)]

def Instance.inspect (i : Instance) : String :=
  record "Handle"
    [("interface", quoted i.compiled.name), ("config", i.settings.inspect),
      ("page", i.page.inspect)]

def Registry.inspect (r : Registry) : String :=
  record "Registry"
    [("adapters", r.adapters.inspect), ("config", r.settings.inspect),
      ("compiled", toString r.compiled.length)]

/-! ## Dialects -/

def Dialect.inspect : Dialect → String
  | standard => "Standard"
  | mySql => "MySql"
  | sqlServer => "SqlServer"
  | firebird => "Firebird"
  | informix => "Informix"
  | oracle => "Oracle"

end QueryMethods
