/-
Sample adapters: an amount spread over two columns, adapters that break a rule, one that takes
every type, one that checks what it reads, and two that keep settings as JSON. Beside them a sample
paging strategy with flags of one's own.
-/
import QueryMethods.Adapter.YesNo
import QueryMethods.Paging
import QueryMethods.Sample.Beans
import QueryMethods.Sample.Json

namespace QueryMethods.Sample

/-- Whether a type has that name. -/
def named (name : String) (t : ValueType) : Bool := t.name = name

/-! ## Money -/

def encodeMoney : Value → Except ConversionFailure (List Value)
  | .null => .ok [.null, .null]
  | .custom ⟨typeName, fields⟩ =>
    if typeName = moneyName then
      match fields with
      | [(_, .integer cents), (_, .text currency)] =>
        .ok [.long (Int64.ofInt cents), .string currency]
      | _ => .error (.adapter ("not money: " ++ typeName))
    else .error (.adapter ("not money: " ++ typeName))
  | v => .error (.adapter ("not money: " ++ v.kind))

def decodeMoney : List Value → Except ConversionFailure Value
  | .long cents :: .string currency :: _ => .ok (.custom (money cents.toInt currency))
  | _ => .ok .null

/-- Cents and currency in two columns. -/
def moneyAdapter : Adapter := .runtime (named "money") [.bigInt, .char] encodeMoney decodeMoney

/-! ## Adapters that break a rule -/

/-- The first column. -/
def firstColumn (columns : List Value) : Except ConversionFailure Value :=
  .ok (columns.headD .null)

/-- Declares two slots and fills one. -/
def shortAdapter : Adapter :=
  .runtime (named "money") [.bigInt, .char] (fun v => .ok [v]) firstColumn

/-- Declares no slots. -/
def zeroAdapter : Adapter := .runtime (fun _ => true) [] (fun _ => .ok []) firstColumn

/-- Handles money and never makes a codec. -/
def failingGenerator : Adapter :=
  .generated (named "money") fun t => .error (.adapter ("cannot generate for " ++ t.text))

/-! ## Other adapters -/

/-- Keeps the text of any value between angle brackets. -/
def anyAdapter : Adapter :=
  .runtime (fun _ => true) [.other 42] (fun v => .ok [.string ("<" ++ v.text ++ ">")]) firstColumn

def encodeSplit : Value → Except ConversionFailure (List Value)
  | .string s =>
    .ok [.string s, .int (Int32.ofNat s.toList.length), (s.toList.head?.map .char).getD .null]
  | v => .error (.adapter ("cannot split " ++ v.kind))

def decodeSplit (columns : List Value) : Except ConversionFailure Value :=
  let bad : Except ConversionFailure Value :=
    .error (.adapter ("bad split of " ++ toString columns.length ++ " columns"))
  match columns with
  | [.string s, .int n, _] => if n.toInt = s.toList.length then .ok (.string s) else bad
  | [.null, _, _] => .ok .null
  | _ => bad

/-- A text with its length and its first character, checked when it is read. -/
def splitAdapter : Adapter :=
  .runtime (named "String") [.varchar, .integer, .char] encodeSplit decodeSplit

/-- The fields of settings; both are required. -/
def settingsRules : RecordRules :=
  [⟨"theme", .text, none⟩, ⟨"font_size", .integer 0 255, none⟩]

/-- Settings travel as values of their type. -/
def settingsCarrier : Carrier (List (String × Atom)) where
  carry fields := ⟨settingsName, fields⟩
  held? c := if c.typeName = settingsName then some c.fields else none
  held_carry _ := rfl

/-- Settings as JSON, for the types of that name. -/
def settingsAdapter (handledName : String) : Adapter :=
  JsonAdapter.toAdapter ⟨handledName, settingsCarrier, recordForm settingsRules⟩

/-- The sample adapter of that name. -/
def adapter? : String → Option Adapter
  | "money" => some moneyAdapter
  | "short" => some shortAdapter
  | "zero" => some zeroAdapter
  | "any" => some anyAdapter
  | "split" => some splitAdapter
  | "settings" => some (settingsAdapter "settings")
  | "settings_as_money" => some (settingsAdapter "money")
  | "yesno" => some YesNo.adapter
  | "failgen" => some failingGenerator
  | _ => none

/-! ## Paging -/

/-- Asks for a page behind the statement, whatever the order of the bounds. -/
def flaggedPaging (limitBeforeOffset bindBeforeQuery offsetAddedToLimit : Bool) : PagingStrategy :=
  { paginate := fun sql skips => sql ++ (if skips then " PAGE ? ?" else " PAGE ?")
    limitBeforeOffset
    bindBeforeQuery
    offsetAddedToLimit }

end QueryMethods.Sample
