/-
JSON for the samples: a reader and a compact printer of documents, the forms of records whose fields
are texts and integers, and the form of execution settings. The reader accepts the grammar exactly,
refuses text after the document, and keeps repeated names and their order; a text whose escapes do
not form characters is kept as unreadable, so that a record is refused only where it needs the text.
-/
import QueryMethods.Settings
import QueryMethods.Text.Basic

namespace QueryMethods.Sample

/-! ## Documents -/

/-- A JSON value. -/
inductive Document where
  | null
  | boolean (value : Bool)
  | integer (value : Int)
  /-- A number written with a fraction or an exponent, or as `-0`. -/
  | fractional
  /-- A text, `none` when its escapes do not form characters. -/
  | text (value : Option String)
  | list (items : List Document)
  | record (fields : List (Option String × Document))
  deriving Inhabited

namespace Document

/-! ## White space and numbers -/

def isSpace (c : Char) : Bool := c = ' ' || c = '\n' || c = '\t' || c = '\r'

def skipSpace (cs : List Char) : List Char := cs.dropWhile isSpace

/-- The digits in front, which must be there. -/
def readDigits (cs : List Char) : Option (List Char × List Char) :=
  match cs.takeWhile Char.isDigit with
  | [] => none
  | ds => some (ds, cs.dropWhile Char.isDigit)

/-- The digits of a whole number: a zero stands alone. -/
def readWhole (cs : List Char) : Option (List Char × List Char) := do
  let (ds, rest) ← readDigits cs
  if ds.length > 1 && ds.head? == some '0' then none else some (ds, rest)

/-- A fraction, if there is one; tells whether there was. -/
def readFraction : List Char → Option (Bool × List Char)
  | '.' :: rest => do let (_, rest) ← readDigits rest; pure (true, rest)
  | cs => some (false, cs)

/-- An exponent, if there is one; tells whether there was. -/
def readExponent : List Char → Option (Bool × List Char)
  | c :: rest =>
    if c = 'e' || c = 'E' then do
      let rest := match rest with
        | '+' :: rest => rest
        | '-' :: rest => rest
        | rest => rest
      let (_, rest) ← readDigits rest
      pure (true, rest)
    else some (false, c :: rest)
  | [] => some (false, [])

/-- A number. -/
def readNumber (cs : List Char) : Option (Document × List Char) := do
  let (negative, cs) := match cs with
    | '-' :: rest => (true, rest)
    | rest => (false, rest)
  let (ds, cs) ← readWhole cs
  let (fraction, cs) ← readFraction cs
  let (exponent, cs) ← readExponent cs
  let n := digitsValue ds
  if fraction || exponent || (negative && n == 0) then pure (.fractional, cs)
  else pure (.integer (if negative then -(n : Int) else n), cs)

/-! ## Texts -/

/-- One element of a written text: a character, or a sixteen-bit unit given in hexadecimal. -/
inductive Unit16 where
  | char (c : Char)
  | unit (n : Nat)

def hexDigit? (c : Char) : Option Nat :=
  if c.isDigit then some (c.toNat - 48)
  else if 'a' ≤ c ∧ c ≤ 'f' then some (c.toNat - 87)
  else if 'A' ≤ c ∧ c ≤ 'F' then some (c.toNat - 55)
  else none

/-- The character that a one-letter escape stands for. -/
def escaped? (c : Char) : Option Char :=
  if c = '"' || c = '\\' || c = '/' then some c
  else if c = 'b' then some '\x08'
  else if c = 'f' then some '\x0c'
  else if c = 'n' then some '\n'
  else if c = 'r' then some '\r'
  else if c = 't' then some '\t'
  else none

/-- The elements of a text up to its closing quote, and what follows. -/
def readUnits : List Char → Option (List Unit16 × List Char)
  | [] => none
  | '"' :: rest => some ([], rest)
  | '\\' :: 'u' :: a :: b :: c :: d :: rest => do
    let n := 4096 * (← hexDigit? a) + 256 * (← hexDigit? b) + 16 * (← hexDigit? c) + (← hexDigit? d)
    let (units, rest) ← readUnits rest
    pure (.unit n :: units, rest)
  | '\\' :: e :: rest => do
    let c ← escaped? e
    let (units, rest) ← readUnits rest
    pure (.char c :: units, rest)
  | c :: rest =>
    if c.toNat < 0x20 then none
    else do
      let (units, rest) ← readUnits rest
      pure (.char c :: units, rest)

/-- The characters that the elements form: a unit that is half of a pair needs the other half. -/
def joinUnits : List Unit16 → Option (List Char)
  | [] => some []
  | .char c :: rest => (joinUnits rest).map (c :: ·)
  | .unit high :: .unit low :: rest =>
    if 0xD800 ≤ high ∧ high < 0xDC00 then
      if 0xDC00 ≤ low ∧ low < 0xE000 then
        (joinUnits rest).map (Char.ofNat (0x10000 + (high - 0xD800) * 1024 + (low - 0xDC00)) :: ·)
      else none
    else if 0xDC00 ≤ high ∧ high < 0xE000 then none
    else (joinUnits (.unit low :: rest)).map (Char.ofNat high :: ·)
  | .unit n :: rest =>
    if 0xD800 ≤ n ∧ n < 0xE000 then none else (joinUnits rest).map (Char.ofNat n :: ·)

/-- A text after its opening quote. -/
def readText (cs : List Char) : Option (Option String × List Char) := do
  let (units, rest) ← readUnits cs
  pure ((joinUnits units).map String.ofList, rest)

/-! ## Values -/

/-- The rest after a fixed word. -/
def readWord (word cs : List Char) : Option (List Char) :=
  if word.isPrefixOf cs then some (cs.drop word.length) else none

mutual

/-- A value in front, and what follows it. -/
def readValue : Nat → List Char → Option (Document × List Char)
  | 0, _ => none
  | fuel + 1, cs =>
    match skipSpace cs with
    | '"' :: rest => do let (s, rest) ← readText rest; pure (.text s, rest)
    | '[' :: rest =>
      match skipSpace rest with
      | ']' :: rest => some (.list [], rest)
      | rest => do let (items, rest) ← readItems fuel rest; pure (.list items, rest)
    | '{' :: rest =>
      match skipSpace rest with
      | '}' :: rest => some (.record [], rest)
      | rest => do let (fields, rest) ← readFields fuel rest; pure (.record fields, rest)
    | 'n' :: rest => do pure (.null, ← readWord ['u', 'l', 'l'] rest)
    | 't' :: rest => do pure (.boolean true, ← readWord ['r', 'u', 'e'] rest)
    | 'f' :: rest => do pure (.boolean false, ← readWord ['a', 'l', 's', 'e'] rest)
    | cs => readNumber cs

/-- The items of a list, at least one, up to the closing bracket. -/
def readItems : Nat → List Char → Option (List Document × List Char)
  | 0, _ => none
  | fuel + 1, cs => do
    let (item, rest) ← readValue fuel cs
    match skipSpace rest with
    | ']' :: rest => pure ([item], rest)
    | ',' :: rest => do
      let (items, rest) ← readItems fuel rest
      pure (item :: items, rest)
    | _ => none

/-- The fields of a record, at least one, up to the closing brace. -/
def readFields : Nat → List Char → Option (List (Option String × Document) × List Char)
  | 0, _ => none
  | fuel + 1, cs => do
    let '"' :: rest := skipSpace cs | none
    let (name, rest) ← readText rest
    let ':' :: rest := skipSpace rest | none
    let (value, rest) ← readValue fuel rest
    match skipSpace rest with
    | '}' :: rest => pure ([(name, value)], rest)
    | ',' :: rest => do
      let (fields, rest) ← readFields fuel rest
      pure ((name, value) :: fields, rest)
    | _ => none

end

/-- The document that a whole text spells. -/
def ofText? (s : String) : Option Document := do
  let cs := s.toList
  let (d, rest) ← readValue (2 * cs.length + 2) cs
  if skipSpace rest = [] then some d else none

/-! ## Printing -/

/-- The form of a character inside a printed text. -/
def escapeChar (c : Char) : List Char :=
  if c = '"' then ['\\', '"']
  else if c = '\\' then ['\\', '\\']
  else if c = '\x08' then ['\\', 'b']
  else if c = '\x0c' then ['\\', 'f']
  else if c = '\n' then ['\\', 'n']
  else if c = '\r' then ['\\', 'r']
  else if c = '\t' then ['\\', 't']
  else if c.toNat < 0x20 then
    ['\\', 'u', '0', '0'] ++ [Nat.digitChar (c.toNat / 16), Nat.digitChar (c.toNat % 16)]
  else [c]

/-- A text in quotes. -/
def textForm (s : String) : List Char := '"' :: s.toList.flatMap escapeChar ++ ['"']

/-- A record in compact form, its fields already printed. -/
def recordForm (fields : List (String × List Char)) : List Char :=
  '{' :: (List.intercalate [','] (fields.map fun (name, value) => textForm name ++ ':' :: value)) ++
    ['}']

end Document

/-! ## Records -/

/-- What values a field takes. -/
inductive FieldShape where
  | text
  /-- Integers between the bounds, both included. -/
  | integer (low high : Int)
  deriving DecidableEq, Repr

/-- A named field, with the value it has when it is left out. -/
structure FieldRule where
  name : String
  shape : FieldShape
  default? : Option Atom := none
  deriving Repr

/-- Fields of a record, in order. -/
abbrev RecordRules := List FieldRule

namespace FieldShape

/-- The field value that a document gives. -/
def read? : FieldShape → Document → Option Atom
  | .text, .text s => s.map .text
  | .integer low high, .integer n => if low ≤ n ∧ n ≤ high then some (.integer n) else none
  | _, _ => none

end FieldShape

namespace RecordRules

/-- The value of one field of a JSON record. -/
def readField? (fields : List (String × Document)) (rule : FieldRule) : Option (String × Atom) := do
  let value ← match fields.filter (·.1 = rule.name) with
    | [] => rule.default?
    | [(_, d)] => rule.shape.read? d
    | _ => none
  pure (rule.name, value)

/-- The values of the fields given in order; what is missing takes its default. -/
def readItems? : RecordRules → List Document → Option (List (String × Atom))
  | [], [] => some []
  | [], _ :: _ => none
  | rule :: rules, [] => do
    let value ← rule.default?
    let rest ← readItems? rules []
    pure ((rule.name, value) :: rest)
  | rule :: rules, d :: items => do
    let value ← rule.shape.read? d
    let rest ← readItems? rules items
    pure ((rule.name, value) :: rest)

/-- The record that a document holds. -/
def read? (rules : RecordRules) : Document → Option (List (String × Atom))
  | .list items => rules.readItems? items
  | .record fields => do
    let named ← fields.mapM fun (name, d) => name.map fun n => (n, d)
    rules.mapM (readField? named)
  | _ => none

end RecordRules

/-! ## Printing records -/

/-- The compact form of a field value. -/
def atomForm : Atom → List Char
  | .integer n => (toString n).toList
  | .text s => Document.textForm s

/-- The compact form of a record. -/
def recordText (fields : List (String × Atom)) : String :=
  String.ofList (Document.recordForm (fields.map fun (name, a) => (name, atomForm a)))

/-! ## Forms -/

/-- What is said about a text that is not read. The wording of a reader is its own, so none is
given. -/
def unread : String := "<json>"

/-- The form of records with these fields. -/
def recordForm (rules : RecordRules) : JsonForm (List (String × Atom)) :=
  ⟨fun fields => .ok (recordText fields),
    fun text => ((Document.ofText? text).bind rules.read?).elim (.error unread) .ok⟩

/-- The fields of execution settings: 64-bit sizes, either of which may be left out. -/
def configRules : RecordRules :=
  [⟨"fetchSize", .integer 0 (UInt64.size - 1), some (.integer 100)⟩,
    ⟨"batchSize", .integer 0 (UInt64.size - 1), some (.integer 100)⟩]

/-- The form of execution settings. -/
def configForm : JsonForm ExecutionSettings where
  print c :=
    .ok (recordText [("fetchSize", .integer c.fetchSize), ("batchSize", .integer c.batchSize)])
  read text :=
    match (recordForm configRules).read text with
    | .ok [(_, .integer fetch), (_, .integer batch)] => .ok ⟨fetch.toNat, batch.toNat⟩
    | _ => .error unread

end QueryMethods.Sample
