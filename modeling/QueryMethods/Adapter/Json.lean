/-
An adapter that keeps the values of one host type as JSON text in one column. It serves the types
of one name. How the values travel, and how they are printed and read, is given with it.
-/
import QueryMethods.Adapter.Codec

namespace QueryMethods

/-- The JSON form of a host type: how its values are printed and read. Either may fail, and then
says why. -/
structure JsonForm (T : Type) where
  print : T → Except String String
  read : String → Except String T

/-- How the values of a host type travel as opaque values. -/
structure Carrier (T : Type) where
  carry : T → ForeignValue
  /-- The value that is carried, if it is one of the type. -/
  held? : ForeignValue → Option T
  held_carry : ∀ t, held? (carry t) = some t

/-- A host type kept as JSON. -/
structure JsonAdapter (T : Type) where
  /-- The name of the types it serves. -/
  handledName : String
  carrier : Carrier T
  form : JsonForm T

namespace JsonAdapter

variable {T : Type}

/-- The JSON text of a value. -/
def encode (j : JsonAdapter T) : Value → Except ConversionFailure (List Value)
  | .null => .ok [.null]
  | .custom c =>
    match j.carrier.held? c with
    | none => .error ((Value.custom c).mismatch j.handledName)
    | some t =>
      match j.form.print t with
      | .ok text => .ok [.string text]
      | .error reason => .error (.adapter reason)
  | v => .error (v.mismatch j.handledName)

/-- The value that a JSON text spells. -/
def decode (j : JsonAdapter T) : List Value → Except ConversionFailure Value
  | [] => .ok .null
  | .null :: _ => .ok .null
  | .string text :: _ =>
    match j.form.read text with
    | .ok t => .ok (.custom (j.carrier.carry t))
    | .error reason => .error (.adapter reason)
  | v :: _ => .error (v.mismatch "JSON text")

/-- The adapter: one text column. -/
def toAdapter (j : JsonAdapter T) : Adapter :=
  .runtime (fun t => t.name = j.handledName) [.varchar] j.encode j.decode

theorem encode_carry {j : JsonAdapter T} {t : T} {text : String} (printed : j.form.print t = .ok text) :
    j.encode (.custom (j.carrier.carry t)) = .ok [.string text] := by
  unfold encode
  dsimp only
  rw [j.carrier.held_carry]
  dsimp only
  rw [printed]

/-- A value comes back from its text if the form reads what it prints. -/
theorem decode_encode {j : JsonAdapter T} {t : T} {text : String} (printed : j.form.print t = .ok text)
    (read : j.form.read text = .ok t) :
    (j.encode (.custom (j.carrier.carry t))).bind j.decode = .ok (.custom (j.carrier.carry t)) := by
  rw [encode_carry printed]
  show j.decode [.string text] = _
  unfold decode
  dsimp only
  rw [read]

end JsonAdapter

end QueryMethods
