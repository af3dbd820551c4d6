/-
Filling parameters: each parameter of a compiled method becomes the values of its slots, a list
element after element. A null takes its slots without asking the codec.
-/
import QueryMethods.Failure
import QueryMethods.Method.Compiled

namespace QueryMethods

/-- The values of one parameter, one per slot, elements one after the other. -/
structure FilledParameter where
  parameter : ParameterBinding
  values : List Value

namespace ParameterBinding

/-- The failure for an argument that cannot be bound. -/
def mismatch (p : ParameterBinding) (found : Bindable) : ConversionFailure :=
  let expected := p.mapping.valueType.text
  match found with
  | .value v => v.mismatch expected
  | .bean b => .typeMismatch expected b.shape.name
  | .list _ => .typeMismatch expected "list"
  | .invalid e => e

/-- The values of one element. -/
def encodeElement (p : ParameterBinding) (source : Bindable) :
    Except ConversionFailure (List Value) := do
  match ← p.path.read source with
  | .value .null => pure (List.replicate p.mapping.conversion.width .null)
  | .value v => p.mapping.conversion.encode v
  | .invalid e => .error e
  | found => .error (p.mismatch found)

/-- The values of every element. -/
def encodeElements (p : ParameterBinding) : List Bindable → Except ConversionFailure (List Value)
  | [] => .ok []
  | item :: rest => do
    let values ← p.encodeElement item
    let others ← p.encodeElements rest
    .ok (values ++ others)

/-- The values of an argument. A null list is an empty one. -/
def encode (p : ParameterBinding) (source : Bindable) : Except ConversionFailure (List Value) :=
  if p.mapping.iteration = .single then p.encodeElement source
  else
    match source with
    | .list items => p.encodeElements items
    | .value .null => .ok []
    | found => .error (p.mismatch found)

end ParameterBinding

namespace CompiledMethod

/-- A rejection of a call of the method. -/
def reject (m : CompiledMethod) (reason : Rejection) : QueryFailure :=
  .validation m.interface m.method reason

/-- Encode one parameter. The element of a batch stands in for its list. -/
def encodeParameter (m : CompiledMethod) (args : List Bindable) (element : Option Bindable)
    (p : ParameterBinding) :
    Except QueryFailure FilledParameter :=
  let source := match element with
    | some item => if m.batchPosition = some p.argument then some item else args[p.argument]?
    | none => args[p.argument]?
  match source with
  | none => .error (m.reject (.missingArgument (p.argument + 1)))
  | some source =>
    match p.encode source with
    | .ok values => .ok ⟨p, values⟩
    | .error e => .error (.conversion e)

/-- Encode every parameter, in slot order. -/
def encode (m : CompiledMethod) (args : List Bindable) (element : Option Bindable) :
    Except QueryFailure (List FilledParameter) :=
  m.parameters.mapM (m.encodeParameter args element)

end CompiledMethod

end QueryMethods
