/-
Compiling a declared method: everything that needs no argument values is decided here. Each
placeholder finds its argument, its field path, and a built-in mapping or a codec; constructor
slots select a constructor; slots and columns are numbered; the return type fixes what is handed
back. What cannot be resolved is rejected, the first fault first.
-/
import QueryMethods.Adapter.Table
import QueryMethods.Method.Numbering

namespace QueryMethods

/-- What the placeholders of a method are resolved against. -/
structure MethodScope where
  catalog : Catalog
  adapters : AdapterTable
  kind : StatementKind
  signature : Signature

namespace MethodScope

/-! ## Arguments and fields -/

/-- The positions of the arguments that have elements, from `start` on. -/
def iterablePositions (start : Nat) : List Argument → List Nat
  | [] => []
  | a :: rest =>
    if a.hasElements then start :: iterablePositions (start + 1) rest
    else iterablePositions (start + 1) rest

/-- The list whose elements run one by one. Selects have none; other statements at most one. -/
def batchPosition (s : MethodScope) : Except Rejection (Option Nat) :=
  if s.kind = .select then .ok none
  else
    match iterablePositions 0 s.signature.arguments with
    | [] => .ok none
    | [first] => .ok (some first)
    | _ :: second :: _ => .error (.secondBatch s.kind (second + 1))

/-- The argument that a parameter names, and its position. -/
def argument (s : MethodScope) (ref : ArgumentSelector) : Except Rejection (Nat × Argument) :=
  match ref with
  | .position p =>
    match s.signature.arguments[p]? with
    | some a => .ok (p, a)
    | none => .error (.positionOutOfRange (p + 1) s.signature.arguments.length)
  | .name name =>
    match s.signature.position? name with
    | none => .error (.unknownArgument name)
    | some p =>
      match s.signature.arguments[p]? with
      | some a => .ok (p, a)
      | none => .error (.unknownArgument name)

/-- A field path that has been resolved: its steps, the type at its end, and whether a bean on the
way, the first included, may be null. -/
structure FieldWalk where
  path : FieldPath
  type : ValueType
  optional : Bool

/-- Resolve a field path from a type. -/
def follow (s : MethodScope) (start : ValueType) : List String → Except Rejection FieldWalk
  | [] => .ok ⟨[], start, false⟩
  | name :: rest =>
    match s.catalog.classOf? start with
    | none => .error (.unknownField start.text name)
    | some c =>
      match c.shape.indexOf? name with
      | none => .error (.unknownField c.name name)
      | some index =>
        match c.fields[index]? with
        | none => .error (.unknownField c.name name)
        | some (field, type) => do
          let w ← s.follow type rest
          .ok ⟨⟨index, field⟩ :: w.path, w.type, start.nullable || w.optional⟩

/-! ## Mappings -/

/-- The mapping for a value of that type. A tag selects a built-in type that widens to it or from
it, or the adapter of that key; without a tag the type decides. -/
def conversionFor (s : MethodScope) (tag : Option Tag) (type : ValueType) :
    Except Rejection Conversion :=
  match tag with
  | some tag =>
    match BuiltinType.ofTag? tag.name with
    | some scalar =>
      match type.scalar? with
      | some actual =>
        if scalar.admits actual || actual.admits scalar then .ok (.scalar scalar)
        else .error (.tagMismatch tag.name type)
      | none => .error (.tagMismatch tag.name type)
    | none =>
      match s.adapters.forTag tag.name type with
      | .ok (some codec) => .ok (.adapter codec)
      | .ok none => .error (.noCodec (.missing (.unknown tag.name)))
      | .error e => .error (.noCodec e)
  | none =>
    match type.scalar? with
    | some scalar => .ok (.scalar scalar)
    | none =>
      match s.adapters.forType type with
      | .ok (some codec) => .ok (.adapter codec)
      | .ok none =>
        if (s.catalog.classOf? type).isSome then .error (.bareBean type.name)
        else .error (.noCodec (.missing (.unknown type.name)))
      | .error e => .error (.noCodec e)

/-- Whether a tag admits null. -/
def tagNullable (tag : Option Tag) : Bool := tag.any (·.nullable)

/-- Resolve a parameter. The elements of a batch are bound one by one. -/
def parameter (s : MethodScope) (p : Template.Parameter) : Except Rejection ParameterBinding := do
  let (position, a) ← s.argument p.argument
  let w ← s.follow a.element p.path
  let kind ← s.conversionFor p.tag w.type
  let nullable := w.type.nullable || w.optional || tagNullable p.tag
  let iteration := if s.kind = .select then a.shape else .single
  .ok ⟨⟨kind, w.type, nullable, [p.slot], iteration⟩, position, w.path, p.separator⟩

/-! ## Results -/

/-- The types that results are read into. -/
structure ResultTypes where
  row : ValueType
  key : Option ValueType

/-- What the results of the statement are read into. -/
def resultTypes (s : MethodScope) : Except Rejection ResultTypes :=
  match s.kind, s.signature.returns with
  | .select, .single t => .ok ⟨t, none⟩
  | .select, .many t => .ok ⟨t, none⟩
  | .select, .map key value => .ok ⟨value, some key⟩
  | .select, .unit => .error .selectWithoutReturn
  | .call, .single t => .ok ⟨t, none⟩
  | .call, .unit => .error .outWithoutReturn
  | .call, _ => .error .outNotSingle
  | kind, _ => .error (.resultsInMutation kind)

/-- The slot that a result feeds, with its tag. -/
def slotOf? (r : Template.Result) : Option (Nat × Option Tag) :=
  match r.place with
  | .slot n => some (n, r.tag)
  | _ => none

/-- The tags of constructor slots by number: exactly 1 to the number of slots. -/
def slotTags (slots : List (Nat × Option Tag)) : Except Rejection (List (Option Tag)) :=
  match (List.range slots.length).mapM fun i => (slots.find? (·.1 = i + 1)).map (·.2) with
  | some tags => .ok tags
  | none => .error (.slotNumbers slots.length)

/-- Whether a constructor parameter takes what the tag says: exactly that type, or one that it
widens to. An adapter's tag needs a codec for the parameter. -/
def takes (s : MethodScope) (exact : Bool) (parameter : ValueType) (tag : Option Tag) : Bool :=
  match tag with
  | none => false
  | some tag =>
    if tag.nullable && !parameter.nullable then false
    else
      match BuiltinType.ofTag? tag.name, parameter.scalar? with
      | some scalar, some actual =>
        if exact then actual = scalar && tag.nullable = parameter.nullable
        else actual.admits scalar
      | some _, none => false
      | none, _ =>
        match s.adapters.forTag tag.name parameter with
        | .ok (some _) => true
        | _ => false

/-- Whether every parameter of a constructor takes the tag of its slot. -/
def fits (s : MethodScope) (exact : Bool) (tags : List (Option Tag)) (c : BeanClass.Constructor) :
    Bool :=
  c.parameters.length = tags.length &&
    (c.parameters.zip tags).all fun (parameter, tag) => s.takes exact parameter tag

/-- The index and the parameters of the constructor that slots select: the first that takes the
tags exactly, else the first that widens them. -/
def selectConstructor (s : MethodScope) (row : ValueType) (slots : List (Nat × Option Tag)) :
    Except Rejection (Nat × List ValueType) :=
  match s.catalog.classOf? row with
  | none => .error (.slotsOfNonBean row)
  | some c => do
    let tags ← slotTags slots
    let index := (c.constructors.findIdx? (s.fits true tags)).or
      (c.constructors.findIdx? (s.fits false tags))
    match index with
    | some i => .ok (i, ((c.constructors[i]?).map (·.parameters)).getD [])
    | none => .error (.noConstructor c.name (tags.map fun t => (t.map (·.name)).getD "?"))

/-- What the results of a method resolve to. -/
structure ResolvedResults where
  results : List ResultReading
  row : Option ValueType
  /-- The index of the constructor and the number of its parameters. -/
  constructor : Option (Nat × Nat)

/-- The type and target of a result. `taken` are the paths of the fields before it. -/
def resultTarget (s : MethodScope) (types : ResultTypes) (parameters : List ValueType)
    (taken : List String) (place : ResultPlace) : Except Rejection (ValueType × Destination) :=
  match place with
  | .key =>
    match types.key with
    | some key => .ok (key, .mapKey)
    | none => .error .keyWithoutMap
  | .slot n =>
    match if n = 0 then none else parameters[n - 1]? with
    | some parameter => .ok (parameter, .constructorSlot n)
    | none => .error (.missingParameter n)
  | .value [] => .ok (types.row, .whole)
  | .value path =>
    if (s.catalog.classOf? types.row).isNone then .error (.fieldOfNonBean types.row)
    else do
      let w ← s.follow { types.row with nullable := false } path
      if w.optional then .error (.throughOptional w.path.text)
      else if taken.contains w.path.text then .error (.fieldTwice w.path.text)
      else .ok (w.type, .field w.path)

/-- The path that a target takes. -/
def takenPath : Destination → List String
  | .field path => [path.text]
  | _ => []

/-- Resolve the results in order. -/
def resultMappings (s : MethodScope) (types : ResultTypes) (parameters : List ValueType) :
    List String → List Template.Result → Except Rejection (List ResultReading)
  | _, [] => .ok []
  | taken, r :: rest => do
    let (type, target) ← s.resultTarget types parameters taken r.place
    let kind ← s.conversionFor r.tag type
    let mapping : SlotMapping := ⟨kind, type, type.nullable || tagNullable r.tag, [r.slot], .single⟩
    let rest ← s.resultMappings types parameters (takenPath target ++ taken) rest
    .ok (⟨mapping, target⟩ :: rest)

/-- Resolve the results of a method. -/
def results (s : MethodScope) (definitions : List Template.Result) :
    Except Rejection ResolvedResults :=
  if definitions = [] then .ok ⟨[], none, none⟩
  else if s.kind.isMutation then .error (.resultsInMutation s.kind)
  else do
    let types ← s.resultTypes
    match definitions.filterMap slotOf? with
    | [] => do
      let mappings ← s.resultMappings types [] [] definitions
      .ok ⟨mappings, some types.row, none⟩
    | slots => do
      let (index, parameters) ← s.selectConstructor types.row slots
      let mappings ← s.resultMappings types parameters [] definitions
      .ok ⟨mappings, some types.row, some (index, slots.length)⟩

/-! ## Assembly and return plan -/

/-- How the resolved results are put together. -/
def rowPlan (s : MethodScope) (r : ResolvedResults) : Except Rejection RowPlan :=
  match r.results.filter (·.target ≠ .mapKey) with
  | [] => if s.kind = .select then .error .noResults else .ok .none
  | values =>
    match r.results.findIdx? (·.target = .whole) with
    | some index => if 1 < values.length then .error .wholeValueNotAlone else .ok (.atomic index)
    | none =>
      match r.row.bind s.catalog.classOf? with
      | none => .error (.fieldOfNonBean (r.row.getD default))
      | some c =>
        match r.constructor with
        | some (index, arity) => .ok (.bean c (.constructor index arity))
        | none => if c.hasDefault then .ok (.bean c .fresh) else .error (.noDefault c.name)

/-- Types that a count of affected rows is returned as. -/
def carriesCount (t : ValueType) : Bool := !t.nullable && t.scalar?.any BuiltinType.carriesCount

/-- What the method hands back. -/
def returnForm (s : MethodScope) (batch : Option Nat) (hasValues hasKey : Bool) :
    Except Rejection ReturnForm :=
  if s.kind = .select then
    match s.signature.returns, hasKey with
    | .single t, false => .ok (.one t.nullable)
    | .many _, false => .ok .many
    | .map _ _, true => .ok .map
    | .map _ _, false => .error .mapWithoutKey
    | _, _ => .error .selectWithoutReturn
  else if hasValues then
    if batch.isSome then .error .outOfBatch
    else
      match s.signature.returns with
      | .single t => .ok (.one t.nullable)
      | _ => .error .outNotSingle
  else
    match batch, s.signature.returns with
    | _, .unit => .ok .unit
    | none, .single t => if carriesCount t then .ok .count else .error (.notACount s.kind)
    | some _, .many t => if carriesCount t then .ok .counts else .error (.notCounts s.kind)
    | none, _ => .error (.notACount s.kind)
    | some _, _ => .error (.notCounts s.kind)

/-! ## The whole method -/

/-- Whether results are OUT parameters, which take markers, or columns. -/
def form (kind : StatementKind) : TemplateForm := if kind = .call then .call else .plain

/-- Compile a template. -/
def compile (s : MethodScope) (interface method template : String) :
    Except Rejection CompiledMethod := do
  let t ← (Template.read (form s.kind) template).mapError .template
  let batch ← s.batchPosition
  let parameters ← t.parameters.mapM s.parameter
  let resolved ← s.results t.results
  let rowPlan ← s.rowPlan resolved
  let key := resolved.results.findIdx? (·.target = .mapKey)
  let hasValues := match rowPlan with
    | .none => false
    | _ => true
  let returns ← s.returnForm batch hasValues key.isSome
  let bound := parameters.map (·.mapping.wideMarker)
  let markers :=
    if s.kind = .call then
      WideMarker.sort (bound ++ resolved.results.map (·.mapping.wideMarker))
    else bound
  let results :=
    if s.kind = .call then
      resolved.results.map fun r => { r with mapping := r.mapping.number markers }
    else ResultReading.numberColumns 1 resolved.results
  .ok
    { interface, method
      kind := s.kind
      sql := WideMarker.expand markers t.sql
      parameters := parameters.map fun p => { p with mapping := p.mapping.number markers }
      results
      key
      rowPlan
      returns
      batchPosition := batch
      bindCount := WideMarker.lastSlot markers }

end MethodScope

/-- Compile a declared method of an interface. -/
def MethodDeclaration.compile (d : MethodDeclaration) (catalog : Catalog)
    (adapters : AdapterTable) (interface : String) : Except QueryFailure CompiledMethod :=
  let scope : MethodScope := ⟨catalog, adapters, d.kind, d.signature⟩
  (scope.compile interface d.name d.template).mapError (.validation interface d.name)

end QueryMethods
