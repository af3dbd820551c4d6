/-
Bean classes: the shape of their instances, whether one can be made without values, and the
constructors that make one from values. A catalog finds classes by name.
-/
import QueryMethods.Bean.Path

namespace QueryMethods

/-- A way to make an instance from values. -/
structure BeanClass.Constructor where
  name : String
  parameters : List ValueType
  build : List Datum → Except ConversionFailure Bean

/-- A bean class. -/
structure BeanClass where
  shape : BeanShape
  /-- What the members of a fresh instance hold. -/
  blank : List Content
  /-- Whether a fresh instance can be had without values. -/
  hasDefault : Bool
  constructors : List BeanClass.Constructor

namespace BeanClass

def name (c : BeanClass) : String := c.shape.name

/-- The names and types of the fields. -/
def fields (c : BeanClass) : List (String × ValueType) :=
  c.shape.fields.map fun (_, m) => (m.name, m.type.valueType)

/-- A fresh instance, if there is one. -/
def fresh? (c : BeanClass) : Option Bean :=
  if c.hasDefault then some ⟨c.shape, c.blank⟩ else none

end BeanClass

namespace BeanShape

/-- Convert values to the fields in order and put them into their places. Values beyond the last
field are not looked at. -/
def fill (name : String) :
    List (Nat × Member) → List Datum → List Content → Except ConversionFailure (List Content)
  | [], _, contents => .ok contents
  | _ :: _, [], _ => .error (.beanMismatch name)
  | (position, m) :: fields, d :: data, contents => do
    let content ← m.type.ofDatum d
    fill name fields data (contents.set position content)

/-- The constructor that takes every field in order. -/
def fieldConstructor (s : BeanShape) (blank : List Content) : BeanClass.Constructor :=
  { name := "new"
    parameters := s.fields.map fun (_, m) => m.type.valueType
    build := fun data => do
      let contents ← fill s.name s.fields data blank
      pure ⟨s, contents⟩ }

end BeanShape

/-- The class of a shape whose only constructor takes every field in order. -/
def BeanClass.ofShape (s : BeanShape) (blank : List Content) (hasDefault : Bool) : BeanClass :=
  ⟨s, blank, hasDefault, [s.fieldConstructor blank]⟩

/-- The bean classes that types may name. -/
structure Catalog where
  classes : List BeanClass

namespace Catalog

/-- The class of that name. -/
def find? (c : Catalog) (name : String) : Option BeanClass := c.classes.find? (·.name = name)

/-- The class that a type names, if it names one. -/
def classOf? (c : Catalog) (t : ValueType) : Option BeanClass :=
  match t.kind with
  | .bean name => c.find? name
  | _ => none

/-- Resolve a path of names and indices from a class. A name that is no field leads nowhere, and
so does everything behind it. -/
def resolve (c : Catalog) (start : Option BeanClass) : List (String ⊕ Nat) → FieldPath
  | [] => []
  | step :: rest =>
    let index := match step with
      | .inl name => (start.bind (·.shape.indexOf? name)).getD (UInt64.size - 1)
      | .inr index => index
    let field := start.bind (·.fields[index]?)
    ⟨index, (field.map (·.1)).getD "unknown"⟩ ::
      c.resolve (field.bind fun (_, type) => c.classOf? type) rest

end Catalog

end QueryMethods
