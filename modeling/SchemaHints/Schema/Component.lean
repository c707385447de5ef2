/-
Components of a schema, as documents declare them: element declarations, types, content particles
and attributes. Components refer to each other by name and are looked up when they are used, so a
reference to something that no document declares matters only then.
-/
import SchemaHints.Name

namespace SchemaHints.Schema

/-- How the particles of a group are combined. -/
inductive Compositor
  | sequence
  | choice
  | all
  deriving DecidableEq, Inhabited

namespace Compositor

/-- The compositor that a tag of a schema document stands for. -/
def ofTag? : String → Option Compositor
  | "sequence" => some sequence
  | "choice" => some choice
  | "all" => some all
  | _ => none

/-- The word for a compositor. -/
def text : Compositor → String
  | sequence => "Sequence"
  | choice => "Choice"
  | all => "All"

end Compositor

/-- How a complex type is derived from its base. -/
inductive DerivationMethod
  | extension
  | restriction
  deriving DecidableEq

/-- The base of a derived complex type. -/
structure Derivation where
  method : DerivationMethod
  base : Name
  deriving DecidableEq

mutual

/-- A node of a content model. -/
inductive Particle
  | group (compositor : Compositor) (items : List Particle)
  | groupRef (name : Name)
  | elementRef (name : Name)
  | localElement (declaration : ElementDecl)
  | any
  | empty
  | unsupported (tag : String)

/-- A declaration of an element: its type, the head of the substitution group that it joins, and
whether no other element may stand in for it. -/
structure ElementDecl where
  name : Name
  type : TypeRef
  head : Option Name
  blocksSubstitution : Bool

/-- What a declaration says of its type. -/
inductive TypeRef
  | named (name : Name)
  | inline (definition : TypeDef)
  | any

/-- A type definition. -/
inductive TypeDef
  | simple (type : SimpleType)
  | complex (type : ComplexType)

/-- A simple type; only a global one has a name. -/
structure SimpleType where
  name : Option Name
  variety : Variety

/-- How a simple type says which values it has. -/
inductive Variety
  | restriction (base : Option TypeRef) (enumeration : List String)
  | list
  | union

/-- A complex type as written: the base it is derived from, whether its content is text, and its own
content and attributes; only a global one has a name. -/
structure ComplexType where
  name : Option Name
  derivation : Option Derivation
  hasSimpleContent : Bool
  particle : Particle
  attributes : List AttributeItem

/-- A declaration of an attribute; without a type any text is a value. -/
structure AttributeDecl where
  name : Name
  type : Option TypeRef

/-- An entry in a list of attributes: a declaration in place, a reference to a global attribute, or
a reference to a group of attributes. A prohibited attribute is taken away. -/
inductive AttributeItem
  | declared (declaration : AttributeDecl) (prohibited : Bool)
  | attributeRef (name : Name) (prohibited : Bool)
  | groupRef (name : Name)

end

instance : Inhabited Particle := ⟨.empty⟩

/-- The declaration of an element that only has a name and a type. -/
def ElementDecl.simple (name : Name) (type : TypeRef) : ElementDecl := ⟨name, type, none, false⟩

namespace Particle

/-- Two particles one after the other; an empty one adds nothing. -/
def sequenceOf : Particle → Particle → Particle
  | .empty, p => p
  | p, .empty => p
  | p, q => .group .sequence [p, q]

/-- Particles one after the other; a single one stands for itself. -/
def combine : List Particle → Particle
  | [] => .empty
  | [p] => p
  | ps => .group .sequence ps

/-- A particle in a few words. -/
def text : Particle → String
  | .group compositor _ => compositor.text
  | .groupRef name => "GroupRef(" ++ name.text ++ ")"
  | .elementRef name => "Element(" ++ name.text ++ ")"
  | .localElement declaration => "Element(" ++ declaration.name.text ++ ")"
  | .any => "Any"
  | .empty => "Empty"
  | .unsupported tag => "Unsupported(" ++ tag ++ ")"

end Particle

end SchemaHints.Schema
