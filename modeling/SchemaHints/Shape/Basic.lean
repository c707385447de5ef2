/-
Shapes: what an editor needs to know of an element to suggest what comes next. A shape has the
attributes of the element with the values each may take, and the names of its direct children. A
shape graph has one shape for each element name.
-/
import SchemaHints.Keyed
import SchemaHints.Name

namespace SchemaHints

/-- An attribute and the values it may take; without values it takes any text. -/
structure AttributeShape where
  name : Name
  values : Distinct String
  deriving DecidableEq

/-- An element, whether it may be the root of a document, its attributes under their own names, and its
direct children. -/
structure ElementShape where
  name : Name
  isTopLevel : Bool
  attributes : Keyed Name AttributeShape
  children : Distinct Name
  attributesNamed : ∀ a ∈ attributes.entries, a.2.name = a.1
  deriving DecidableEq

/-- The shapes of all elements under their names, in the order in which they were discovered. -/
abbrev ShapeGraph := Keyed Name ElementShape

namespace AttributeShape

/-- An attribute that takes any text. -/
def new (name : Name) : AttributeShape := ⟨name, .empty⟩

/-- Whether any text is a value. -/
def isFreeText (a : AttributeShape) : Bool := a.values.toList.isEmpty

/-- Adds a value. -/
def addValue (a : AttributeShape) (value : String) : AttributeShape :=
  { a with values := a.values.insert value }

/-- Whether two attributes have the same name and values, in whatever order. -/
def same (a b : AttributeShape) : Bool := a.name = b.name && a.values.sameMembers b.values

end AttributeShape

namespace ElementShape

/-- An element without attributes and children. -/
def new (name : Name) (isTopLevel : Bool) : ElementShape :=
  ⟨name, isTopLevel, .empty, .empty, fun _ h => (List.not_mem_nil h).elim⟩

/-- Adds an attribute unless one of the same name is there. -/
def addAttribute (e : ElementShape) (a : AttributeShape) : ElementShape :=
  { e with
    attributes := e.attributes.insertNew a.name a
    attributesNamed := Keyed.forall_insertNew e.attributesNamed rfl }

/-- Adds a child. -/
def addChild (e : ElementShape) (n : Name) : ElementShape := { e with children := e.children.insert n }

/-- Whether two elements have the same name, rank, attributes and children, in whatever order. -/
def same (e f : ElementShape) : Bool :=
  e.name = f.name && e.isTopLevel = f.isTopLevel && e.children.sameMembers f.children &&
    e.attributes.same AttributeShape.same f.attributes

end ElementShape

/-- Whether two shape graphs have the same elements, in whatever order. -/
def ShapeGraph.same (g h : ShapeGraph) : Bool := Keyed.same ElementShape.same g h

end SchemaHints
