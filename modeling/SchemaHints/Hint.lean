/-
Hints: a shape graph as the object that the hint addon of an editor expects. The key `!top` lists the
elements that may be the root, if there are any; every element has a key with its attributes, each
with its values or null when it takes any text, and its children, either left out when there are
none. The order is part of the format: elements and children by code point, attributes and values
ignoring case.
-/
import SchemaHints.Json
import SchemaHints.Shape.Basic
import SchemaHints.Text.Order

namespace SchemaHints

open Text

/-- The key that lists the top-level elements. -/
def topKey : String := "!top"

/-- A list of strings. -/
def Json.texts (ss : List String) : Json := .list (ss.map .text)

/-- The values of an attribute; any text is null. -/
def AttributeShape.hint (a : AttributeShape) : Json :=
  if a.isFreeText then .null else .texts (sortBy compareIgnoringCase id a.values.toList)

/-- The attributes and children of an element. -/
def ElementShape.hint (e : ElementShape) : Json :=
  let attributes := sortBy compareIgnoringCase (·.name.text) e.attributes.values
  let members := Keyed.ofList (attributes.map fun a => (a.name.text, a.hint))
  let children := sortBy compareText id (e.children.toList.map Name.text)
  .object ((if members.entries.isEmpty then [] else [("attrs", .object members.entries)])
    ++ if children.isEmpty then [] else [("children", .texts children)])

/-- The hints of a shape graph. -/
def ShapeGraph.hint (graph : ShapeGraph) : Json :=
  let shapes := sortBy compareText (·.name.text) graph.values
  let top := (shapes.filter (·.isTopLevel)).map (·.name.text)
  let members := Keyed.ofList (shapes.map fun e => (e.name.text, e.hint))
  .object ((if top.isEmpty then [] else [(topKey, .texts top)]) ++ members.entries)

/-- The text of the hints of a shape graph. -/
def ShapeGraph.hintText (graph : ShapeGraph) (indented : Bool) : String :=
  if indented then (ShapeGraph.hint graph).indented else (ShapeGraph.hint graph).compact

end SchemaHints
