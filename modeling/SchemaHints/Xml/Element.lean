/-
Elements. A document is a tree of elements; each has an expanded name, its attributes under expanded
names, its children, and the namespace bindings in force at it, because attribute values are names
too and are resolved where they stand.
-/
import SchemaHints.Xml.Bindings

namespace SchemaHints.Xml

/-- An element with everything below it. Namespace declarations are not among the attributes. -/
structure Element where
  name : Name
  attributes : List (Name × String)
  bindings : Bindings
  children : List Element
  deriving Inhabited

namespace Element

/-- The value of an attribute. -/
def attributeNamed? (e : Element) (n : Name) : Option String := e.attributes.lookup n

/-- The value of an attribute without a namespace. -/
def attribute? (e : Element) (key : String) : Option String := e.attributeNamed? (.plain key)

/-- The name that a text stands for at this element. -/
def resolve (e : Element) (text : String) : Except Cause Name := e.bindings.resolve (Text.trim text)

/-- The children with a local name, in whatever namespace. -/
def childrenNamed (e : Element) (localName : String) : List Element :=
  e.children.filter (·.name.localName = localName)

/-- The first child with a local name. -/
def child? (e : Element) (localName : String) : Option Element :=
  e.children.find? (·.name.localName = localName)

/-- The descendant that child indexes lead to. -/
def descendant? (e : Element) : List Nat → Option Element
  | [] => some e
  | i :: path => match e.children[i]? with
    | some child => child.descendant? path
    | none => none

mutual

/-- The elements of a tree in document order, each with its depth below the root. -/
def preorder (depth : Nat) : Element → List (Nat × Element)
  | ⟨name, attributes, bindings, children⟩ =>
    (depth, ⟨name, attributes, bindings, children⟩) :: preorderAll (depth + 1) children

/-- The elements of several trees in document order. -/
def preorderAll (depth : Nat) : List Element → List (Nat × Element)
  | [] => []
  | e :: es => preorder depth e ++ preorderAll depth es

end

end Element

end SchemaHints.Xml
