/-
Namespace bindings. At each node of a document some prefixes stand for namespaces and one namespace
is the default; the empty namespace is no namespace. The prefix `xml` always stands for the XML
namespace, whatever is bound to it.
-/
import SchemaHints.Fault
import SchemaHints.Text.Blank

namespace SchemaHints.Xml

/-- The prefixes in force, the latest binding first, and the default namespace. -/
structure Bindings where
  prefixes : List (String × String)
  default : String
  deriving DecidableEq, Inhabited

namespace Bindings

/-- No bindings. -/
def empty : Bindings := ⟨[], ""⟩

/-- Binds a prefix, in place of an earlier binding. -/
def bind (b : Bindings) (pfx space : String) : Bindings :=
  { b with prefixes := (pfx, space) :: b.prefixes.filter (·.1 ≠ pfx) }

/-- Sets the default namespace. -/
def setDefault (b : Bindings) (space : String) : Bindings := { b with default := space }

/-- The namespace of a prefix. -/
def space? (b : Bindings) (pfx : String) : Option String :=
  if pfx = "xml" then some xmlNamespace else b.prefixes.lookup pfx

/-- The name that a text stands for where an unprefixed name takes the default namespace. -/
def resolve (b : Bindings) (text : String) : Except Cause Name :=
  match Text.splitAtColon text with
  | none => .ok ⟨b.default, text⟩
  | some (pfx, localName) => match b.space? pfx with
    | some space => .ok ⟨space, localName⟩
    | none => .error (.unknownPrefix pfx)

/-- The bindings that a tag adds with an attribute, or nothing when the attribute is an ordinary one. -/
def declare? (b : Bindings) (key value : String) : Option Bindings :=
  if key = "xmlns" then some (b.setDefault value)
  else match Text.splitAtColon key with
    | some ("xmlns", pfx) => some (b.bind pfx value)
    | _ => none

/-- The bindings inside a tag with these attributes. -/
def within (b : Bindings) (attributes : List (String × String)) : Bindings :=
  attributes.foldl (fun b a => (b.declare? a.1 a.2).getD b) b

end Bindings

end SchemaHints.Xml
