/-
The vocabulary of schema documents: what an element of such a document is, told by its local name
alone, and the names of the attributes that are read.
-/
import SchemaHints.Schema.Component

namespace SchemaHints.Schema

/-- What an element of a schema document is. -/
inductive Word
  | element
  | complexType
  | simpleType
  | attributeUse
  | attributeGroup
  | group
  | compositor (c : Compositor)
  | note
  | includes
  | imports
  | redefines
  | derivation (method : DerivationMethod)
  | list
  | union
  | complexContent
  | simpleContent
  | any
  | anyAttribute
  | assertion
  | notationDecl
  | defaultOpenContent
  | other (tag : String)
  deriving DecidableEq

/-- The word for a local name. -/
def Word.of (tag : String) : Word :=
  match tag with
  | "element" => .element
  | "complexType" => .complexType
  | "simpleType" => .simpleType
  | "attribute" => .attributeUse
  | "attributeGroup" => .attributeGroup
  | "group" => .group
  | "sequence" => .compositor .sequence
  | "choice" => .compositor .choice
  | "all" => .compositor .all
  | "annotation" => .note
  | "include" => .includes
  | "import" => .imports
  | "redefine" => .redefines
  | "override" => .redefines
  | "restriction" => .derivation .restriction
  | "extension" => .derivation .extension
  | "list" => .list
  | "union" => .union
  | "complexContent" => .complexContent
  | "simpleContent" => .simpleContent
  | "any" => .any
  | "anyAttribute" => .anyAttribute
  | "assert" => .assertion
  | "notation" => .notationDecl
  | "defaultOpenContent" => .defaultOpenContent
  | _ => .other tag

end SchemaHints.Schema
