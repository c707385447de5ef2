/-
Expanded names. A name is a namespace with a local name, and the empty namespace is the same as no
namespace, so two names are equal exactly when both parts are.
-/

namespace SchemaHints

/-- An expanded name; the empty `space` stands for a name in no namespace. -/
structure Name where
  space : String
  localName : String
  deriving DecidableEq, Inhabited

namespace Name

/-- A name in no namespace. -/
def plain (localName : String) : Name := ⟨"", localName⟩

/-- The written form of a name: `local` alone, or the namespace in braces before it. -/
def text (n : Name) : String :=
  if n.space = "" then n.localName else "\x7b" ++ n.space ++ "\x7d" ++ n.localName

end Name

/-! ## Well-known namespaces -/

/-- The namespace the prefix `xml` is always bound to. -/
def xmlNamespace : String := "http://www.w3.org/XML/1998/namespace"

/-- The namespace of XML Schema 1.0. -/
def schemaNamespace : String := "http://www.w3.org/2001/XMLSchema"

/-- The namespace of XML Schema 1.1. -/
def schema11Namespace : String := "http://www.w3.org/2009/XMLSchema"

/-- Both versions of XML Schema are read alike, under either namespace. -/
def isSchemaNamespace (space : String) : Bool :=
  space = schemaNamespace || space = schema11Namespace

end SchemaHints
