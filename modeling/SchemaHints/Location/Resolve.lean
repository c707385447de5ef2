/-
Where a schema says that another document is. An absolute address of a file and an absolute path are
taken as they are, a relative path is relative to the directory of the document that refers to it,
and a document elsewhere is not fetched.
-/
import SchemaHints.Location.Path
import SchemaHints.Location.Uri

namespace SchemaHints.Location

/-- The path of a location in a document of the directory `base`, or nothing when the document is
remote; without a directory a relative path stays relative. -/
def resolve? (location : String) (base : Option Path) : Option Path :=
  let location := Text.trim location
  match target? location with
  | some (.path path) => some path
  | some .remote => none
  | none => match base with
    | some base => some (base.join (.ofString location))
    | none => some (.ofString location)

end SchemaHints.Location
