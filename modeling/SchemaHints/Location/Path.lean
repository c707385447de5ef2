/-
Paths: bytes with slashes between the components. A path need not be text, since an address can write
any byte; where it is shown, what is not UTF-8 is replaced. Nothing is normalized here: joining only
puts two paths together, and a relative path is relative to whatever directory it is opened from.
-/
import SchemaHints.Bytes

namespace SchemaHints

/-- A path, by its bytes. -/
structure Path where
  bytes : Bytes
  deriving DecidableEq

namespace Path

/-- The path that a text writes. -/
def ofString (s : String) : Path := ⟨Bytes.ofString s⟩

/-- A path as it is shown. -/
def text (p : Path) : String := String.ofList (Bytes.shownChars p.bytes)

/-- Whether a path starts at the root directory. -/
def isAbsolute (p : Path) : Bool := p.bytes.head? = some 0x2F

/-- The path that `location` denotes in the directory `base`: an absolute location replaces the base,
and an empty base adds nothing. -/
def join (base location : Path) : Path :=
  if location.isAbsolute then location
  else match base.bytes.getLast? with
    | none | some 0x2F => ⟨base.bytes ++ location.bytes⟩
    | some _ => ⟨base.bytes ++ 0x2F :: location.bytes⟩

/-- The components of a path between its slashes, empty ones included. -/
def components (p : Path) : List Bytes := p.bytes.splitOn 0x2F

/-- The absolute path of the components below the root directory. -/
def ofComponents (components : List Bytes) : Path :=
  if components.isEmpty then ⟨[0x2F]⟩ else ⟨components.flatMap (0x2F :: ·)⟩

/-- The directory of an absolute path without empty components; the root directory has none. -/
def parent? (p : Path) : Option Path :=
  if p.bytes = [0x2F] then none
  else some (ofComponents (p.components.drop 1).dropLast)

end Path

end SchemaHints
