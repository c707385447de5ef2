/-
Limits on what a schema may cost: nesting and size of a document, and number of documents and of
global elements. Each check refuses a count above its limit and nothing else.
-/
import SchemaHints.Fault

namespace SchemaHints

/-- The largest counts that are accepted. -/
structure Limits where
  depth : Nat
  size : Nat
  documents : Nat
  elements : Nat
  deriving DecidableEq

namespace Limits

/-- The limits that apply unless others are given. -/
def standard : Limits := ⟨1000, 100 * 1024 * 1024, 1000, 100000⟩

/-- Limits for schemas of unknown origin. -/
def strict : Limits := ⟨100, 10 * 1024 * 1024, 100, 10000⟩

/-- Limits for large schemas of known origin. -/
def permissive : Limits := ⟨10000, 1024 * 1024 * 1024, 100000, 10000000⟩

/-- Accepts a nesting depth. -/
def checkDepth (l : Limits) (n : Nat) : Result Unit :=
  if l.depth < n then fail (.tooDeep n l.depth) else .ok ()

/-- Accepts a number of bytes. -/
def checkSize (l : Limits) (n : Nat) : Result Unit :=
  if l.size < n then fail (.tooLarge n l.size) else .ok ()

/-- Accepts a number of documents. -/
def checkDocuments (l : Limits) (n : Nat) : Result Unit :=
  if l.documents < n then fail (.tooManyDocuments n l.documents) else .ok ()

/-- Accepts a number of global elements. -/
def checkElements (l : Limits) (n : Nat) : Result Unit :=
  if l.elements < n then fail (.tooManyElements n l.elements) else .ok ()

/-! ## What is accepted -/

/-- A check accepts a count exactly when it is not above the limit. -/
theorem accepts_iff {limit n : Nat} {cause : Cause} {u : Unit} :
    (if limit < n then fail cause else .ok () : Result Unit) = .ok u ↔ n ≤ limit := by
  split
  · rename_i h
    constructor
    · nofun
    · omega
  · rename_i h
    constructor
    · omega
    · exact fun _ => rfl

theorem checkDepth_eq_ok {l : Limits} {n : Nat} {u : Unit} : l.checkDepth n = .ok u ↔ n ≤ l.depth := accepts_iff

theorem checkSize_eq_ok {l : Limits} {n : Nat} {u : Unit} : l.checkSize n = .ok u ↔ n ≤ l.size := accepts_iff

theorem checkDocuments_eq_ok {l : Limits} {n : Nat} {u : Unit} : l.checkDocuments n = .ok u ↔ n ≤ l.documents :=
  accepts_iff

theorem checkElements_eq_ok {l : Limits} {n : Nat} {u : Unit} : l.checkElements n = .ok u ↔ n ≤ l.elements :=
  accepts_iff

end Limits

end SchemaHints
