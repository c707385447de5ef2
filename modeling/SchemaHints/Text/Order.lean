/-
The two orders in which names and values are listed: by code point, and by lower-case form with the
code points deciding between texts that differ in case only. The lower-case mapping is a parameter,
because nothing about the order depends on which mapping it is.
-/
import SchemaHints.Text.Lower

namespace SchemaHints.Text

/-- Lexicographic comparison by code point; a proper beginning comes first. -/
def compareChars : List Char → List Char → Ordering
  | [], [] => .eq
  | [], _ :: _ => .lt
  | _ :: _, [] => .gt
  | a :: as, b :: bs => (compare a.toNat b.toNat).then (compareChars as bs)

/-- Comparison of texts by code point. -/
def compareText (a b : String) : Ordering := compareChars a.toList b.toList

/-- Comparison by lower-case form under the mapping `low`, then by code point. -/
def compareFolded (low : Char → List Char) (a b : String) : Ordering :=
  (compareChars (a.toList.flatMap low) (b.toList.flatMap low)).then (compareText a b)

/-- Comparison that ignores case unless nothing else distinguishes the texts. -/
def compareIgnoringCase (a b : String) : Ordering := compareFolded lower a b

/-- Stable sort of values by the text that `key` gives each, in the order `cmp`. -/
def sortBy {α : Type} (cmp : String → String → Ordering) (key : α → String) (xs : List α) : List α :=
  xs.mergeSort fun x y => (cmp (key x) (key y)).isLE

end SchemaHints.Text
