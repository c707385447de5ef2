/-
Tables of characters. A table lists ranges of code points in increasing order, each with a value, and
is written as a text: a word for each range, that begins with one hexadecimal number or with two and
a hyphen between, and goes on with the value. A look-up halves the table until one range is left.
-/
import SchemaHints.Text.Blank

namespace SchemaHints.Text

/-! ## Hexadecimal numbers -/

/-- The value of a hexadecimal digit in upper case. -/
def hexDigit? (c : Char) : Option Nat :=
  if '0' ≤ c && c ≤ '9' then some (c.toNat - 0x30)
  else if 'A' ≤ c && c ≤ 'F' then some (c.toNat - 0x37)
  else none

/-- The number at the start of a text, and what follows it; no digits write zero. -/
def readHex (cs : List Char) : Nat × List Char :=
  let digits := cs.takeWhile fun c => (hexDigit? c).isSome
  ((digits.filterMap hexDigit?).foldl (fun n d => n * 16 + d) 0, cs.drop digits.length)

/-! ## Ranges -/

/-- The code points from `first` to `last`, with a value. -/
structure Range (α : Type) where
  first : Nat
  last : Nat
  value : α

/-- Reads a range, given how to read its value. -/
def Range.read {α : Type} (value : List Char → α) (word : String) : Range α :=
  let (first, rest) := readHex word.toList
  match rest with
  | '-' :: rest =>
    let (last, rest) := readHex rest
    ⟨first, last, value rest⟩
  | _ => ⟨first, first, value rest⟩

/-- A table of ranges, in increasing order. -/
abbrev Ranges (α : Type) := Array (Range α)

namespace Ranges

variable {α : Type}

/-- Reads a table, given how to read its values. -/
def read (value : List Char → α) (text : String) : Ranges α :=
  ((words text).map (Range.read value)).toArray

/-- The range from index `low` on and before `high` that holds a code point. -/
def search (ranges : Ranges α) (n low high : Nat) : Option (Range α) :=
  if low < high then
    match ranges[(low + high) / 2]? with
    | none => none
    | some r =>
      if n < r.first then search ranges n low ((low + high) / 2)
      else if r.last < n then search ranges n ((low + high) / 2 + 1) high
      else some r
  else none
termination_by high - low

/-- The range that holds a character. -/
def find? (ranges : Ranges α) (c : Char) : Option (Range α) := ranges.search c.toNat 0 ranges.size

/-- The value that a table gives to a character. -/
def value? (ranges : Ranges α) (c : Char) : Option α := (ranges.find? c).map (·.value)

end Ranges

end SchemaHints.Text
