/-
Byte sequences. Documents are tokenized byte by byte, and only names and values are decoded, so the
few operations here are searching, trimming, the ASCII case mapping, and showing bytes as text.
-/

namespace SchemaHints

/-- A sequence of bytes. -/
abbrev Bytes := List UInt8

namespace Bytes

/-- The UTF-8 bytes of a text. -/
def ofString (s : String) : Bytes := s.toUTF8.toList

/-- The same bytes as an array. -/
def toByteArray (bs : Bytes) : ByteArray := ⟨bs.toArray⟩

/-- The white space of XML: space, tab, carriage return and line feed. -/
def isSpace (b : UInt8) : Bool := b = 0x20 || b = 0x09 || b = 0x0D || b = 0x0A

/-- The lower-case form of an ASCII letter; any other byte is itself. -/
def lowerByte (b : UInt8) : UInt8 := if 0x41 ≤ b && b ≤ 0x5A then b + 0x20 else b

/-- Whether `bs` starts with the ASCII text `s`, in any case. -/
def startsWithAnyCase (s : String) (bs : Bytes) : Bool :=
  (ofString s).map lowerByte = (bs.take (ofString s).length).map lowerByte

/-- The bytes without the white space at their end. -/
def stripEnd (bs : Bytes) : Bytes := (bs.reverse.dropWhile isSpace).reverse

/-- The bytes before the first `b`, and those after it when there is one. -/
def cut (b : UInt8) (bs : Bytes) : Bytes × Option Bytes :=
  (bs.takeWhile (· ≠ b), match bs.dropWhile (· ≠ b) with
    | [] => none
    | _ :: rest => some rest)

theorem cut_length {b : UInt8} {bs rest : Bytes} (h : (cut b bs).2 = some rest) :
    rest.length < bs.length := by
  have hs := (List.dropWhile_sublist (l := bs) (· ≠ b)).length_le
  simp only [cut] at h
  split at h
  · cases h
  · rename_i hd
    cases h
    rw [hd, List.length_cons] at hs
    exact hs

/-! ## Bytes as text -/

/-- The number of bytes that must follow a first byte, and the range of the first of them. -/
def continuation? (b : UInt8) : Option (Nat × UInt8 × UInt8) :=
  if b < 0x80 then some (0, 0x80, 0xBF)
  else if b < 0xC2 then none
  else if b < 0xE0 then some (1, 0x80, 0xBF)
  else if b = 0xE0 then some (2, 0xA0, 0xBF)
  else if b = 0xED then some (2, 0x80, 0x9F)
  else if b < 0xF0 then some (2, 0x80, 0xBF)
  else if b = 0xF0 then some (3, 0x90, 0xBF)
  else if b < 0xF4 then some (3, 0x80, 0xBF)
  else if b = 0xF4 then some (3, 0x80, 0x8F)
  else none

/-- At most `count` continuation bytes at the start of a text, the first of them within its range. -/
def continued (count : Nat) (low high : UInt8) : Bytes → Bytes
  | [] => []
  | b :: rest =>
    if 0 < count ∧ low ≤ b ∧ b ≤ high then b :: continued (count - 1) 0x80 0xBF rest else []

/-- The characters that show bytes, which need not be UTF-8: bytes that cannot go on to be a character
are shown as one replacement character. -/
def shownChars : Bytes → List Char
  | [] => []
  | b :: rest => match continuation? b with
    | none => '\ufffd' :: shownChars rest
    | some (count, low, high) =>
      let more := continued count low high rest
      let decoded := if more.length = count then String.fromUTF8? (toByteArray (b :: more)) else none
      (decoded.map String.toList).getD ['\ufffd'] ++ shownChars (rest.drop more.length)
termination_by bytes => bytes.length

end Bytes

end SchemaHints
