/-
Character encodings of documents: their labels, the byte patterns at the start of a document that
tell them apart, and strict decoding, which refuses a text as soon as one byte of it has no meaning.
-/
import SchemaHints.Xml.Japanese

namespace SchemaHints.Xml

/-- The encodings that documents are read in: those of Unicode, three with one byte for each character, and one with
one or two. There are more in use; a label of any other is taken for one that names no encoding. -/
inductive Encoding
  | utf8
  | utf16le
  | utf16be
  | windows1252
  | windows1251
  | latin9
  | shiftJis
  deriving DecidableEq, Inhabited

namespace Encoding

/-! ## Labels -/

/-- The labels of each encoding, in lower case. -/
def labels : Encoding → List String
  | utf8 => ["unicode-1-1-utf-8", "unicode11utf8", "unicode20utf8", "utf-8", "utf8", "x-unicode20utf8"]
  | utf16le => ["csunicode", "iso-10646-ucs-2", "ucs-2", "unicode", "unicodefeff", "utf-16", "utf-16le"]
  | utf16be => ["unicodefffe", "utf-16be"]
  | windows1252 => ["ansi_x3.4-1968", "ascii", "cp1252", "cp819", "csisolatin1", "ibm819", "iso-8859-1",
      "iso-ir-100", "iso8859-1", "iso88591", "iso_8859-1", "iso_8859-1:1987", "l1", "latin1", "us-ascii",
      "windows-1252", "x-cp1252"]
  | windows1251 => ["cp1251", "windows-1251", "x-cp1251"]
  | latin9 => ["csisolatin9", "iso-8859-15", "iso8859-15", "iso885915", "iso_8859-15", "l9"]
  | shiftJis => ["csshiftjis", "ms932", "ms_kanji", "shift-jis", "shift_jis", "sjis", "windows-31j", "x-sjis"]

/-- All encodings. -/
def all : List Encoding := [utf8, utf16le, utf16be, windows1252, windows1251, latin9, shiftJis]

/-- The encoding that a label names, whatever its case and with blanks around it. -/
def ofLabel? (label : Bytes) : Option Encoding :=
  let trimmed := ((label.dropWhile isLabelBlank).reverse.dropWhile isLabelBlank).reverse
  all.find? fun e => e.labels.any fun l => Bytes.ofString l = trimmed.map Bytes.lowerByte
where
  isLabelBlank (b : UInt8) : Bool := b = 0x20 || b = 0x09 || b = 0x0A || b = 0x0C || b = 0x0D

/-! ## The start of a document -/

/-- The encoding that the first bytes suggest, and the document without its byte order mark. -/
def detect : Bytes → Encoding × Bytes
  | 0xFE :: 0xFF :: rest => (utf16be, rest)
  | 0xFF :: 0xFE :: rest => (utf16le, rest)
  | 0xEF :: 0xBB :: 0xBF :: rest => (utf8, rest)
  | bytes@(0x00 :: 0x3C :: 0x00 :: 0x3F :: _) => (utf16be, bytes)
  | bytes@(0x3C :: 0x00 :: 0x3F :: 0x00 :: _) => (utf16le, bytes)
  | bytes => (utf8, bytes)

/-! ## Decoding -/

/-- What the bytes from 80 to 9F stand for in the Western code page. -/
def westernControls : List Nat :=
  [0x20AC, 0x0081, 0x201A, 0x0192, 0x201E, 0x2026, 0x2020, 0x2021, 0x02C6, 0x2030, 0x0160, 0x2039,
    0x0152, 0x008D, 0x017D, 0x008F, 0x0090, 0x2018, 0x2019, 0x201C, 0x201D, 0x2022, 0x2013, 0x2014,
    0x02DC, 0x2122, 0x0161, 0x203A, 0x0153, 0x009D, 0x017E, 0x0178]

/-- What the bytes from 80 on stand for in the Cyrillic code page. -/
def cyrillic : List Nat :=
  [0x0402, 0x0403, 0x201A, 0x0453, 0x201E, 0x2026, 0x2020, 0x2021, 0x20AC, 0x2030, 0x0409, 0x2039,
    0x040A, 0x040C, 0x040B, 0x040F, 0x0452, 0x2018, 0x2019, 0x201C, 0x201D, 0x2022, 0x2013, 0x2014,
    0x0098, 0x2122, 0x0459, 0x203A, 0x045A, 0x045C, 0x045B, 0x045F, 0x00A0, 0x040E, 0x045E, 0x0408,
    0x00A4, 0x0490, 0x00A6, 0x00A7, 0x0401, 0x00A9, 0x0404, 0x00AB, 0x00AC, 0x00AD, 0x00AE, 0x0407,
    0x00B0, 0x00B1, 0x0406, 0x0456, 0x0491, 0x00B5, 0x00B6, 0x00B7, 0x0451, 0x2116, 0x0454, 0x00BB,
    0x0458, 0x0405, 0x0455, 0x0457, 0x0410, 0x0411, 0x0412, 0x0413, 0x0414, 0x0415, 0x0416, 0x0417,
    0x0418, 0x0419, 0x041A, 0x041B, 0x041C, 0x041D, 0x041E, 0x041F, 0x0420, 0x0421, 0x0422, 0x0423,
    0x0424, 0x0425, 0x0426, 0x0427, 0x0428, 0x0429, 0x042A, 0x042B, 0x042C, 0x042D, 0x042E, 0x042F,
    0x0430, 0x0431, 0x0432, 0x0433, 0x0434, 0x0435, 0x0436, 0x0437, 0x0438, 0x0439, 0x043A, 0x043B,
    0x043C, 0x043D, 0x043E, 0x043F, 0x0440, 0x0441, 0x0442, 0x0443, 0x0444, 0x0445, 0x0446, 0x0447,
    0x0448, 0x0449, 0x044A, 0x044B, 0x044C, 0x044D, 0x044E, 0x044F]

/-- The character of a byte in an encoding that has one byte for each. -/
def ofByte (e : Encoding) (b : UInt8) : Char :=
  let n := b.toNat
  match e with
  | windows1251 => if n < 0x80 then Char.ofNat n else Char.ofNat (cyrillic.getD (n - 0x80) n)
  | latin9 => match n with
    | 0xA4 => '\u20AC' | 0xA6 => '\u0160' | 0xA8 => '\u0161' | 0xB4 => '\u017D'
    | 0xB8 => '\u017E' | 0xBC => '\u0152' | 0xBD => '\u0153' | 0xBE => '\u0178'
    | _ => Char.ofNat n
  | _ => if 0x80 ≤ n && n < 0xA0 then Char.ofNat (westernControls.getD (n - 0x80) n) else Char.ofNat n

/-- The 16-bit units of a text; a lone last byte makes the text undecodable. -/
def units (bigEndian : Bool) : Bytes → Option (List Nat)
  | [] => some []
  | [_] => none
  | a :: b :: rest =>
    let unit := if bigEndian then a.toNat * 256 + b.toNat else b.toNat * 256 + a.toNat
    (units bigEndian rest).map (unit :: ·)

/-- The characters of 16-bit units; a surrogate without its partner makes the text undecodable. -/
def ofUnits : List Nat → Option (List Char)
  | [] => some []
  | high :: rest =>
    if high < 0xD800 || 0xDFFF < high then (ofUnits rest).map (Char.ofNat high :: ·)
    else match rest with
      | [] => none
      | low :: rest =>
        if high < 0xDC00 && 0xDC00 ≤ low && low ≤ 0xDFFF then
          (ofUnits rest).map (Char.ofNat (0x10000 + (high - 0xD800) * 0x400 + (low - 0xDC00)) :: ·)
        else none

/-- The text that bytes stand for, or nothing when some byte has no meaning. -/
def decode? (e : Encoding) (bytes : Bytes) : Option String :=
  match e with
  | utf8 => String.fromUTF8? (Bytes.toByteArray bytes)
  | utf16le => ((units false bytes).bind ofUnits).map String.ofList
  | utf16be => ((units true bytes).bind ofUnits).map String.ofList
  | shiftJis => (Japanese.decode? bytes).map String.ofList
  | _ => some (String.ofList (bytes.map e.ofByte))

end Encoding

end SchemaHints.Xml
