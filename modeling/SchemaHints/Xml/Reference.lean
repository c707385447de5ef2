/-
Character and entity references in attribute values. A reference runs from an ampersand to the next
semicolon; the five predefined entities and references to code points are known, and every other
use of an ampersand is a fault. Faults name their place by byte offsets in the UTF-8 form of the value.
-/
import SchemaHints.Text.Shown

namespace SchemaHints.Xml

/-- Why the references of a value cannot be replaced. -/
inductive ReferenceFault
  | unterminated (start stop : Nat)
  | unknownEntity (start stop : Nat) (name : String)
  | tooManyHexDigits
  | tooManyDigits
  | notAHexDigit (byte : Char)
  | notADigit (byte : Char)
  | nullCharacter (start stop : Nat)
  | notACharacter (code : Nat)
  deriving DecidableEq

namespace ReferenceFault

/-- A range of byte offsets. -/
def rangeText (start stop : Nat) : String :=
  "Error while escaping character at range " ++ toString start ++ ".." ++ toString stop ++ ": "

/-- The message of a fault. -/
def text : ReferenceFault → String
  | unterminated start stop => rangeText start stop ++ "Cannot find ';' after '&'"
  | unknownEntity start stop name =>
    rangeText start stop ++ "Unrecognized escape symbol: " ++ Text.shown name
  | tooManyHexDigits => "Cannot convert hexadecimal to utf8"
  | tooManyDigits => "Cannot convert decimal to utf8"
  | notAHexDigit byte => "'" ++ byte.toString ++ "' is not a valid hexadecimal character"
  | notADigit byte => "'" ++ byte.toString ++ "' is not a valid decimal character"
  | nullCharacter start stop => rangeText start stop ++ "Null character entity not allowed"
  | notACharacter code => "'" ++ toString code ++ "' is not a valid codepoint"

end ReferenceFault

namespace Reference

/-- The number of UTF-8 bytes of some characters. -/
def byteLength (cs : List Char) : Nat := cs.foldr (fun c n => c.utf8Size + n) 0

/-- The first byte of the UTF-8 form of a character, as a character of its own. -/
def leadByte (c : Char) : Char :=
  let n := c.toNat
  if n < 0x80 then c
  else if n < 0x800 then Char.ofNat (0xC0 + n / 0x40)
  else if n < 0x10000 then Char.ofNat (0xE0 + n / 0x1000)
  else Char.ofNat (0xF0 + n / 0x40000)

/-- The value of a hexadecimal digit. -/
def hexDigit? (c : Char) : Option Nat :=
  if '0' ≤ c ∧ c ≤ '9' then some (c.toNat - '0'.toNat)
  else if 'a' ≤ c ∧ c ≤ 'f' then some (c.toNat - 'a'.toNat + 10)
  else if 'A' ≤ c ∧ c ≤ 'F' then some (c.toNat - 'A'.toNat + 10)
  else none

/-- The value of a decimal digit. -/
def digit? (c : Char) : Option Nat :=
  if '0' ≤ c ∧ c ≤ '9' then some (c.toNat - '0'.toNat) else none

/-- The number that digits write in a base; `bad` is the fault of a character that is no digit. -/
def number (base : Nat) (value? : Char → Option Nat) (bad : Char → ReferenceFault) :
    Nat → List Char → Except ReferenceFault Nat
  | acc, [] => .ok acc
  | acc, c :: cs => match value? c with
    | some d => number base value? bad (acc * base + d) cs
    | none => .error (bad (leadByte c))

/-- The code point of a reference whose text after the number sign is `digits`. -/
def codePoint (digits : List Char) : Except ReferenceFault Nat :=
  match digits with
  | 'x' :: hex =>
    if 6 < byteLength hex then .error .tooManyHexDigits
    else number 16 hexDigit? .notAHexDigit 0 hex
  | _ =>
    if 7 < byteLength digits then .error .tooManyDigits
    else number 10 digit? .notADigit 0 digits

/-- The predefined entities. -/
def predefined? (name : String) : Option Char :=
  match name with
  | "lt" => some '<'
  | "gt" => some '>'
  | "amp" => some '&'
  | "apos" => some '\''
  | "quot" => some '"'
  | _ => none

/-- The character of the reference `name`, which starts (with its ampersand) at byte `start`. -/
def resolve (start : Nat) (name : List Char) : Except ReferenceFault Char :=
  let stop := start + 1 + byteLength name
  match name with
  | '#' :: digits => do
    let code ← codePoint digits
    if code = 0 then .error (.nullCharacter start stop)
    else if code.isValidChar then .ok (Char.ofNat code)
    else .error (.notACharacter code)
  | _ => match predefined? (String.ofList name) with
    | some c => .ok c
    | none => .error (.unknownEntity (start + 1) stop (String.ofList name))

/-- Whether a character ends the search for the semicolon of a reference. -/
def isDelimiter (c : Char) : Bool := c = '&' || c = ';'

/-- Replaces the references in `cs`, whose first character stands at byte `start` of a value that
ends at byte `stop`. -/
def expandFrom (stop : Nat) : (start : Nat) → List Char → Except ReferenceFault (List Char)
  | _, [] => .ok []
  | start, c :: cs =>
    if c = '&' then
      let name := cs.takeWhile fun c => !isDelimiter c
      match h : cs.dropWhile fun c => !isDelimiter c with
      | ';' :: rest => do
        let char ← resolve start name
        let chars ← expandFrom stop (start + 2 + byteLength name) rest
        .ok (char :: chars)
      | _ => .error (.unterminated start stop)
    else do
      let chars ← expandFrom stop (start + c.utf8Size) cs
      .ok (c :: chars)
termination_by _ cs => cs.length
decreasing_by
  · have hs := (List.dropWhile_sublist (l := cs) fun c => !isDelimiter c).length_le
    rw [h, List.length_cons] at hs
    simp only [List.length_cons]
    omega
  · simp

/-- A value with its references replaced. -/
def expand (value : String) : Except ReferenceFault String :=
  String.ofList <$> expandFrom value.utf8ByteSize 0 value.toList

end Reference

end SchemaHints.Xml
