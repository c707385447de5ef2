/-
Hosts of absolute addresses. Of a host this library only needs to know whether it is well formed,
because a malformed address is no address at all: domain names, addresses of version 4 in one to four
numbers, and addresses of version 6 in brackets.
-/
import SchemaHints.Bytes
import SchemaHints.Location.Domain

namespace SchemaHints.Location

/-! ## Percent encoding -/

/-- The value of a hexadecimal digit. -/
def hexValue? (b : UInt8) : Option UInt8 :=
  if 0x30 ≤ b && b ≤ 0x39 then some (b - 0x30)
  else if 0x41 ≤ b && b ≤ 0x46 then some (b - 0x37)
  else if 0x61 ≤ b && b ≤ 0x66 then some (b - 0x57)
  else none

/-- The bytes with each percent sign and the two hexadecimal digits after it replaced. -/
def percentDecode : Bytes → Bytes
  | 0x25 :: a :: b :: rest => match hexValue? a, hexValue? b with
    | some high, some low => (high * 16 + low) :: percentDecode rest
    | _, _ => 0x25 :: percentDecode (a :: b :: rest)
  | b :: rest => b :: percentDecode rest
  | [] => []

/-! ## Addresses of version 4 -/

/-- A number in an address: decimal, octal after a zero, hexadecimal after a zero and an x. -/
def addressNumber? (cs : List Char) : Option Nat :=
  match cs with
  | [] => none
  | '0' :: 'x' :: hex | '0' :: 'X' :: hex => digits? 16 hex
  | '0' :: c :: octal => digits? 8 (c :: octal)
  | _ => digits? 10 cs
where
  /-- The number that digits of a base write; no digits write zero. -/
  digits? (base : Nat) (cs : List Char) : Option Nat :=
    cs.foldl (fun acc c => do
      let n ← acc
      let d ← hexValue? (UInt8.ofNat (min c.toNat 255))
      if d.toNat < base then some (n * base + d.toNat) else none) (some 0)

/-- The parts of a name between its dots, without the empty one after a final dot. -/
def dottedParts (cs : List Char) : List (List Char) :=
  let parts := cs.splitOn '.'
  if 1 < parts.length ∧ parts.getLast? = some [] then parts.dropLast else parts

/-- Whether a host must be an address of version 4, since its last part is a number. -/
def endsInNumber (cs : List Char) : Bool :=
  match (dottedParts cs).getLast? with
  | none | some [] => false
  | some last => last.all Char.isDigit || (addressNumber? last).isSome

/-- Whether a host is an address of version 4. -/
def isAddress4 (cs : List Char) : Bool :=
  let numbers := (dottedParts cs).map addressNumber?
  numbers.length ≤ 4 && numbers.dropLast.all (fun n => n.any (· ≤ 255)) &&
    numbers.getLast?.any (fun n => n.any (· < Nat.pow 256 (5 - numbers.length)))

/-! ## Addresses of version 6 -/

/-- Whether a text is four numbers up to 255, in decimal without leading zeros, with dots between. -/
def isDottedQuad (cs : List Char) : Bool :=
  let parts := cs.splitOn '.'
  parts.length = 4 && parts.all fun p =>
    !p.isEmpty && p.length ≤ 3 && p.all Char.isDigit && (p.length = 1 || p.head? ≠ some '0') &&
      (addressNumber? p).any (· ≤ 255)

/-- The number of 16-bit pieces that a text without a double colon writes, if it is well formed; only
where `quad` allows it may the last two be written as four decimal numbers. -/
def pieces? (quad : Bool) (cs : List Char) : Option Nat :=
  if cs.isEmpty then some 0
  else
    let parts := cs.splitOn ':'
    let isDigit (c : Char) : Bool := c.toNat < 128 && (hexValue? (UInt8.ofNat c.toNat)).isSome
    let isPiece (p : List Char) : Bool := 1 ≤ p.length && p.length ≤ 4 && p.all isDigit
    if parts.all isPiece then some parts.length
    else if quad && parts.dropLast.all isPiece && parts.getLast?.any isDottedQuad then
      some (parts.length + 1)
    else none

/-- A text split at its first double colon. -/
def splitAtDoubleColon : List Char → Option (List Char × List Char)
  | ':' :: ':' :: rest => some ([], rest)
  | c :: rest => (splitAtDoubleColon rest).map fun (before, after) => (c :: before, after)
  | [] => none

/-- Whether a text is an address of version 6: eight pieces, or fewer around one double colon. -/
def isAddress6 (cs : List Char) : Bool :=
  match splitAtDoubleColon cs with
  | none => pieces? true cs = some 8
  | some (before, after) => match pieces? false before, pieces? true after with
    | some m, some n => m + n ≤ 7
    | _, _ => false

/-! ## Hosts -/

/-- Whether a host in brackets, or none, is well formed; nothing when there are no brackets. -/
def bracketed? (cs : List Char) : Option Bool :=
  if cs.head? ≠ some '[' then none
  else some (cs.getLast? = some ']' && isAddress6 (cs.drop 1).dropLast)

/-- The domain name that a host stands for, with percent encoding removed; one that ends in a number
must be an address. -/
def domain? (cs : List Char) : Option (List Char) := do
  let decoded ← String.fromUTF8? (Bytes.toByteArray (percentDecode (Bytes.ofString (String.ofList cs))))
  let domain ← domainName? decoded.toList
  if domain.isEmpty || (endsInNumber domain && !isAddress4 domain) then none else some domain

/-- Whether a host of a scheme with domain names is well formed. -/
def isHost (cs : List Char) : Bool := (bracketed? cs).getD (domain? cs).isSome

/-- Whether a character may not stand in a host that is no domain name. -/
def isForbiddenInHost (c : Char) : Bool :=
  ['\x00', '\t', '\n', '\r', ' ', '#', '/', ':', '<', '>', '?', '@', '[', '\\', ']', '^', '|'].contains c

/-- Whether a host of any other scheme is well formed. -/
def isOpaqueHost (cs : List Char) : Bool := (bracketed? cs).getD !cs.any isForbiddenInHost

end SchemaHints.Location
