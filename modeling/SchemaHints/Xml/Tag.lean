/-
Tags. The content of a tag, between its angle brackets, is a name up to the first white space and
then attributes, each a key, an equals sign and a quoted value. Keys and values are found byte by
byte and decoded afterwards; the attributes are taken in order, so the first fault is the fault of
the tag. Positions in faults count bytes from the start of the content.
-/
import SchemaHints.Xml.Encoding
import SchemaHints.Xml.Reference

namespace SchemaHints.Xml

/-- Why the attributes of a tag cannot be told apart. -/
inductive AttributeFault
  | missingEquals (position : Nat)
  | duplicate (position previous : Nat)
  | missingValue (position : Nat)
  | unquotedValue (position : Nat)
  | missingQuote (position : Nat) (quote : Char)
  deriving DecidableEq

/-- The message of a fault. -/
def AttributeFault.text : AttributeFault → String
  | missingEquals p =>
    "position " ++ toString p ++ ": attribute key must be directly followed by `=` or space"
  | duplicate p q =>
    "position " ++ toString p ++ ": duplicated attribute, previous declaration at position " ++ toString q
  | missingValue p => "position " ++ toString p ++ ": `=` must be followed by an attribute value"
  | unquotedValue p =>
    "position " ++ toString p ++ ": attribute value must be enclosed in `\"` or `'`"
  | missingQuote p q =>
    "position " ++ toString p ++ ": missing closing quote `" ++ q.toString ++ "` in attribute value"

/-- Why a tag cannot be read. -/
inductive TagFault
  | undecodableName
  | brokenAttribute (reason : AttributeFault)
  | undecodableKey
  | undecodableValue
  | reference (reason : ReferenceFault)
  deriving DecidableEq

/-- What is said of bytes that have no meaning in the encoding of the document. -/
def undecodableText : String := "Malformed input, decoding impossible"

/-- The message of a fault. -/
def TagFault.text : TagFault → String
  | undecodableName => "Invalid element name: " ++ undecodableText
  | brokenAttribute reason => "Failed to parse attribute: " ++ reason.text
  | undecodableKey => "Invalid attribute name: " ++ undecodableText
  | undecodableValue => "Failed to unescape attribute value: " ++ undecodableText
  | reference reason => "Failed to unescape attribute value: " ++ reason.text

/-- A tag: its name and its attributes as written, references replaced. -/
structure Tag where
  name : String
  attributes : List (String × String)
  deriving DecidableEq

/-! ## Attributes, byte by byte -/

/-- An attribute before decoding, with the place of its key. -/
structure RawAttribute where
  key : Bytes
  position : Nat
  value : Bytes

namespace RawAttribute

/-- Whether a key goes on with this byte, after its first. -/
def isKeyByte (b : UInt8) : Bool := b ≠ 0x3D && !Bytes.isSpace b

/-- The first attribute in `bytes`, which end a tag content of `length` bytes, with the bytes after
it; `seen` holds the keys before it, which it must not repeat. -/
def next? (length : Nat) (seen : List (Bytes × Nat)) (bytes : Bytes) :
    Except AttributeFault (Option (RawAttribute × Bytes)) :=
  match bytes.dropWhile Bytes.isSpace with
  | [] => .ok none
  | first :: afterFirst =>
    let key := first :: afterFirst.takeWhile isKeyByte
    let position := length - (afterFirst.length + 1)
    match (afterFirst.dropWhile isKeyByte).dropWhile Bytes.isSpace with
    | [] => .error (.missingEquals length)
    | equals :: afterEquals =>
      if equals ≠ 0x3D then .error (.missingEquals (length - (afterEquals.length + 1)))
      else match seen.lookup key with
        | some previous => .error (.duplicate position previous)
        | none => match afterEquals.dropWhile Bytes.isSpace with
          | [] => .error (.missingValue length)
          | quote :: afterQuote =>
            if quote ≠ 0x22 ∧ quote ≠ 0x27 then .error (.unquotedValue (length - (afterQuote.length + 1)))
            else match Bytes.cut quote afterQuote with
              | (_, none) => .error (.missingQuote length (Char.ofNat quote.toNat))
              | (value, some rest) => .ok (some (⟨key, position, value⟩, rest))

theorem next?_length {length : Nat} {seen : List (Bytes × Nat)} {bytes rest : Bytes} {a : RawAttribute}
    (h : next? length seen bytes = .ok (some (a, rest))) : rest.length < bytes.length := by
  have drops (p : UInt8 → Bool) (l : Bytes) : (l.dropWhile p).length ≤ l.length :=
    (List.dropWhile_sublist (l := l) p).length_le
  unfold next? at h
  split at h
  · cases h
  rename_i first afterFirst h1
  have l1 := drops Bytes.isSpace bytes
  rw [h1, List.length_cons] at l1
  simp only at h
  split at h
  · cases h
  rename_i equals afterEquals h2
  have l2 := Nat.le_trans (drops Bytes.isSpace _) (drops isKeyByte afterFirst)
  rw [h2, List.length_cons] at l2
  split at h
  · cases h
  split at h
  · cases h
  split at h
  · cases h
  rename_i quote afterQuote h3
  have l3 := drops Bytes.isSpace afterEquals
  rw [h3, List.length_cons] at l3
  split at h
  · cases h
  split at h
  · cases h
  rename_i value rest' hc
  cases h
  have l4 : rest.length < afterQuote.length := Bytes.cut_length (b := quote) (by rw [hc])
  omega

end RawAttribute

/-! ## Reading a tag -/

namespace Tag

/-- Decodes the key and the value of an attribute and replaces the references in the value. -/
def decodeAttribute (e : Encoding) (raw : RawAttribute) : Except TagFault (String × String) :=
  match e.decode? raw.key with
  | none => .error .undecodableKey
  | some key => match e.decode? raw.value with
    | none => .error .undecodableValue
    | some value => match Reference.expand value with
      | .error reason => .error (.reference reason)
      | .ok value => .ok (key, value)

/-- The attributes in `bytes`, which end a tag content of `length` bytes. -/
def attributesFrom (e : Encoding) (length : Nat) (seen : List (Bytes × Nat)) (bytes : Bytes) :
    Except TagFault (List (String × String)) :=
  match _h : RawAttribute.next? length seen bytes with
  | .error reason => .error (.brokenAttribute reason)
  | .ok none => .ok []
  | .ok (some (raw, rest)) => do
    let a ← decodeAttribute e raw
    let as ← attributesFrom e length ((raw.key, raw.position) :: seen) rest
    .ok (a :: as)
termination_by bytes.length
decreasing_by exact RawAttribute.next?_length _h

/-- Reads the content of a tag whose name takes the first `nameLength` bytes. -/
def read (e : Encoding) (content : Bytes) (nameLength : Nat) : Except TagFault Tag :=
  match e.decode? (content.take nameLength) with
  | none => .error .undecodableName
  | some name => do
    let attributes ← attributesFrom e content.length [] (content.drop nameLength)
    .ok ⟨name, attributes⟩

/-- The undecoded value of the first attribute with a key, for a content that may repeat keys. -/
def rawValue? (key : Bytes) (length : Nat) (bytes : Bytes) : Option Bytes :=
  match _h : RawAttribute.next? length [] bytes with
  | .ok (some (raw, rest)) => if raw.key = key then some raw.value else rawValue? key length rest
  | _ => none
termination_by bytes.length
decreasing_by exact RawAttribute.next?_length _h

end Tag

end SchemaHints.Xml
