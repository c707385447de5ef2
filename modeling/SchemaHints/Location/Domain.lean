/-
Domain names in any script. The characters of a name are mapped first, so that variants of a name are
one name, and the name is composed. Of the labels between the dots, those that are encoded must be
what the encoding of a label in its final form would give, and each label must be one that can be
read: it starts with no mark, characters that join or part letters stand between letters that they
can join or part, and characters of both directions do not get mixed up.
-/
import SchemaHints.Location.DomainMapping
import SchemaHints.Location.Punycode
import SchemaHints.Text.Composition
import SchemaHints.Text.Direction
import SchemaHints.Text.Joining

namespace SchemaHints.Location

open Text (Direction direction combiningClass viramaClass firstJoining?)

/-! ## Labels -/

/-- Whether a character is of ASCII. -/
def isAscii (c : Char) : Bool := c.toNat < 0x80

/-- The most characters that the encoded part of a label may have. -/
def longestCode : Nat := 2000

/-- The most characters that a label with characters beyond ASCII may have. -/
def longestLabel : Nat := 1000

/-- The label that an encoded label stands for; any other label stands for itself. -/
def decodeLabel? (label : List Char) : Option (List Char) :=
  let code := label.drop 4
  if !"xn--".toList.isPrefixOf label then some label
  else if longestCode < code.length || !code.all isAscii then none
  else do
    let decoded ← Punycode.decode? code
    if !decoded.all isAscii && decoded.all isKeptInDomain && Text.composed decoded = decoded then
      some decoded
    else none

/-- Whether a character that joins or parts letters fits between a text before it, which is given
backwards, and a text after it. A joiner needs a virama before it; a parting character also fits
between letters that would be connected. -/
def fitsBetween (c : Char) (before after : List Char) : Bool :=
  match before with
  | [] => false
  | previous :: _ =>
    combiningClass previous = viramaClass ||
      (c = '\u200C' && [some .both, some .after].contains (firstJoining? before)
        && [some .both, some .before].contains (firstJoining? after))

/-- Whether the characters of a label that join or part letters fit, given backwards what is before. -/
def joinersFit (before : List Char) : List Char → Bool
  | [] => true
  | c :: rest =>
    ((c ≠ '\u200C' && c ≠ '\u200D') || fitsBetween c before rest) && joinersFit (c :: before) rest

/-- Whether a decoded label can be read. -/
def isLabel (label : List Char) : Bool :=
  !label.head?.any Text.isMark && joinersFit [] label
    && (label.all isAscii || label.length ≤ longestLabel)

/-! ## Directions -/

/-- Whether a name has characters that do not run from left to right. -/
def hasRightward (cs : List Char) : Bool :=
  cs.any fun c => [.right, .arabicNumber].contains (direction c)

/-- Whether the directions in a label are unmistakable, in a name with both: it starts with a letter,
it has letters of that direction only, and one of those or a number ends it; numbers before a letter
from right to left are of one kind. -/
def isDirected (label : List Char) : Bool :=
  let ds := label.map direction
  let last := (ds.reverse.dropWhile (· = .mark)).head?
  match ds.head? with
  | none => true
  | some .left =>
    ds.all (fun d => d ≠ .right && d ≠ .arabicNumber && d ≠ .separator)
      && [some .left, some .europeanNumber].contains last
  | some .right =>
    ds.all (fun d => d ≠ .left && d ≠ .separator)
      && [some .right, some .europeanNumber, some .arabicNumber].contains last
      && !(ds.contains .europeanNumber && ds.contains .arabicNumber)
  | some _ => false

/-! ## Names -/

/-- Whether a character of ASCII may not stand in a domain name. -/
def isForbiddenInDomain (c : Char) : Bool :=
  c.toNat ≤ 0x20 || c.toNat = 0x7F ||
    ['#', '%', '/', ':', '<', '>', '?', '@', '[', '\\', ']', '^', '|'].contains c

/-- A domain name with its characters mapped and composed, or nothing when it is malformed. Encoded
labels are checked and kept as they are. -/
def domainName? (cs : List Char) : Option (List Char) := do
  let name := Text.composed (← cs.mapM mapInDomain?).flatten
  let labels ← (name.splitOn '.').mapM decodeLabel?
  if !name.any isForbiddenInDomain && labels.all isLabel
      && (!labels.any hasRightward || labels.all isDirected) then some name
  else none

end SchemaHints.Location
