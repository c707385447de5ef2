/-
Events. A document is a sequence of tags with text and other markup between them, and reading it
gives the events that matter to its tree: opening, self-closing and closing tags, up to the first
place where the markup is broken. Everything is found byte by byte whatever the encoding; text is
never decoded. A closing tag must name the tag that is open.
-/
import SchemaHints.Xml.Tag

namespace SchemaHints.Xml

/-- Markup that starts with an exclamation mark. -/
inductive Section
  | comment
  | cdata
  | doctype
  deriving DecidableEq

/-- Why the markup of a document is broken. -/
inductive MarkupFault
  | unfinished (s : Section)
  | unfinishedBang
  | unfinishedInstruction
  | unknownBang (byte : UInt8)
  | emptyDoctype
  | mismatchedTag (expected found : String)
  deriving DecidableEq

namespace MarkupFault

/-- What is said of an input that ends inside some markup. -/
def unfinishedText (what : String) : String := "Unexpected EOF during reading " ++ what

/-- The message of a fault. -/
def text : MarkupFault → String
  | unfinished .comment => unfinishedText "Comment"
  | unfinished .cdata => unfinishedText "CData"
  | unfinished .doctype => unfinishedText "DOCTYPE"
  | unfinishedBang => unfinishedText "Bang"
  | unfinishedInstruction => unfinishedText "XmlDecl"
  | unknownBang byte =>
    "Only Comment (`--`), CDATA (`[CDATA[`) and DOCTYPE (`DOCTYPE`) nodes can start with a '!', but symbol `"
      ++ (Char.ofNat byte.toNat).toString ++ "` found"
  | emptyDoctype => "DOCTYPE declaration must not be empty"
  | mismatchedTag expected found => "Expecting </" ++ expected ++ "> found </" ++ found ++ ">"

end MarkupFault

/-- An event of a document. A tag that cannot be read is an event all the same, because what is
wrong with its place in the document is noticed before what is wrong inside it. -/
inductive Event
  | opening (tag : Except TagFault Tag)
  | selfClosing (tag : Except TagFault Tag)
  | closing
  | malformed (position : Nat) (reason : MarkupFault)

/-- A reader between two constructs: what is left to read and where it starts, the names of the open
tags from the innermost on, and the encoding, which a declaration may still change once. -/
structure Reader where
  rest : Bytes
  position : Nat
  openNames : List Bytes
  encoding : Encoding
  declared : Bool

/-- What reading one construct leads to. -/
inductive Step
  | finished
  | broken (position : Nat) (reason : MarkupFault)
  | next (event : Option Event) (reader : Reader)

/-! ## Sections -/

namespace Section

/-- Whether a section may end after the bytes `seen`, which start with the exclamation mark and are
given in reverse. -/
def mayEnd (s : Section) (seen : Bytes) : Bool :=
  match s with
  -- the two opening dashes must not serve as the closing ones
  | comment => 5 ≤ seen.length && seen.take 2 = [0x2D, 0x2D]
  | cdata => seen.take 2 = [0x5D, 0x5D]
  | doctype => seen.count 0x3C = seen.count 0x3E

/-- The bytes of a section up to the bracket that ends it, and those after it. -/
def cut? (s : Section) (seen : Bytes) : Bytes → Option (Bytes × Bytes)
  | [] => none
  | b :: rest =>
    if b = 0x3E && s.mayEnd seen then some (seen.reverse, rest) else cut? s (b :: seen) rest

theorem cut?_length {s : Section} {seen bytes buf rest : Bytes} (h : s.cut? seen bytes = some (buf, rest)) :
    rest.length < bytes.length := by
  induction bytes generalizing seen with
  | nil => cases h
  | cons b bs ih =>
    rw [cut?] at h
    split at h
    · cases h; simp
    · exact Nat.lt_trans (ih h) (by simp)

/-- What is wrong with the whole text of a section, if anything. -/
def fault? (s : Section) (buf : Bytes) : Option MarkupFault :=
  match s with
  | comment => if buf.take 3 = Bytes.ofString "!--" then none else some (.unfinished s)
  | cdata => if Bytes.startsWithAnyCase "![CDATA[" buf then none else some (.unfinished s)
  | doctype =>
    if Bytes.startsWithAnyCase "!DOCTYPE" buf then
      if (buf.drop 8).all Bytes.isSpace then some .emptyDoctype else none
    else some (.unfinished s)

/-- The section that the byte after the exclamation mark announces. -/
def ofByte? (b : UInt8) : Option Section :=
  if b = 0x5B then some cdata
  else if b = 0x2D then some comment
  else if b = 0x44 ∨ b = 0x64 then some doctype
  else none

end Section

/-! ## Tags -/

/-- The content of a tag, up to the first closing bracket outside quotes or to the end of the input,
and what follows; the flag says whether the bracket was there. -/
def cutTag (quote : Option UInt8) (seen : Bytes) : Bytes → Bytes × Bool × Bytes
  | [] => (seen.reverse, false, [])
  | b :: rest => match quote with
    | none =>
      if b = 0x3E then (seen.reverse, true, rest)
      else cutTag (if b = 0x22 ∨ b = 0x27 then some b else none) (b :: seen) rest
    | some q => cutTag (if b = q then none else some q) (b :: seen) rest

theorem cutTag_length (quote : Option UInt8) (seen bytes : Bytes) :
    (cutTag quote seen bytes).2.2.length ≤ bytes.length := by
  induction bytes generalizing quote seen with
  | nil => simp [cutTag]
  | cons b bs ih =>
    have hl : bs.length ≤ (b :: bs).length := by simp
    cases quote with
    | none =>
      simp only [cutTag]
      split
      · exact hl
      · exact Nat.le_trans (ih _ _) hl
    | some q => exact Nat.le_trans (ih _ _) hl

/-- The bytes up to the first closing bracket or to the end of the input, and what follows; the flag
says whether the bracket was there. -/
def cutMarkup (bytes : Bytes) : Bytes × Bool × Bytes :=
  match Bytes.cut 0x3E bytes with
  | (text, some rest) => (text, true, rest)
  | (text, none) => (text, false, [])

theorem cutMarkup_length (bytes : Bytes) : (cutMarkup bytes).2.2.length ≤ bytes.length := by
  unfold cutMarkup
  split
  · rename_i hc
    exact Nat.le_of_lt (Bytes.cut_length (b := 0x3E) (by rw [hc]))
  · simp

/-! ## One construct -/

namespace Reader

/-- The reader at the start of a document. -/
def start (document : Bytes) : Reader :=
  let (encoding, rest) := Encoding.detect document
  ⟨rest, 0, [], encoding, false⟩

/-- The reader `count` bytes further on, where `rest` is left. -/
def advance (r : Reader) (count : Nat) (rest : Bytes) : Reader :=
  { r with rest := rest, position := r.position + count }

/-- Reads a section; the reader stands at the exclamation mark, and `body` follows it. -/
def readBang (r : Reader) (body : Bytes) : Step :=
  match body with
  | [] => .broken r.position .unfinishedBang
  | b :: _ => match Section.ofByte? b with
    | none => .broken r.position (.unknownBang b)
    | some s => match s.cut? [0x21] body with
      | none => .broken r.position (.unfinished s)
      | some (buf, rest) =>
        let after := r.advance (buf.length + 1) rest
        match s.fault? buf with
        | some reason => .broken after.position reason
        | none => .next none after

/-- The name in a closing tag, without the white space after it; a name of white space alone stays. -/
def closingName (text : Bytes) : Bytes :=
  if text.all Bytes.isSpace then text else Bytes.stripEnd text

/-- Reads a closing tag; the reader stands at the slash, and `body` follows it. -/
def readClosing (r : Reader) (body : Bytes) : Step :=
  let (text, closed, rest) := cutMarkup body
  let bracket := if closed then 1 else 0
  let shown (name : Bytes) : String := (r.encoding.decode? name).getD ""
  match r.openNames with
  -- with no tag open the name is shown as it stands, white space and all
  | [] => .broken (r.position + bracket) (.mismatchedTag "" (shown text))
  | expected :: openNames =>
    if closingName text = expected then
      .next (some .closing) { r.advance (1 + text.length + bracket) rest with openNames := openNames }
    else .broken (r.position + bracket) (.mismatchedTag (shown expected) (shown (closingName text)))

/-- The reader after an XML declaration with this content, which may name the encoding. -/
def declare (r : Reader) (content : Bytes) : Reader :=
  if r.declared then r
  else match Tag.rawValue? (Bytes.ofString "encoding") content.length (content.drop 3) with
    | none => r
    | some label => match Encoding.ofLabel? label with
      | none => r
      | some encoding => { r with encoding := encoding, declared := true }

/-- Reads a processing instruction; the reader stands at the question mark, and `body` follows it. -/
def readInstruction (r : Reader) (body : Bytes) : Step :=
  let (text, closed, rest) := cutMarkup body
  let bracket := if closed then 1 else 0
  if 2 ≤ text.length ∧ text.getLast? = some 0x3F then
    let after := r.advance (1 + text.length + bracket) rest
    let isDeclaration :=
      5 ≤ text.length && text.take 3 = Bytes.ofString "xml" && (text[3]?).any Bytes.isSpace
    .next none (if isDeclaration then after.declare text.dropLast else after)
  else .broken (r.position + bracket) .unfinishedInstruction

/-- Reads an opening or self-closing tag; the reader stands before its content. -/
def readTag (r : Reader) : Step :=
  let (content, closed, rest) := cutTag none [] r.rest
  let after := r.advance (content.length + if closed then 1 else 0) rest
  let name := content.takeWhile fun b => !Bytes.isSpace b
  if content.getLast? = some 0x2F then
    -- the slash belongs to the name when no white space comes before it
    let nameLength := if name.length < content.length then name.length else content.length - 1
    .next (some (.selfClosing (Tag.read r.encoding content.dropLast nameLength))) after
  else
    .next (some (.opening (Tag.read r.encoding content name.length)))
      { after with openNames := name :: r.openNames }

/-- Reads one construct; the reader stands after an opening bracket. -/
def readMarkup (r : Reader) : Step :=
  match r.rest with
  | [] => .finished
  | b :: body =>
    if b = 0x21 then r.readBang body
    else if b = 0x2F then r.readClosing body
    else if b = 0x3F then r.readInstruction body
    else r.readTag

/-- Passes over text and reads the construct after it. -/
def step (r : Reader) : Step :=
  match Bytes.cut 0x3C r.rest with
  | (_, none) => .finished
  | (text, some rest) => (r.advance (text.length + 1) rest).readMarkup

/-! ## A step leaves less to read -/

theorem declare_rest (r : Reader) (content : Bytes) : (r.declare content).rest = r.rest := by
  unfold declare
  repeat' split
  all_goals rfl

theorem readBang_length {r r' : Reader} {body : Bytes} {e : Option Event}
    (h : r.readBang body = .next e r') : r'.rest.length ≤ body.length := by
  unfold readBang at h
  split at h
  · cases h
  split at h
  · cases h
  split at h
  · cases h
  rename_i hc
  simp only at h
  split at h
  · cases h
  · cases h
    exact Nat.le_of_lt (Section.cut?_length hc)

theorem readClosing_length {r r' : Reader} {body : Bytes} {e : Option Event}
    (h : r.readClosing body = .next e r') : r'.rest.length ≤ body.length := by
  unfold readClosing at h
  simp only at h
  split at h
  · cases h
  split at h
  · cases h
    exact cutMarkup_length body
  · cases h

theorem readInstruction_length {r r' : Reader} {body : Bytes} {e : Option Event}
    (h : r.readInstruction body = .next e r') : r'.rest.length ≤ body.length := by
  unfold readInstruction at h
  simp only at h
  split at h
  · cases h
    split
    · rw [declare_rest]; exact cutMarkup_length body
    · exact cutMarkup_length body
  · cases h

theorem readTag_length {r r' : Reader} {e : Option Event} (h : r.readTag = .next e r') :
    r'.rest.length ≤ r.rest.length := by
  unfold readTag at h
  simp only at h
  split at h <;> cases h <;> exact cutTag_length none [] r.rest

theorem readMarkup_length {r r' : Reader} {e : Option Event} (h : r.readMarkup = .next e r') :
    r'.rest.length ≤ r.rest.length := by
  unfold readMarkup at h
  split at h
  · cases h
  rename_i b body hr
  have hb : body.length ≤ r.rest.length := by rw [hr]; simp
  split at h
  · exact Nat.le_trans (readBang_length h) hb
  split at h
  · exact Nat.le_trans (readClosing_length h) hb
  split at h
  · exact Nat.le_trans (readInstruction_length h) hb
  · exact readTag_length h

theorem step_length {r r' : Reader} {e : Option Event} (h : r.step = .next e r') :
    r'.rest.length < r.rest.length := by
  unfold step at h
  split at h
  · cases h
  · rename_i text rest hc
    have hl : rest.length < r.rest.length := Bytes.cut_length (b := 0x3C) (by rw [hc])
    exact Nat.lt_of_le_of_lt (readMarkup_length h) hl

/-! ## All events -/

/-- The events from a reader on. -/
def events (r : Reader) : List Event :=
  match _h : r.step with
  | .finished => []
  | .broken position reason => [.malformed position reason]
  | .next none r' => r'.events
  | .next (some event) r' => event :: r'.events
termination_by r.rest.length
decreasing_by all_goals exact step_length _h

end Reader

/-- The events of a document. -/
def eventsOf (document : Bytes) : List Event := (Reader.start document).events

end SchemaHints.Xml
