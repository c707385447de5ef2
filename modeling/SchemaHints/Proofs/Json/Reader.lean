/-
Reading JSON. A text is cut into tokens, and the tokens are taken one by one: what is open around a token,
and what may come next, says what it means. Everything that a JSON text may hold is read, whether this
library writes it or not: all escapes, surrogate pairs, numbers, the truth values, and white space between
tokens. The members of an object are kept in their order, and a key as often as it occurs.
-/
import SchemaHints.Json
import SchemaHints.Xml.Reference

namespace SchemaHints

/-- A JSON value as it is read; a number is kept as it is written. -/
inductive JsonValue
  | null
  | bool (b : Bool)
  | number (digits : String)
  | text (s : String)
  | list (items : List JsonValue)
  | object (members : List (String × JsonValue))

/-- A token of a JSON text. -/
inductive JsonToken
  | openList
  | closeList
  | openObject
  | closeObject
  | comma
  | colon
  | null
  | bool (b : Bool)
  | number (digits : String)
  | text (s : String)

namespace JsonToken

open Xml.Reference (hexDigit? digit?)

/-! ## Strings -/

/-- The number that the first four characters write, and what follows them. -/
def unit? : List Char → Option (Nat × List Char)
  | a :: b :: c :: d :: rest => do
    let a ← hexDigit? a
    let b ← hexDigit? b
    let c ← hexDigit? c
    let d ← hexDigit? d
    some (((a * 16 + b) * 16 + c) * 16 + d, rest)
  | _ => none

/-- Whether a code unit begins a surrogate pair. -/
def isHighSurrogate (unit : Nat) : Bool := 0xD800 ≤ unit && unit < 0xDC00

/-- Whether a code unit ends a surrogate pair. -/
def isLowSurrogate (unit : Nat) : Bool := 0xDC00 ≤ unit && unit < 0xE000

/-- The character of a surrogate pair. -/
def ofSurrogates (high low : Nat) : Char := Char.ofNat (0x10000 + (high - 0xD800) * 0x400 + (low - 0xDC00))

/-- The character of one code unit, or of two that are a surrogate pair, and what follows it. -/
def escapedUnit? (cs : List Char) : Option (Char × List Char) :=
  match unit? cs with
  | none => none
  | some (unit, rest) =>
    if isHighSurrogate unit then match rest with
      | '\\' :: 'u' :: rest => match unit? rest with
        | none => none
        | some (low, rest) => if isLowSurrogate low then some (ofSurrogates unit low, rest) else none
      | _ => none
    else if isLowSurrogate unit then none
    else some (Char.ofNat unit, rest)

/-- The character that is escaped after a backslash, and what follows it. -/
def escaped? : List Char → Option (Char × List Char)
  | '"' :: rest => some ('"', rest)
  | '\\' :: rest => some ('\\', rest)
  | '/' :: rest => some ('/', rest)
  | 'b' :: rest => some ('\x08', rest)
  | 'f' :: rest => some ('\x0c', rest)
  | 'n' :: rest => some ('\n', rest)
  | 'r' :: rest => some ('\r', rest)
  | 't' :: rest => some ('\t', rest)
  | 'u' :: rest => escapedUnit? rest
  | _ => none

theorem unit?_length {cs rest : List Char} {n : Nat} (h : unit? cs = some (n, rest)) : rest.length < cs.length := by
  unfold unit? at h
  split at h
  · simp only [Option.bind_eq_bind, Option.bind_eq_some_iff, Option.some.injEq, Prod.mk.injEq] at h
    obtain ⟨_, -, _, -, _, -, _, -, -, rfl⟩ := h
    simp only [List.length_cons]
    omega
  · cases h

theorem escapedUnit?_length {cs rest : List Char} {c : Char} (h : escapedUnit? cs = some (c, rest)) :
    rest.length < cs.length := by
  unfold escapedUnit? at h
  split at h
  · cases h
  · rename_i hunit
    have hlength := unit?_length hunit
    split at h
    · split at h
      · split at h
        · cases h
        · rename_i hlow
          have hlength' := unit?_length hlow
          split at h
          · simp only [Option.some.injEq, Prod.mk.injEq] at h
            obtain ⟨-, rfl⟩ := h
            simp only [List.length_cons] at hlength
            omega
          · cases h
      · cases h
    · split at h
      · cases h
      · cases h
        exact hlength

theorem escaped?_length {cs rest : List Char} {c : Char} (h : escaped? cs = some (c, rest)) :
    rest.length < cs.length := by
  unfold escaped? at h
  split at h
  case h_9 => exact Nat.lt_succ_of_lt (escapedUnit?_length h)
  case h_10 => cases h
  all_goals
    cases h
    exact Nat.lt_succ_self _

/-- The characters of a string up to its closing quote, and what follows that. -/
def string? (cs : List Char) : Option (List Char × List Char) :=
  match cs with
  | [] => none
  | c :: rest =>
    if c = '"' then some ([], rest)
    else if c = '\\' then match _h : escaped? rest with
      | none => none
      | some (d, after) => (string? after).map fun s => (d :: s.1, s.2)
    -- a control character has to be escaped
    else if c.toNat < 0x20 then none
    else (string? rest).map fun s => (c :: s.1, s.2)
termination_by cs.length
decreasing_by
  · exact Nat.lt_succ_of_lt (escaped?_length _h)
  · exact Nat.lt_succ_self _

theorem string?_length {cs s rest : List Char} (h : string? cs = some (s, rest)) : rest.length < cs.length := by
  fun_induction string? cs generalizing s with
  | case1 => cases h
  | case2 rest' =>
    cases h
    exact Nat.lt_succ_self _
  | case3 => cases h
  | case4 rest' d after he _ ih =>
    obtain ⟨_, hs, hmap⟩ := Option.map_eq_some_iff.1 h
    cases hmap
    have hlength := escaped?_length he
    have hlength' := ih hs
    simp only [List.length_cons]
    omega
  | case5 => cases h
  | case6 c rest' _ _ _ ih =>
    obtain ⟨_, hs, hmap⟩ := Option.map_eq_some_iff.1 h
    cases hmap
    exact Nat.lt_succ_of_lt (ih hs)

/-! ## Numbers -/

/-- Whether a character is a digit. -/
def isDigit (c : Char) : Bool := (digit? c).isSome

/-- Whether a character may occur in a number. -/
def isNumberChar (c : Char) : Bool := isDigit c || c = '-' || c = '+' || c = '.' || c = 'e' || c = 'E'

/-- Whether what follows the digits of a number is an exponent or nothing. -/
def isExponent : List Char → Bool
  | [] => true
  | c :: rest =>
    let digits := match rest with
      | '+' :: digits | '-' :: digits => digits
      | _ => rest
    (c = 'e' || c = 'E') && digits ≠ [] && digits.all isDigit

/-- Whether what follows the whole part of a number is a fraction, an exponent, both or nothing. -/
def isFraction : List Char → Bool
  | '.' :: rest => rest.takeWhile isDigit ≠ [] && isExponent (rest.dropWhile isDigit)
  | rest => isExponent rest

/-- Whether characters are a number; only zero itself begins with a zero. -/
def isNumber (cs : List Char) : Bool :=
  let unsigned := match cs with
    | '-' :: rest => rest
    | _ => cs
  let whole := unsigned.takeWhile isDigit
  (whole = ['0'] || whole ≠ [] && whole.head? ≠ some '0') && isFraction (unsigned.dropWhile isDigit)

/-! ## Tokens -/

/-- White space between tokens. -/
def isSpace (c : Char) : Bool := c = ' ' || c = '\t' || c = '\n' || c = '\r'

/-- A token that is a word, if the rest of the word comes next. -/
def word? (t : JsonToken) (letters cs : List Char) : Option (JsonToken × List Char) :=
  if letters.isPrefixOf cs then some (t, cs.drop letters.length) else none

/-- The token that begins with `c`, and what follows it. -/
def next? (c : Char) (rest : List Char) : Option (JsonToken × List Char) :=
  match c with
  | '[' => some (openList, rest)
  | ']' => some (closeList, rest)
  | '\x7b' => some (openObject, rest)
  | '\x7d' => some (closeObject, rest)
  | ',' => some (comma, rest)
  | ':' => some (colon, rest)
  | '"' => (string? rest).map fun s => (text (String.ofList s.1), s.2)
  | 'n' => word? null ['u', 'l', 'l'] rest
  | 't' => word? (bool true) ['r', 'u', 'e'] rest
  | 'f' => word? (bool false) ['a', 'l', 's', 'e'] rest
  -- a number goes on as long as it can, and has to be one as a whole
  | c =>
    let digits := c :: rest.takeWhile isNumberChar
    if isNumber digits then some (number (String.ofList digits), rest.dropWhile isNumberChar) else none

theorem word?_length {t t' : JsonToken} {letters cs after : List Char} (h : word? t letters cs = some (t', after)) :
    after.length ≤ cs.length := by
  unfold word? at h
  split at h
  · cases h
    rw [List.length_drop]
    exact Nat.sub_le ..
  · cases h

theorem next?_length {c : Char} {rest after : List Char} {t : JsonToken} (h : next? c rest = some (t, after)) :
    after.length ≤ rest.length := by
  unfold next? at h
  split at h
  case h_7 =>
    obtain ⟨_, hs, hmap⟩ := Option.map_eq_some_iff.1 h
    cases hmap
    exact Nat.le_of_lt (string?_length hs)
  case h_8 | h_9 | h_10 => exact word?_length h
  case h_11 =>
    simp only at h
    split at h
    · cases h
      exact (List.dropWhile_sublist isNumberChar).length_le
    · cases h
  all_goals
    cases h
    exact Nat.le_refl _

/-- The tokens of a text. -/
def tokens? (cs : List Char) : Option (List JsonToken) :=
  match cs with
  | [] => some []
  | c :: rest =>
    if isSpace c then tokens? rest
    else match _h : next? c rest with
      | none => none
      | some (t, after) => (tokens? after).map (t :: ·)
termination_by cs.length
decreasing_by
  · exact Nat.lt_succ_self _
  · exact Nat.lt_succ_of_le (next?_length _h)

end JsonToken

/-! ## Values -/

/-- What is open around a place in a text: a list with the items before it, or an object with the members
before it and the key that it belongs to. -/
inductive JsonFrame
  | list (items : List JsonValue)
  | object (members : List (String × JsonValue)) (key : String)

/-- What may come next: a value, the first item or member of what was opened last or its end, a key, the
colon after a key, or, after a value, what goes on with it. -/
inductive JsonPlace
  | value
  | firstItem
  | firstMember
  | key (members : List (String × JsonValue))
  | colon (members : List (String × JsonValue)) (key : String)
  | done (v : JsonValue)

/-- A reader at a place, and what is open around that, the innermost first. -/
structure JsonReader where
  stack : List JsonFrame
  place : JsonPlace

namespace JsonReader

/-- Takes a token where a value begins. -/
def beginValue (stack : List JsonFrame) : JsonToken → Option JsonReader
  | .openList => some ⟨stack, .firstItem⟩
  | .openObject => some ⟨stack, .firstMember⟩
  | .null => some ⟨stack, .done .null⟩
  | .bool b => some ⟨stack, .done (.bool b)⟩
  | .number digits => some ⟨stack, .done (.number digits)⟩
  | .text s => some ⟨stack, .done (.text s)⟩
  | _ => none

/-- Takes a token after a value. -/
def endValue (v : JsonValue) : List JsonFrame → JsonToken → Option JsonReader
  | .list items :: stack, .comma => some ⟨.list (items ++ [v]) :: stack, .value⟩
  | .list items :: stack, .closeList => some ⟨stack, .done (.list (items ++ [v]))⟩
  | .object members key :: stack, .comma => some ⟨stack, .key (members ++ [(key, v)])⟩
  | .object members key :: stack, .closeObject => some ⟨stack, .done (.object (members ++ [(key, v)]))⟩
  | _, _ => none

/-- Takes a token. -/
def step (r : JsonReader) (t : JsonToken) : Option JsonReader :=
  match r.place, t with
  | .value, t => beginValue r.stack t
  | .firstItem, .closeList => some ⟨r.stack, .done (.list [])⟩
  | .firstItem, t => beginValue (.list [] :: r.stack) t
  | .firstMember, .closeObject => some ⟨r.stack, .done (.object [])⟩
  | .firstMember, .text key => some ⟨r.stack, .colon [] key⟩
  | .key members, .text key => some ⟨r.stack, .colon members key⟩
  | .colon members key, .colon => some ⟨.object members key :: r.stack, .value⟩
  | .done v, t => endValue v r.stack t
  | _, _ => none

/-- Takes tokens one by one. -/
def run (r : JsonReader) (ts : List JsonToken) : Option JsonReader := ts.foldlM step r

end JsonReader

/-- The value that a text is: one value, and nothing open at the end. -/
def JsonValue.read? (text : String) : Option JsonValue :=
  match (JsonToken.tokens? text.toList).bind (JsonReader.run ⟨[], .value⟩) with
  | some ⟨[], .done v⟩ => some v
  | _ => none

end SchemaHints
