/-
JSON texts. A value keeps the members of an object in the order in which they are written, and may
repeat a key, as a text may. A text is compact, without any white space between its parts, or
indented by two spaces for each level.
-/

namespace SchemaHints

/-- A JSON value, of the kinds that are written here. -/
inductive Json
  | null
  | text (s : String)
  | list (items : List Json)
  | object (members : List (String × Json))

namespace Json

/-! ## Strings -/

/-- The last hexadecimal digit of a number. -/
def hexDigit (n : Nat) : Char :=
  if n % 16 < 10 then Char.ofNat (0x30 + n % 16) else Char.ofNat (0x57 + n % 16)

/-- A character as it is written inside a string: quotes, backslashes and control characters are
escaped, and all others stand for themselves. -/
def escape (c : Char) : List Char :=
  if c = '"' then ['\\', '"']
  else if c = '\\' then ['\\', '\\']
  else if c = '\x08' then ['\\', 'b']
  else if c = '\x0c' then ['\\', 'f']
  else if c = '\n' then ['\\', 'n']
  else if c = '\r' then ['\\', 'r']
  else if c = '\t' then ['\\', 't']
  else if c.toNat < 0x20 then ['\\', 'u', '0', '0', hexDigit (c.toNat / 16), hexDigit c.toNat]
  else [c]

/-- A string as it is written. -/
def quoted (s : String) : List Char := '"' :: s.toList.flatMap escape ++ ['"']

/-! ## Compact texts -/

mutual

/-- The characters of a value, without white space. -/
def compactChars : Json → List Char
  | null => ['n', 'u', 'l', 'l']
  | text s => quoted s
  | list items => '[' :: compactItems items ++ [']']
  | object members => '\x7b' :: compactMembers members ++ ['\x7d']

/-- The items of a list, with commas between them. -/
def compactItems : List Json → List Char
  | [] => []
  | [v] => compactChars v
  | v :: vs => compactChars v ++ ',' :: compactItems vs

/-- The members of an object, with commas between them. -/
def compactMembers : List (String × Json) → List Char
  | [] => []
  | [(k, v)] => quoted k ++ ':' :: compactChars v
  | (k, v) :: ms => quoted k ++ ':' :: compactChars v ++ ',' :: compactMembers ms

end

/-- The compact text of a value. -/
def compact (v : Json) : String := String.ofList v.compactChars

/-! ## Indented texts -/

/-- A new line at a level. -/
def newLine (level : Nat) : List Char := '\n' :: List.replicate (2 * level) ' '

mutual

/-- The characters of a value that starts at a level; an empty list or object has nothing inside. -/
def indentedChars (level : Nat) : Json → List Char
  | null => ['n', 'u', 'l', 'l']
  | text s => quoted s
  | list [] => ['[', ']']
  | list (v :: vs) => '[' :: indentedItems (level + 1) (v :: vs) ++ newLine level ++ [']']
  | object [] => ['\x7b', '\x7d']
  | object (m :: ms) => '\x7b' :: indentedMembers (level + 1) (m :: ms) ++ newLine level ++ ['\x7d']

/-- The items of a list, each on a line of its own. -/
def indentedItems (level : Nat) : List Json → List Char
  | [] => []
  | [v] => newLine level ++ indentedChars level v
  | v :: vs => newLine level ++ indentedChars level v ++ ',' :: indentedItems level vs

/-- The members of an object, each on a line of its own. -/
def indentedMembers (level : Nat) : List (String × Json) → List Char
  | [] => []
  | [(k, v)] => newLine level ++ quoted k ++ ':' :: ' ' :: indentedChars level v
  | (k, v) :: ms =>
    newLine level ++ quoted k ++ ':' :: ' ' :: indentedChars level v ++ ',' :: indentedMembers level ms

end

/-- The indented text of a value. -/
def indented (v : Json) : String := String.ofList (v.indentedChars 0)

end Json

end SchemaHints
