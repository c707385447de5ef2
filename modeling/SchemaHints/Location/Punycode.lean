/-
Punycode: a text of any characters written in ASCII. The ASCII characters come first; behind the last
hyphen, numbers in base 36 say where the other characters go in and which they are, in increasing
order of their code points. Numbers have no fixed length: a digit below a threshold ends one, and the
thresholds follow the size of the numbers read before.
-/
namespace SchemaHints.Location.Punycode

/-- The value of a digit. -/
def digit? (c : Char) : Option Nat :=
  if 'a' ≤ c && c ≤ 'z' then some (c.toNat - 'a'.toNat)
  else if '0' ≤ c && c ≤ '9' then some (c.toNat - '0'.toNat + 26)
  else none

/-- The least value of a digit at a place, counted in steps of 36, that is not the last of its number. -/
def threshold (place bias : Nat) : Nat := min 26 (max 1 (place - bias))

/-- Divides a difference until it is small, and counts the steps. -/
def reduce (difference steps : Nat) : Nat × Nat :=
  if 455 < difference then reduce (difference / 35) (steps + 36) else (difference, steps)
termination_by difference

/-- The bias after a difference, for a text of so many characters. -/
def adapted (difference count : Nat) (isFirst : Bool) : Nat :=
  let scaled := difference / (if isFirst then 700 else 2)
  let (difference, steps) := reduce (scaled + scaled / count) 0
  steps + 36 * difference / (difference + 38)

/-- What numbers in an encoded text stay below. -/
def numberLimit : Nat := 4294967296

/-- Reads a number and adds it to `start`; also gives what follows. -/
def readNumber? (bias place weight start : Nat) : List Char → Option (Nat × List Char)
  | [] => none
  | c :: rest => do
    let digit ← digit? c
    let sum := start + digit * weight
    let threshold := threshold place bias
    if numberLimit ≤ sum then none
    else if digit < threshold then some (sum, rest)
    else if numberLimit ≤ weight * (36 - threshold) then none
    else readNumber? bias (place + 36) (weight * (36 - threshold)) sum rest

theorem readNumber?_length {bias place weight start : Nat} {cs : List Char} {sum : Nat} {rest : List Char}
    (h : readNumber? bias place weight start cs = some (sum, rest)) : rest.length < cs.length := by
  induction cs generalizing place weight start with
  | nil => cases h
  | cons c cs ih =>
    simp only [readNumber?, Option.bind_eq_bind, Option.bind_eq_some_iff] at h
    obtain ⟨digit, -, h⟩ := h
    split at h
    · cases h
    split at h
    · cases h
      exact Nat.lt_succ_self _
    split at h
    · cases h
    · exact Nat.lt_succ_of_lt (ih h)

/-- Puts in the characters that a text of numbers describes. Each number is the distance to the next
place, counted over all places of all characters from `point` and `place` on. -/
def insertAll? (bias point place : Nat) (decoded : List Char) (cs : List Char) : Option (List Char) :=
  if cs.isEmpty then some decoded
  else
    match _h : readNumber? bias 36 1 place cs with
    | none => none
    | some (sum, rest) =>
      let count := decoded.length + 1
      let point := point + sum / count
      if point.isValidChar then
        insertAll? (adapted (sum - place) count (place = 0)) point (sum % count + 1)
          (decoded.insertIdx (sum % count) (Char.ofNat point)) rest
      else none
termination_by cs.length
decreasing_by exact readNumber?_length _h

/-- The text that an encoded text stands for. -/
def decode? (cs : List Char) : Option (List Char) :=
  let code := (cs.reverse.takeWhile (· ≠ '-')).reverse
  let basic := cs.take (cs.length - code.length - 1)
  insertAll? 72 128 0 basic (if basic.isEmpty then cs else code)

end SchemaHints.Location.Punycode
