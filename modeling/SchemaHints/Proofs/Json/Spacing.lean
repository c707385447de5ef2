/-
White space in JSON texts. The indented text of a value is its compact text with white space between the
tokens: when what stands outside of strings is deleted, the compact text is left, and what stands inside of
them is never touched. Whether a character stands inside of a string is told by the quotes before it, a quote
after a backslash not counting as one.

Both writers go through a value in the same way, so each piece of the indented text is compared with the piece
of the compact text for the same part of the value. Every piece begins and ends outside of strings, so pieces
can be put together.
-/
import SchemaHints.Hint
import SchemaHints.Proofs.Json.Reader
import SchemaHints.Text.Blank

namespace SchemaHints

namespace Json

/-! ## Deleting white space -/

/-- Where a character of a text stands: outside of strings, inside of one, or inside and after a backslash. -/
inductive Place
  | outside
  | inside
  | escaped
  deriving DecidableEq

/-- Where the character after `c` stands. -/
def Place.next : Place → Char → Place
  | outside, c => if c = '"' then inside else outside
  | inside, c => if c = '"' then outside else if c = '\\' then escaped else inside
  | escaped, _ => inside

/-- The characters from a place on, without those outside of strings that are `blank`. -/
def unspacedFrom (blank : Char → Bool) (p : Place) : List Char → List Char
  | [] => []
  | c :: cs =>
    if p = .outside ∧ blank c = true then unspacedFrom blank (p.next c) cs
    else c :: unspacedFrom blank (p.next c) cs

/-- A text without the blank characters that stand outside of strings. -/
def unspaced (blank : Char → Bool) (text : String) : String :=
  String.ofList (unspacedFrom blank .outside text.toList)

/-- The characters that texts have outside of strings, apart from white space. -/
def signs : List Char := ['\x7b', '\x7d', '[', ']', ',', ':', 'n', 'u', 'l']

/-- A notion of white space to which a new line and a space belong, and nothing of which tokens are made. -/
structure Separates (blank : Char → Bool) : Prop where
  newLine : blank '\n' = true
  space : blank ' ' = true
  quote : blank '"' = false
  signs : signs.any blank = false

theorem separates_isSpace : Separates JsonToken.isSpace := ⟨rfl, rfl, rfl, rfl⟩

theorem separates_isBlank : Separates Text.isBlank := ⟨by decide, by decide, by decide, by decide⟩

/-! ## Pieces of texts -/

/-- `ds` is left of `cs`, which begins and ends outside of strings. -/
def Leaves (blank : Char → Bool) (cs ds : List Char) : Prop :=
  ∀ rest, unspacedFrom blank .outside (cs ++ rest) = ds ++ unspacedFrom blank .outside rest

section Pieces

variable {blank : Char → Bool} {cs cs' ds ds' : List Char}

theorem Leaves.nil : Leaves blank [] [] := fun _ => rfl

theorem Leaves.append (h : Leaves blank cs ds) (h' : Leaves blank cs' ds') :
    Leaves blank (cs ++ cs') (ds ++ ds') := by
  intro rest
  rw [List.append_assoc, h, h', List.append_assoc]

theorem Leaves.cons {c : Char} (h : Leaves blank [c] [c]) (h' : Leaves blank cs ds) :
    Leaves blank (c :: cs) (c :: ds) := h.append h'

/-- White space goes. -/
theorem leaves_blank (h : ∀ c ∈ cs, blank c = true ∧ c ≠ '"') : Leaves blank cs [] := by
  intro rest
  induction cs with
  | nil => rfl
  | cons c cs ih =>
    obtain ⟨hc, hquote⟩ := h c (List.mem_cons_self ..)
    have hcs := ih fun c' hc' => h c' (List.mem_cons_of_mem _ hc')
    simpa [unspacedFrom, Place.next, hc, hquote] using hcs

/-! ### Strings -/

/-- Inside of a string everything stays. -/
theorem unspacedFrom_inside (c : Char) (cs : List Char) :
    unspacedFrom blank .inside (c :: cs) = c :: unspacedFrom blank (Place.inside.next c) cs := by
  simp [unspacedFrom]

theorem unspacedFrom_escaped (c : Char) (cs : List Char) :
    unspacedFrom blank .escaped (c :: cs) = c :: unspacedFrom blank .inside cs := by
  simp [unspacedFrom, Place.next]

theorem next_hexDigit (n : Nat) : Place.inside.next (hexDigit n) = .inside := by
  have hall : ∀ m < 16, Place.inside.next (if m < 10 then Char.ofNat (0x30 + m) else Char.ofNat (0x57 + m)) =
      .inside := by decide
  exact hall (n % 16) (Nat.mod_lt n (by decide))

/-- A character as it is written in a string stays, and does not end the string. -/
theorem unspacedFrom_escape (c : Char) (rest : List Char) :
    unspacedFrom blank .inside (escape c ++ rest) = escape c ++ unspacedFrom blank .inside rest := by
  have hbackslash (d : Char) : unspacedFrom blank .inside ('\\' :: d :: rest) =
      '\\' :: d :: unspacedFrom blank .inside rest := by
    rw [unspacedFrom_inside]
    exact congrArg _ (unspacedFrom_escaped d rest)
  by_cases hspecial : c = '"' ∨ c = '\\' ∨ c = '\x08' ∨ c = '\x0c' ∨ c = '\n' ∨ c = '\r' ∨ c = '\t'
  · rcases hspecial with rfl | rfl | rfl | rfl | rfl | rfl | rfl
    all_goals exact hbackslash _
  · simp only [not_or] at hspecial
    obtain ⟨hquote, hslash, hb, hf, hn, hr, ht⟩ := hspecial
    simp only [escape, hquote, hslash, hb, hf, hn, hr, ht, if_false]
    split
    · have hdigits : unspacedFrom blank .inside
          ('0' :: '0' :: hexDigit (c.toNat / 16) :: hexDigit c.toNat :: rest) =
          '0' :: '0' :: hexDigit (c.toNat / 16) :: hexDigit c.toNat :: unspacedFrom blank .inside rest := by
        have hzero : Place.inside.next '0' = .inside := rfl
        simp only [unspacedFrom_inside, hzero, next_hexDigit]
      simp only [List.cons_append, List.nil_append]
      rw [unspacedFrom_inside]
      exact congrArg _ ((unspacedFrom_escaped 'u' _).trans (congrArg _ hdigits))
    · have hnext : Place.inside.next c = .inside := by simp [Place.next, hquote, hslash]
      rw [List.singleton_append, unspacedFrom_inside, hnext]
      rfl

/-- A string stays as it is written, whatever it holds. -/
theorem leaves_quoted (hblank : Separates blank) (s : String) : Leaves blank (quoted s) (quoted s) := by
  intro rest
  have hbody : ∀ cs : List Char, unspacedFrom blank .inside (cs.flatMap escape ++ '"' :: rest) =
      cs.flatMap escape ++ '"' :: unspacedFrom blank .outside rest := by
    intro cs
    induction cs with
    | nil => exact unspacedFrom_inside '"' rest
    | cons c cs ih => rw [List.flatMap_cons, List.append_assoc, unspacedFrom_escape, ih, List.append_assoc]
  simp [quoted, unspacedFrom, hblank.quote, Place.next, hbody]

end Pieces

/-! ## Values -/

section Values

variable {blank : Char → Bool} (hblank : Separates blank)

include hblank

theorem leaves_newLine (level : Nat) : Leaves blank (newLine level) [] := by
  refine leaves_blank fun c hc => ?_
  rcases List.mem_cons.1 hc with rfl | hc
  · exact ⟨hblank.newLine, by decide⟩
  · rw [List.eq_of_mem_replicate hc]
    exact ⟨hblank.space, by decide⟩

theorem leaves_sign (c : Char) (hc : c ∈ signs := by decide) : Leaves blank [c] [c] := by
  have hquote : c ≠ '"' := by
    rintro rfl
    exact absurd hc (by decide)
  have hsign : blank c = false := Bool.eq_false_iff.2 (List.any_eq_false.1 hblank.signs c hc)
  intro rest
  simp [unspacedFrom, Place.next, hsign, hquote]

theorem leaves_null : Leaves blank ['n', 'u', 'l', 'l'] ['n', 'u', 'l', 'l'] :=
  (leaves_sign hblank 'n').cons ((leaves_sign hblank 'u').cons
    ((leaves_sign hblank 'l').cons (leaves_sign hblank 'l')))

/-- Between a key and its value there is a colon, and a space if the text is indented. -/
theorem leaves_member {cs ds : List Char} (k : String) (h : Leaves blank cs ds) :
    Leaves blank (quoted k ++ ':' :: ' ' :: cs) (quoted k ++ ':' :: ds) := by
  have hspace : Leaves blank [' '] [] := leaves_blank fun c hc => by
    rw [List.mem_singleton.1 hc]
    exact ⟨hblank.space, by decide⟩
  exact (leaves_quoted hblank k).append ((leaves_sign hblank ':').cons (hspace.append h))

mutual

/-- The compact text of a value is left of its indented text, at whatever level. -/
theorem leaves_indentedChars (level : Nat) : (v : Json) → Leaves blank (indentedChars level v) v.compactChars
  | null => leaves_null hblank
  | text s => leaves_quoted hblank s
  | list [] => (leaves_sign hblank '[').cons (leaves_sign hblank ']')
  | list (v :: vs) => by
    have hitems := (leaves_indentedItems (level + 1) (v :: vs)).append (leaves_newLine hblank level)
    rw [List.append_nil] at hitems
    exact ((leaves_sign hblank '[').cons hitems).append (leaves_sign hblank ']')
  | object [] => (leaves_sign hblank '\x7b').cons (leaves_sign hblank '\x7d')
  | object (m :: ms) => by
    have hmembers := (leaves_indentedMembers (level + 1) (m :: ms)).append (leaves_newLine hblank level)
    rw [List.append_nil] at hmembers
    exact ((leaves_sign hblank '\x7b').cons hmembers).append (leaves_sign hblank '\x7d')

theorem leaves_indentedItems (level : Nat) :
    (vs : List Json) → Leaves blank (indentedItems level vs) (compactItems vs)
  | [] => Leaves.nil
  | [v] => (leaves_newLine hblank level).append (leaves_indentedChars level v)
  | v :: w :: vs =>
    ((leaves_newLine hblank level).append (leaves_indentedChars level v)).append
      ((leaves_sign hblank ',').cons (leaves_indentedItems level (w :: vs)))

theorem leaves_indentedMembers (level : Nat) :
    (ms : List (String × Json)) → Leaves blank (indentedMembers level ms) (compactMembers ms)
  | [] => Leaves.nil
  | [(k, v)] => by
    have hmember := (leaves_newLine hblank level).append (leaves_member hblank k (leaves_indentedChars level v))
    rwa [← List.append_assoc] at hmember
  | (k, v) :: m :: ms => by
    have hmember := (leaves_newLine hblank level).append (leaves_member hblank k (leaves_indentedChars level v))
    rw [← List.append_assoc] at hmember
    exact hmember.append ((leaves_sign hblank ',').cons (leaves_indentedMembers level (m :: ms)))

end

/-- Without the white space outside of strings, the indented text of a value is the compact one. -/
theorem unspaced_indented (v : Json) : unspaced blank v.indented = v.compact := by
  have hleaves := leaves_indentedChars hblank 0 v []
  rw [List.append_nil, unspacedFrom, List.append_nil] at hleaves
  rw [unspaced, indented, String.toList_ofList, hleaves, compact]

end Values

end Json

/-! ## Hints -/

/-- The indented text of a shape graph is its compact text, apart from white space outside of strings: be it
what JSON allows between tokens, or whatever is white space to Unicode. -/
theorem ShapeGraph.unspaced_hintText (graph : ShapeGraph) :
    Json.unspaced JsonToken.isSpace (graph.hintText true) = graph.hintText false ∧
      Json.unspaced Text.isBlank (graph.hintText true) = graph.hintText false :=
  ⟨Json.unspaced_indented Json.separates_isSpace _, Json.unspaced_indented Json.separates_isBlank _⟩

/-- A string keeps its spaces, and what looks like an end of it. -/
example : Json.unspaced Text.isBlank (Json.object [(" a\"", .list [.text "\\", .null])]).indented =
    "\x7b\" a\\\"\":[\"\\\\\",null]\x7d" := by decide +kernel

end SchemaHints
