/-
Written values read back. The characters of a value, compact or indented, are cut into the tokens of the
value whatever follows them, since every character of a string is escaped where it has to be and white space
stands between tokens only; and the tokens of a value are read as the value. So both texts of a value
determine it.
-/
import SchemaHints.Proofs.Json.Reader

namespace SchemaHints

namespace JsonToken

open Xml.Reference (hexDigit?)

/-! ## Characters that spell tokens -/

/-- Characters that are read as these tokens whatever follows. -/
def Spells (cs : List Char) (ts : List JsonToken) : Prop :=
  ∀ rest, tokens? (cs ++ rest) = (tokens? rest).map (ts ++ ·)

theorem Spells.nil : Spells [] [] := by
  intro rest
  simp

theorem Spells.append {cs cs' : List Char} {ts ts' : List JsonToken} (h : Spells cs ts) (h' : Spells cs' ts') :
    Spells (cs ++ cs') (ts ++ ts') := by
  intro rest
  rw [List.append_assoc, h, h', Option.map_map]
  simp only [Function.comp_def, List.append_assoc]

theorem Spells.cons {c : Char} {cs : List Char} {ts ts' : List JsonToken} (h : Spells [c] ts) (h' : Spells cs ts') :
    Spells (c :: cs) (ts ++ ts') := h.append h'

theorem Spells.append_space {cs cs' : List Char} {ts : List JsonToken} (h : Spells cs ts) (h' : Spells cs' []) :
    Spells (cs ++ cs') ts := by
  have happend := h.append h'
  rw [List.append_nil] at happend
  exact happend

theorem tokens?_nil : tokens? [] = some [] := by
  unfold tokens?
  rfl

theorem tokens?_of_spells {cs : List Char} {ts : List JsonToken} (h : Spells cs ts) : tokens? cs = some ts := by
  have hcs := h []
  rw [List.append_nil, tokens?_nil] at hcs
  rw [hcs, Option.map_some, List.append_nil]

theorem spells_of_isSpace {cs : List Char} (h : ∀ c ∈ cs, isSpace c = true) : Spells cs [] := by
  induction cs with
  | nil => exact Spells.nil
  | cons c cs ih =>
    intro rest
    have hc : isSpace c = true := h c (List.mem_cons_self ..)
    rw [List.cons_append, tokens?, if_pos hc]
    exact ih (fun c' hc' => h c' (List.mem_cons_of_mem _ hc')) rest

theorem spells_of_next? {c : Char} {cs : List Char} {t : JsonToken} (hc : isSpace c = false)
    (h : ∀ rest, next? c (cs ++ rest) = some (t, rest)) : Spells (c :: cs) [t] := by
  intro rest
  rw [List.cons_append, tokens?, if_neg (by rw [hc]; exact Bool.false_ne_true)]
  split
  · rename_i hnone
    rw [h] at hnone
    cases hnone
  · rename_i hsome
    rw [h] at hsome
    cases hsome
    rfl

theorem spells_openList : Spells ['['] [openList] := spells_of_next? rfl fun _ => rfl

theorem spells_closeList : Spells [']'] [closeList] := spells_of_next? rfl fun _ => rfl

theorem spells_openObject : Spells ['\x7b'] [openObject] := spells_of_next? rfl fun _ => rfl

theorem spells_closeObject : Spells ['\x7d'] [closeObject] := spells_of_next? rfl fun _ => rfl

theorem spells_comma : Spells [','] [comma] := spells_of_next? rfl fun _ => rfl

theorem spells_colon : Spells [':'] [colon] := spells_of_next? rfl fun _ => rfl

theorem spells_null : Spells ['n', 'u', 'l', 'l'] [null] := spells_of_next? rfl fun _ => rfl

/-! ## Strings -/

theorem hexDigit?_hexDigit (n : Nat) : hexDigit? (Json.hexDigit n) = some (n % 16) := by
  have hall : ∀ m < 16,
      hexDigit? (if m < 10 then Char.ofNat (0x30 + m) else Char.ofNat (0x57 + m)) = some m := by decide
  exact hall (n % 16) (Nat.mod_lt n (by decide))

theorem string?_of_escaped? {d : Char} {cs after : List Char} (h : escaped? cs = some (d, after)) :
    string? ('\\' :: cs) = (string? after).map fun s => (d :: s.1, s.2) := by
  rw [string?, if_neg (by decide), if_pos rfl]
  split
  · rename_i hnone
    rw [h] at hnone
    cases hnone
  · rename_i hsome
    rw [h] at hsome
    cases hsome
    rfl

/-- A control character is read back from its number. -/
theorem escaped?_control {c : Char} (hc : c.toNat < 0x20) (rest : List Char) :
    escaped? ('u' :: '0' :: '0' :: Json.hexDigit (c.toNat / 16) :: Json.hexDigit c.toNat :: rest) = some (c, rest) := by
  have hzero : hexDigit? '0' = some 0 := rfl
  have hunit : unit? ('0' :: '0' :: Json.hexDigit (c.toNat / 16) :: Json.hexDigit c.toNat :: rest) =
      some (c.toNat, rest) := by
    simp only [unit?, hzero, hexDigit?_hexDigit, Option.bind_eq_bind, Option.bind_some, Option.some.injEq,
      Prod.mk.injEq, and_true]
    omega
  have hhigh : isHighSurrogate c.toNat = false := by
    simp only [isHighSurrogate, Bool.and_eq_false_iff, decide_eq_false_iff_not]
    omega
  have hlow : isLowSurrogate c.toNat = false := by
    simp only [isLowSurrogate, Bool.and_eq_false_iff, decide_eq_false_iff_not]
    omega
  show escapedUnit? _ = _
  simp only [escapedUnit?, hunit, hhigh, hlow, Bool.false_eq_true, if_false, Char.ofNat_toNat]

theorem string?_escape (c : Char) (rest : List Char) :
    string? (Json.escape c ++ rest) = (string? rest).map fun s => (c :: s.1, s.2) := by
  by_cases hspecial : c = '"' ∨ c = '\\' ∨ c = '\x08' ∨ c = '\x0c' ∨ c = '\n' ∨ c = '\r' ∨ c = '\t'
  · rcases hspecial with rfl | rfl | rfl | rfl | rfl | rfl | rfl
    all_goals exact string?_of_escaped? rfl
  · simp only [not_or] at hspecial
    obtain ⟨hquote, hbackslash, hb, hf, hn, hr, ht⟩ := hspecial
    by_cases hcontrol : c.toNat < 0x20
    · simp only [Json.escape, hquote, hbackslash, hb, hf, hn, hr, ht, hcontrol, if_true, if_false]
      exact string?_of_escaped? (escaped?_control hcontrol rest)
    · simp only [Json.escape, hquote, hbackslash, hb, hf, hn, hr, ht, hcontrol, if_false]
      rw [List.singleton_append, string?, if_neg hquote, if_neg hbackslash, if_neg hcontrol]

theorem string?_flatMap_escape (s rest : List Char) :
    string? (s.flatMap Json.escape ++ '"' :: rest) = some (s, rest) := by
  induction s with
  | nil =>
    rw [List.flatMap_nil, List.nil_append, string?, if_pos rfl]
  | cons c s ih =>
    rw [List.flatMap_cons, List.append_assoc, string?_escape, ih, Option.map_some]

theorem spells_quoted (s : String) : Spells (Json.quoted s) [text s] := by
  refine spells_of_next? rfl fun rest => ?_
  have hbody : string? (s.toList.flatMap Json.escape ++ ['"'] ++ rest) = some (s.toList, rest) := by
    rw [List.append_assoc, List.singleton_append, string?_flatMap_escape]
  show (string? (s.toList.flatMap Json.escape ++ ['"'] ++ rest)).map _ = _
  rw [hbody, Option.map_some, String.ofList_toList]

end JsonToken

namespace Json

open JsonToken (Spells spells_openList spells_closeList spells_openObject spells_closeObject spells_comma
  spells_colon spells_null spells_quoted spells_of_isSpace)

/-! ## The tokens of a value -/

mutual

/-- The tokens of a value. -/
def tokens : Json → List JsonToken
  | null => [.null]
  | text s => [.text s]
  | list items => .openList :: itemTokens items ++ [.closeList]
  | object members => .openObject :: memberTokens members ++ [.closeObject]

/-- The tokens of the items of a list. -/
def itemTokens : List Json → List JsonToken
  | [] => []
  | [v] => tokens v
  | v :: vs => tokens v ++ .comma :: itemTokens vs

/-- The tokens of the members of an object. -/
def memberTokens : List (String × Json) → List JsonToken
  | [] => []
  | [(k, v)] => .text k :: .colon :: tokens v
  | (k, v) :: ms => .text k :: .colon :: tokens v ++ .comma :: memberTokens ms

end

theorem itemTokens_cons_cons (v w : Json) (vs : List Json) :
    itemTokens (v :: w :: vs) = v.tokens ++ .comma :: itemTokens (w :: vs) := rfl

mutual

theorem spells_compactChars : (v : Json) → Spells v.compactChars v.tokens
  | null => spells_null
  | text s => spells_quoted s
  | list items => (spells_openList.cons (spells_compactItems items)).append spells_closeList
  | object members => (spells_openObject.cons (spells_compactMembers members)).append spells_closeObject

theorem spells_compactItems : (items : List Json) → Spells (compactItems items) (itemTokens items)
  | [] => Spells.nil
  | [v] => spells_compactChars v
  | v :: w :: vs => (spells_compactChars v).append (spells_comma.cons (spells_compactItems (w :: vs)))

theorem spells_compactMembers :
    (members : List (String × Json)) → Spells (compactMembers members) (memberTokens members)
  | [] => Spells.nil
  | [(k, v)] => (spells_quoted k).append (spells_colon.cons (spells_compactChars v))
  | (k, v) :: m :: ms =>
    ((spells_quoted k).append (spells_colon.cons (spells_compactChars v))).append
      (spells_comma.cons (spells_compactMembers (m :: ms)))

end

theorem spells_newLine (level : Nat) : Spells (newLine level) [] := by
  refine spells_of_isSpace fun c hc => ?_
  rcases List.mem_cons.1 hc with rfl | hc
  · rfl
  · rw [List.eq_of_mem_replicate hc]
    rfl

theorem spells_blank : Spells [' '] [] := by
  refine spells_of_isSpace fun c hc => ?_
  rw [List.mem_singleton.1 hc]
  rfl

mutual

theorem spells_indentedChars (level : Nat) : (v : Json) → Spells (indentedChars level v) v.tokens
  | null => spells_null
  | text s => spells_quoted s
  | list [] => spells_openList.cons spells_closeList
  | list (v :: vs) =>
    ((spells_openList.cons (spells_indentedItems (level + 1) (v :: vs))).append_space (spells_newLine level)).append
      spells_closeList
  | object [] => spells_openObject.cons spells_closeObject
  | object (m :: ms) =>
    ((spells_openObject.cons (spells_indentedMembers (level + 1) (m :: ms))).append_space (spells_newLine level)).append
      spells_closeObject

theorem spells_indentedItems (level : Nat) :
    (items : List Json) → Spells (indentedItems level items) (itemTokens items)
  | [] => Spells.nil
  | [v] => (spells_newLine level).append (spells_indentedChars level v)
  | v :: w :: vs =>
    ((spells_newLine level).append (spells_indentedChars level v)).append
      (spells_comma.cons (spells_indentedItems level (w :: vs)))

theorem spells_indentedMembers (level : Nat) :
    (members : List (String × Json)) → Spells (indentedMembers level members) (memberTokens members)
  | [] => Spells.nil
  | [(k, v)] =>
    ((spells_newLine level).append (spells_quoted k)).append
      (spells_colon.cons (spells_blank.cons (spells_indentedChars level v)))
  | (k, v) :: m :: ms =>
    (((spells_newLine level).append (spells_quoted k)).append
      (spells_colon.cons (spells_blank.cons (spells_indentedChars level v)))).append
      (spells_comma.cons (spells_indentedMembers level (m :: ms)))

end

/-! ## The tokens read -/

mutual

/-- A value as it is read. -/
def value : Json → JsonValue
  | null => .null
  | text s => .text s
  | list items => .list (itemValues items)
  | object members => .object (memberValues members)

/-- The items of a list as they are read. -/
def itemValues : List Json → List JsonValue
  | [] => []
  | v :: vs => value v :: itemValues vs

/-- The members of an object as they are read. -/
def memberValues : List (String × Json) → List (String × JsonValue)
  | [] => []
  | (k, v) :: ms => (k, value v) :: memberValues ms

end

theorem itemValues_eq_map (items : List Json) : itemValues items = items.map value := by
  induction items with
  | nil => rfl
  | cons v vs ih => rw [itemValues, ih, List.map_cons]

theorem memberValues_eq_map (members : List (String × Json)) :
    memberValues members = members.map fun m => (m.1, m.2.value) := by
  induction members with
  | nil => rfl
  | cons m ms ih => rw [memberValues, ih, List.map_cons]

open JsonReader (run)

theorem run_append (r : JsonReader) (ts us : List JsonToken) :
    run r (ts ++ us) = (run r ts).bind fun r' => run r' us := List.foldlM_append

/-- The first item of a list is read as the items after it are, since no value begins with a bracket that
closes a list. -/
theorem run_firstItem (v : Json) (stack : List JsonFrame) (ts : List JsonToken) :
    run ⟨stack, .firstItem⟩ (v.tokens ++ ts) = run ⟨.list [] :: stack, .value⟩ (v.tokens ++ ts) := by
  cases v <;> rfl

mutual

theorem run_tokens : (v : Json) → (stack : List JsonFrame) →
    run ⟨stack, .value⟩ v.tokens = some ⟨stack, .done v.value⟩
  | null, _ => rfl
  | text _, _ => rfl
  | list [], _ => rfl
  | list [v], stack => (run_firstItem v stack [.closeList]).trans (run_items [v] [] stack (by simp))
  | list (v :: w :: vs), stack => by
    have hitems := run_items (v :: w :: vs) [] stack (by simp)
    have hfirst := run_firstItem v stack (.comma :: itemTokens (w :: vs) ++ [.closeList])
    show run ⟨stack, .firstItem⟩ (v.tokens ++ .comma :: itemTokens (w :: vs) ++ [.closeList]) = _
    rw [List.append_assoc]
    rw [itemTokens_cons_cons, List.append_assoc] at hitems
    exact hfirst.trans hitems
  | object [], _ => rfl
  | object [m], stack => run_members [m] [] stack (by simp)
  | object (m :: m' :: ms), stack => run_members (m :: m' :: ms) [] stack (by simp)

/-- The items before those to come are kept. -/
theorem run_items : (vs : List Json) → (items : List JsonValue) → (stack : List JsonFrame) → vs ≠ [] →
    run ⟨.list items :: stack, .value⟩ (itemTokens vs ++ [.closeList]) =
      some ⟨stack, .done (.list (items ++ itemValues vs))⟩
  | [], _, _, h => absurd rfl h
  | [v], items, stack, _ => by
    rw [itemTokens, run_append, run_tokens v]
    rfl
  | v :: w :: vs, items, stack, _ => by
    have hrest := run_items (w :: vs) (items ++ [v.value]) stack (by simp)
    rw [List.append_assoc] at hrest
    rw [itemTokens_cons_cons, List.append_assoc, run_append, run_tokens v]
    exact hrest

theorem run_members : (ms : List (String × Json)) → (members : List (String × JsonValue)) →
    (stack : List JsonFrame) → ms ≠ [] → run ⟨stack, .key members⟩ (memberTokens ms ++ [.closeObject]) =
      some ⟨stack, .done (.object (members ++ memberValues ms))⟩
  | [], _, _, h => absurd rfl h
  | [(k, v)], members, stack, _ => by
    show run ⟨.object members k :: stack, .value⟩ (v.tokens ++ [.closeObject]) = _
    rw [run_append, run_tokens v]
    rfl
  | (k, v) :: m :: ms, members, stack, _ => by
    have hrest := run_members (m :: ms) (members ++ [(k, v.value)]) stack (by simp)
    rw [List.append_assoc] at hrest
    show run ⟨.object members k :: stack, .value⟩ (v.tokens ++ .comma :: memberTokens (m :: ms) ++ [.closeObject]) = _
    rw [List.append_assoc, run_append, run_tokens v]
    exact hrest

end

/-! ## Texts -/

theorem read?_of_spells {v : Json} {cs : List Char} (h : Spells cs v.tokens) :
    JsonValue.read? (String.ofList cs) = some v.value := by
  unfold JsonValue.read?
  rw [String.toList_ofList, JsonToken.tokens?_of_spells h, Option.bind_some, run_tokens]

/-- The compact text of a value is read as the value. -/
theorem read?_compact (v : Json) : JsonValue.read? v.compact = some v.value :=
  read?_of_spells (spells_compactChars v)

/-- The indented text of a value is read as the value. -/
theorem read?_indented (v : Json) : JsonValue.read? v.indented = some v.value :=
  read?_of_spells (spells_indentedChars 0 v)

mutual

theorem value_inj : (v w : Json) → v.value = w.value → v = w
  | null, null, _ => rfl
  | text _, text _, h => congrArg text (JsonValue.text.inj h)
  | list items, list items', h => congrArg list (itemValues_inj items items' (JsonValue.list.inj h))
  | object members, object members', h =>
    congrArg object (memberValues_inj members members' (JsonValue.object.inj h))

theorem itemValues_inj : (vs ws : List Json) → itemValues vs = itemValues ws → vs = ws
  | [], [], _ => rfl
  | v :: vs, w :: ws, h => by
    obtain ⟨hv, hvs⟩ := List.cons.inj h
    rw [value_inj v w hv, itemValues_inj vs ws hvs]

theorem memberValues_inj : (ms ns : List (String × Json)) → memberValues ms = memberValues ns → ms = ns
  | [], [], _ => rfl
  | (k, v) :: ms, (l, w) :: ns, h => by
    obtain ⟨hm, hms⟩ := List.cons.inj h
    obtain ⟨hk, hv⟩ := Prod.mk.inj hm
    rw [hk, value_inj v w hv, memberValues_inj ms ns hms]

end

end Json

end SchemaHints
