/-
What a list of attributes does to a table of attributes, told by the place of each use in the flat list. The last use
of a name decides whether the table has the name, and with which declaration. The place in the table is decided by
another use: the first that sets the name since it was last taken away, for to set a name that is there leaves
it in its place.

A flat list has one edit for each use, so the table after the list is the table after the edits, and what they
come to is shown for one edit after another.
-/
import SchemaHints.Proofs.Content.Flatten
import Mathlib.Order.Nat

namespace SchemaHints.Schema

variable {s : Schema}

/-! ## What edits come to -/

/-- The last edit of a name. -/
def lastEdit (n : Name) (es : List Edit) : Option Edit := (es.filter (·.name = n)).getLast?

/-- The names that edits remove. -/
def removals (es : List Edit) : List Name :=
  es.filterMap fun
    | .set _ => none
    | .remove n => some n

/-- A name is set at a place and not removed from there on. -/
def StaysFrom (es : List Edit) (n : Name) (i : Nat) : Prop :=
  (∃ declaration, es[i]? = some (.set declaration) ∧ declaration.name = n) ∧
    ∀ j, es[j]? = some (.remove n) → j < i

/-- A name is set at a place for the first time since it was last removed. -/
def FirstSet (es : List Edit) (n : Name) (i : Nat) : Prop :=
  StaysFrom es n i ∧ ∀ j, StaysFrom es n j → i ≤ j

/-- What `result` is when it comes from `table` by edits. -/
structure Edited (table : Keyed Name AttributeDecl) (es : List Edit) (result : Keyed Name AttributeDecl) :
    Prop where
  /-- The last edit of a name tells what stands under it. -/
  get? : ∀ n, result.get? n = match lastEdit n es with
    | none => table.get? n
    | some (.set declaration) => some declaration
    | some (.remove _) => none
  /-- A name that is set and not removed is there. -/
  present : ∀ n i, StaysFrom es n i → n ∈ result.keys
  /-- What was there before and was never removed comes first, then the names that came in, each at the
  place where it was first set since it was last removed. -/
  keys : ∃ later, result.keys = table.keys.filter (· ∉ removals es) ++ later ∧
    (∀ n ∈ later, ∃ i, FirstSet es n i) ∧
    later.Pairwise fun m n => ∃ i j, FirstSet es m i ∧ FirstSet es n j ∧ i < j

theorem lastEdit_concat (n : Name) (es : List Edit) (e : Edit) :
    lastEdit n (es ++ [e]) = if e.name = n then some e else lastEdit n es := by
  unfold lastEdit
  rw [List.filter_append]
  by_cases he : e.name = n
  · simp [he]
  · simp [he]

theorem removals_concat_set (es : List Edit) (declaration : AttributeDecl) :
    removals (es ++ [.set declaration]) = removals es := by
  simp [removals]

theorem removals_concat_remove (es : List Edit) (n : Name) :
    removals (es ++ [.remove n]) = removals es ++ [n] := by
  simp [removals]

theorem getElem?_concat_eq_some {α : Type} {as : List α} {a b : α} {i : Nat} :
    (as ++ [a])[i]? = some b ↔ as[i]? = some b ∨ i = as.length ∧ a = b := by
  rcases Nat.lt_trichotomy i as.length with hi | rfl | hi
  · rw [List.getElem?_append_left hi]
    simp [hi.ne]
  · simp
  · rw [List.getElem?_append_right hi.le, List.getElem?_eq_none hi.le]
    have hsub : i - as.length ≠ 0 := by omega
    simp [hsub, hi.ne']

section Concat

variable {es : List Edit} {e : Edit} {n : Name} {i : Nat}

theorem StaysFrom.lt (h : StaysFrom es n i) : i < es.length := by
  obtain ⟨⟨declaration, hset, -⟩, -⟩ := h
  exact (List.getElem?_eq_some_iff.1 hset).1

/-- One more edit ends the stay of a name that it removes, and begins that of a name that it sets. -/
theorem staysFrom_concat : StaysFrom (es ++ [e]) n i ↔ StaysFrom es n i ∧ e ≠ .remove n ∨
    i = es.length ∧ ∃ declaration, e = .set declaration ∧ declaration.name = n := by
  constructor
  · rintro ⟨⟨declaration, hset, hn⟩, hkept⟩
    rcases getElem?_concat_eq_some.1 hset with hset | ⟨rfl, he⟩
    · have hi : i < es.length := (List.getElem?_eq_some_iff.1 hset).1
      refine .inl ⟨⟨⟨declaration, hset, hn⟩, fun j hj => hkept j (getElem?_concat_eq_some.2 (.inl hj))⟩, fun he => ?_⟩
      have hlast : es.length < i := hkept es.length (getElem?_concat_eq_some.2 (.inr ⟨rfl, he⟩))
      omega
    · exact .inr ⟨rfl, declaration, he, hn⟩
  · rintro (⟨⟨⟨declaration, hset, hn⟩, hkept⟩, he⟩ | ⟨rfl, declaration, rfl, hn⟩)
    · refine ⟨⟨declaration, getElem?_concat_eq_some.2 (.inl hset), hn⟩, fun j hj => ?_⟩
      rcases getElem?_concat_eq_some.1 hj with hj | ⟨-, hj⟩
      · exact hkept j hj
      · exact absurd hj he
    · refine ⟨⟨declaration, List.getElem?_concat_length, hn⟩, fun j hj => ?_⟩
      rcases getElem?_concat_eq_some.1 hj with hj | ⟨-, hj⟩
      · exact (List.getElem?_eq_some_iff.1 hj).1
      · cases hj

/-- A name keeps its place as long as it is not removed. -/
theorem FirstSet.concat (h : FirstSet es n i) (he : e ≠ .remove n) : FirstSet (es ++ [e]) n i := by
  refine ⟨staysFrom_concat.2 (.inl ⟨h.1, he⟩), fun j hj => ?_⟩
  rcases staysFrom_concat.1 hj with ⟨hj, -⟩ | ⟨rfl, -⟩
  · exact h.2 j hj
  · exact h.1.lt.le

/-- A name that nowhere stays comes in with the next edit that sets it. -/
theorem firstSet_concat_length {declaration : AttributeDecl} (h : ∀ j, ¬ StaysFrom es declaration.name j) :
    FirstSet (es ++ [.set declaration]) declaration.name es.length := by
  refine ⟨staysFrom_concat.2 (.inr ⟨rfl, declaration, rfl, rfl⟩), fun j hj => ?_⟩
  rcases staysFrom_concat.1 hj with ⟨hj, -⟩ | ⟨rfl, -⟩
  · exact absurd hj (h j)
  · exact le_rfl

end Concat

namespace Edited

variable {table result : Keyed Name AttributeDecl} {es : List Edit}

theorem nothing (table : Keyed Name AttributeDecl) : Edited table [] table where
  get? _ := rfl
  present := by
    rintro n i ⟨⟨declaration, hset, -⟩, -⟩
    cases hset
  keys := by
    refine ⟨[], ?_, fun n hn => absurd hn List.not_mem_nil, .nil⟩
    rw [List.append_nil, List.filter_eq_self.2]
    exact fun n _ => by simp [removals]

theorem set (h : Edited table es result) (declaration : AttributeDecl) :
    Edited table (es ++ [.set declaration]) (result.insert declaration.name declaration) where
  get? := by
    intro n
    rw [Keyed.get?_insert, lastEdit_concat, h.get?]
    by_cases hn : n = declaration.name
    · simp [Edit.name, hn]
    · simp [Edit.name, hn, Ne.symm hn]
  present := by
    intro n i hi
    rw [Keyed.keys_insert, Keyed.mem_keys_insertNew]
    rcases staysFrom_concat.1 hi with ⟨hi, -⟩ | ⟨-, _, hset, rfl⟩
    · exact .inl (h.present n i hi)
    · cases hset
      exact .inr rfl
  keys := by
    obtain ⟨later, hkeys, hplaced, hordered⟩ := h.keys
    have hkept {n : Name} {i : Nat} (hi : FirstSet es n i) : FirstSet (es ++ [.set declaration]) n i :=
      hi.concat fun he => by cases he
    have hplaced' : ∀ n ∈ later, ∃ i, FirstSet (es ++ [.set declaration]) n i := by
      intro n hn
      obtain ⟨i, hi⟩ := hplaced n hn
      exact ⟨i, hkept hi⟩
    have hordered' : later.Pairwise fun m n => ∃ i j, FirstSet (es ++ [.set declaration]) m i ∧
        FirstSet (es ++ [.set declaration]) n j ∧ i < j := by
      refine hordered.imp ?_
      rintro m n ⟨i, j, hi, hj, hij⟩
      exact ⟨i, j, hkept hi, hkept hj, hij⟩
    rw [Keyed.keys_insert, Keyed.keys_insertNew, removals_concat_set]
    by_cases hd : declaration.name ∈ result.keys
    · rw [if_pos hd]
      exact ⟨later, hkeys, hplaced', hordered'⟩
    -- the name comes in at the end, and its place is that of the new edit, after all others
    · have hnew : FirstSet (es ++ [.set declaration]) declaration.name es.length :=
        firstSet_concat_length fun j hj => hd (h.present _ j hj)
      rw [if_neg hd, hkeys, List.append_assoc]
      refine ⟨later ++ [declaration.name], rfl, ?_, ?_⟩
      · intro n hn
        rcases List.mem_append.1 hn with hn | hn
        · exact hplaced' n hn
        · rw [List.mem_singleton.1 hn]
          exact ⟨_, hnew⟩
      · refine List.pairwise_append.2 ⟨hordered', List.pairwise_singleton .., fun m hm n hn => ?_⟩
        obtain ⟨i, hi⟩ := hplaced m hm
        rw [List.mem_singleton.1 hn]
        exact ⟨i, es.length, hkept hi, hnew, hi.1.lt⟩

theorem remove (h : Edited table es result) (n : Name) :
    Edited table (es ++ [.remove n]) (result.erase n) where
  get? := by
    intro m
    rw [Keyed.get?_erase, lastEdit_concat, h.get?]
    by_cases hm : m = n
    · simp [Edit.name, hm]
    · simp [Edit.name, hm, Ne.symm hm]
  present := by
    intro m i hi
    rcases staysFrom_concat.1 hi with ⟨hi, hm⟩ | ⟨-, _, hset, -⟩
    · rw [Keyed.keys_erase, List.mem_filter]
      exact ⟨h.present m i hi, by simpa using fun hmn => hm (by rw [hmn])⟩
    · cases hset
  keys := by
    obtain ⟨later, hkeys, hplaced, hordered⟩ := h.keys
    have hother {m : Name} (hm : m ∈ later.filter (· ≠ n)) : m ∈ later ∧ Edit.remove n ≠ .remove m := by
      obtain ⟨hm, hmn⟩ := List.mem_filter.1 hm
      exact ⟨hm, fun h => of_decide_eq_true hmn (Edit.remove.inj h).symm⟩
    refine ⟨later.filter (· ≠ n), ?_, ?_, ?_⟩
    · rw [Keyed.keys_erase, hkeys, List.filter_append, List.filter_filter, removals_concat_remove]
      congr 1
      refine List.filter_congr fun m _ => ?_
      simp [and_comm]
    · intro m hm
      obtain ⟨i, hi⟩ := hplaced m (hother hm).1
      exact ⟨i, hi.concat (hother hm).2⟩
    · refine (hordered.sublist List.filter_sublist).imp_of_mem ?_
      rintro m k hm hk ⟨i, j, hi, hj, hij⟩
      exact ⟨i, j, hi.concat (hother hm).2, hj.concat (hother hk).2, hij⟩

theorem step (h : Edited table es result) (e : Edit) : Edited table (es ++ [e]) (e.apply result) := by
  cases e with
  | set declaration => exact h.set declaration
  | remove n => exact h.remove n

theorem run (h : Edited table es result) (more : List Edit) :
    Edited table (es ++ more) (more.foldl Edit.apply result) := by
  induction more generalizing es result with
  | nil =>
    rw [List.append_nil]
    exact h
  | cons e more ih =>
    rw [← List.singleton_append, ← List.append_assoc]
    exact ih (h.step e)

/-- A name is there if its last edit sets it, or if it was there and is not edited. -/
theorem mem_keys_iff (h : Edited table es result) (n : Name) : n ∈ result.keys ↔
    (∃ declaration, lastEdit n es = some (.set declaration)) ∨ lastEdit n es = none ∧ n ∈ table.keys := by
  rw [Keyed.mem_keys_iff, h.get?, Keyed.mem_keys_iff]
  rcases lastEdit n es with _ | ⟨declaration⟩ | ⟨m⟩ <;> simp

end Edited

/-! ## Applying a list of attributes -/

/-- A list that is applied leaves the table after its edits. -/
theorem exists_edited {items : List AttributeItem} {table result : Keyed Name AttributeDecl}
    (h : s.applyAttributes items table = .ok result) :
    ∃ es, (s.flatten [] items).mapM s.edit? = some es ∧ Edited table es result := by
  obtain ⟨es, hes, h⟩ := Result.bind_eq_ok.1 h
  cases h
  exact ⟨es, edits_eq_ok_iff.1 hes, (Edited.nothing table).run es⟩

/-- A list of attributes can be applied exactly when the groups that are met in it are defined, and so are the
attributes that are referred to other than to prohibit them. The flat list then has an edit for each of its
uses, which is of the same name, and the table after it is the table after these edits: a name is there if
its last use sets it, or if it was there and is not used; what stands under it is what its last use says; and
the names that were there and are never prohibited come first, in their order, then the others in the order of
the uses that first set them since they were last prohibited. -/
theorem applyAttributes_flat (s : Schema) (items : List AttributeItem) (table : Keyed Name AttributeDecl) :
    ((∃ result, s.applyAttributes items table = .ok result) ↔
      (∀ n, s.Meets [] items (.groupRef n) → ∃ inner, s.attributeGroups.get? n = some inner) ∧
        ∀ n, s.Meets [] items (.attributeRef n false) → ∃ declaration, s.globalAttribute n = .ok declaration) ∧
    ∀ result, s.applyAttributes items table = .ok result → ∃ es,
      (s.flatten [] items).mapM s.edit? = some es ∧
      es.map Edit.name = (s.flatten [] items).map AttributeItem.name ∧
      (∀ n, n ∈ result.keys ↔ (∃ declaration, lastEdit n es = some (.set declaration)) ∨
        lastEdit n es = none ∧ n ∈ table.keys) ∧
      Edited table es result := by
  constructor
  · rw [← exists_edits_iff]
    constructor
    · rintro ⟨result, h⟩
      obtain ⟨es, hes, -⟩ := Result.bind_eq_ok.1 h
      exact ⟨es, hes⟩
    · rintro ⟨es, hes⟩
      exact ⟨_, Result.bind_eq_ok.2 ⟨es, hes, rfl⟩⟩
  · intro result h
    obtain ⟨es, hflat, hedited⟩ := exists_edited h
    exact ⟨es, hflat, names_of_edits hflat, hedited.mem_keys_iff, hedited⟩

/-- A schema with an attribute group that contains itself, and takes away at its end what it sets at its
beginning. -/
def labels : Schema :=
  { Schema.empty.addAttributes [⟨.plain "lang", none⟩] with
    attributeGroups := ⟨[(.plain "common", [.declared ⟨.plain "id", none⟩ false, .groupRef (.plain "common"),
      .attributeRef (.plain "lang") false, .declared ⟨.plain "id", none⟩ true])], by simp⟩ }

/-- Attributes that a type takes over. -/
def inheritedLabels : Keyed Name AttributeDecl :=
  ⟨[(.plain "id", ⟨.plain "id", none⟩), (.plain "kind", ⟨.plain "kind", none⟩)], by decide⟩

theorem edits_labels : labels.edits [] [.groupRef (.plain "common"), .declared ⟨.plain "id", none⟩ false] =
    .ok [.set ⟨.plain "id", none⟩, .set ⟨.plain "lang", none⟩, .remove (.plain "id"), .set ⟨.plain "id", none⟩] := by
  have hcommon : labels.attributeGroups.get? (.plain "common") =
      some [.declared ⟨.plain "id", none⟩ false, .groupRef (.plain "common"), .attributeRef (.plain "lang") false,
        .declared ⟨.plain "id", none⟩ true] := rfl
  have hlang : labels.globalAttribute (.plain "lang") = .ok ⟨.plain "lang", none⟩ := rfl
  rw [edits_of_group List.not_mem_nil hcommon]
  simp only [edits, hlang, List.mem_singleton, ↓reduceDIte, ↓reduceIte, Bool.false_eq_true]
  rfl

theorem applyAttributes_flat_labels : ∃ result es,
    labels.applyAttributes [.groupRef (.plain "common"), .declared ⟨.plain "id", none⟩ false] inheritedLabels =
      .ok result ∧
    result.keys = [.plain "kind", .plain "lang", .plain "id"] ∧ Edited inheritedLabels es result := by
  have hkeys : (labels.applyAttributes [.groupRef (.plain "common"), .declared ⟨.plain "id", none⟩ false]
      inheritedLabels).toOption.map Keyed.keys = some [.plain "kind", .plain "lang", .plain "id"] := by
    rw [applyAttributes, edits_labels]
    rfl
  obtain ⟨result, hresult, hkeys⟩ := Option.map_eq_some_iff.1 hkeys
  have hok := Result.toOption_eq_some.1 hresult
  obtain ⟨es, -, -, -, hedited⟩ := (applyAttributes_flat _ _ _).2 result hok
  exact ⟨result, es, hok, hkeys, hedited⟩

end SchemaHints.Schema
