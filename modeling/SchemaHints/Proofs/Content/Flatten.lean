/-
Lists of attributes made flat. To replace each group by what it holds makes one list of the uses that a list comes
to, however the groups contain each other: a group inside itself adds nothing. What a list does to a table of
attributes is what the uses in its flat list do, one after another, and to fail it takes a use in the flat list
that refers to nothing, so the order in which the groups are looked up does not matter.
-/
import SchemaHints.Schema.Content

namespace SchemaHints.Schema

variable {s : Schema}

/-! ## Flat lists -/

/-- A list of attributes with each group replaced by its own flat list, a group inside itself, as `within`
tells, adding nothing. A reference to a group that is not defined stays. -/
def flatten (s : Schema) (within : List Name) : List AttributeItem → List AttributeItem
  | [] => []
  | .groupRef n :: rest =>
    if _hn : n ∈ within then s.flatten within rest
    else match _h : s.attributeGroups.get? n with
      | none => .groupRef n :: s.flatten within rest
      | some items => s.flatten (n :: within) items ++ s.flatten within rest
  | item :: rest => item :: s.flatten within rest
termination_by items => (unvisited s.attributeGroups within, items.length)
decreasing_by
  all_goals simp_wf
  all_goals first
    | exact Prod.Lex.left _ _ (unvisited_lt _h _hn)
    | exact Prod.Lex.right _ (Nat.lt_succ_self _)

/-- The items that are met while a list is flattened: its own, and those of the groups that are expanded. -/
inductive Meets (s : Schema) : List Name → List AttributeItem → AttributeItem → Prop
  | here {within : List Name} {items : List AttributeItem} {item : AttributeItem} :
    item ∈ items → Meets s within items item
  | inside {within : List Name} {items inner : List AttributeItem} {n : Name} {item : AttributeItem} :
    .groupRef n ∈ items → n ∉ within → s.attributeGroups.get? n = some inner →
      Meets s (n :: within) inner item → Meets s within items item

/-- The name of an attribute that is used, or of a group that is referred to. -/
def AttributeItem.name : AttributeItem → Name
  | declared declaration _ => declaration.name
  | attributeRef n _ => n
  | groupRef n => n

/-- The name of the attribute that an edit sets or removes. -/
def Edit.name : Edit → Name
  | set declaration => declaration.name
  | remove n => n

/-- What a use does to a table, if it refers to what is defined. -/
def edit? (s : Schema) : AttributeItem → Option Edit
  | .declared declaration prohibited =>
    some (if prohibited then .remove declaration.name else .set declaration)
  | .attributeRef n prohibited =>
    if prohibited then some (.remove n) else (s.attributes.get? n).map .set
  | .groupRef _ => none

/-! ### What is met -/

theorem meets_nil {within : List Name} {item : AttributeItem} : ¬ s.Meets within [] item := by
  rintro (h | ⟨h, -, -, -⟩)
  · exact List.not_mem_nil h
  · exact List.not_mem_nil h

/-- What is met in a list is its first item, what is met in the group that this refers to, and what is met in
the rest. -/
theorem meets_cons {within : List Name} {first item : AttributeItem} {rest : List AttributeItem} :
    s.Meets within (first :: rest) item ↔ item = first ∨
      (∃ n inner, first = .groupRef n ∧ n ∉ within ∧ s.attributeGroups.get? n = some inner ∧
        s.Meets (n :: within) inner item) ∨ s.Meets within rest item := by
  constructor
  · rintro (h | ⟨h, hn, hi, hm⟩)
    · rcases List.mem_cons.1 h with rfl | h
      · exact .inl rfl
      · exact .inr (.inr (.here h))
    · rcases List.mem_cons.1 h with rfl | h
      · exact .inr (.inl ⟨_, _, rfl, hn, hi, hm⟩)
      · exact .inr (.inr (.inside h hn hi hm))
  · rintro (rfl | ⟨n, inner, rfl, hn, hi, hm⟩ | h | ⟨h, hn, hi, hm⟩)
    · exact .here (List.mem_cons_self ..)
    · exact .inside (List.mem_cons_self ..) hn hi hm
    · exact .here (List.mem_cons_of_mem _ h)
    · exact .inside (List.mem_cons_of_mem _ h) hn hi hm

/-- A flat list has what is met, except the references to groups that are defined. -/
theorem mem_flatten {within : List Name} (hw : ∀ n ∈ within, s.attributeGroups.get? n ≠ none)
    {items : List AttributeItem} {item : AttributeItem} :
    item ∈ s.flatten within items ↔
      s.Meets within items item ∧ ∀ n, item = .groupRef n → s.attributeGroups.get? n = none := by
  fun_induction flatten s within items with
  | case1 within =>
    constructor
    · exact fun h => absurd h List.not_mem_nil
    · exact fun h => absurd h.1 meets_nil
  | case2 within n rest hn ih =>
    rw [ih hw, meets_cons]
    constructor
    · exact fun ⟨hm, hd⟩ => ⟨.inr (.inr hm), hd⟩
    · rintro ⟨rfl | ⟨m, inner, hm, hnot, -, -⟩ | hm, hd⟩
      · exact absurd (hd n rfl) (hw n hn)
      · cases hm
        exact absurd hn hnot
      · exact ⟨hm, hd⟩
  | case3 within n rest hn hi ih =>
    rw [List.mem_cons, ih hw, meets_cons]
    constructor
    · rintro (rfl | ⟨hm, hd⟩)
      · exact ⟨.inl rfl, fun m hm => by cases hm; exact hi⟩
      · exact ⟨.inr (.inr hm), hd⟩
    · rintro ⟨rfl | ⟨m, inner, hm, -, hinner, -⟩ | hm, hd⟩
      · exact .inl rfl
      · cases hm
        rw [hi] at hinner
        cases hinner
      · exact .inr ⟨hm, hd⟩
  | case4 within n rest hn inner hi ihInner ih =>
    have hw' : ∀ m ∈ n :: within, s.attributeGroups.get? m ≠ none :=
      List.forall_mem_cons.2 ⟨by rw [hi]; exact Option.some_ne_none _, hw⟩
    rw [List.mem_append, ihInner hw', ih hw, meets_cons]
    constructor
    · rintro (⟨hm, hd⟩ | ⟨hm, hd⟩)
      · exact ⟨.inr (.inl ⟨n, inner, rfl, hn, hi, hm⟩), hd⟩
      · exact ⟨.inr (.inr hm), hd⟩
    · rintro ⟨rfl | ⟨m, inner', hm, -, hinner, hmeets⟩ | hm, hd⟩
      · have hnone := hd n rfl
        rw [hi] at hnone
        cases hnone
      · cases hm
        rw [hi] at hinner
        cases hinner
        exact .inl ⟨hmeets, hd⟩
      · exact .inr ⟨hm, hd⟩
  | case5 within first rest hfirst ih =>
    rw [List.mem_cons, ih hw, meets_cons]
    constructor
    · rintro (rfl | ⟨hm, hd⟩)
      · exact ⟨.inl rfl, fun m hm => absurd hm (hfirst m)⟩
      · exact ⟨.inr (.inr hm), hd⟩
    · rintro ⟨rfl | ⟨m, inner, hm, -⟩ | hm, hd⟩
      · exact .inl rfl
      · exact absurd hm (hfirst m)
      · exact .inr ⟨hm, hd⟩

/-! ### One edit for each use -/

theorem mapM_cons_eq_some {α β : Type} {f : α → Option β} {a : α} {as : List α} {bs : List β} :
    (a :: as).mapM f = some bs ↔ ∃ b rest, f a = some b ∧ as.mapM f = some rest ∧ bs = b :: rest := by
  rw [List.mapM_cons]
  constructor
  · intro h
    obtain ⟨b, hb, h⟩ := Option.bind_eq_some_iff.1 h
    obtain ⟨rest, hrest, h⟩ := Option.bind_eq_some_iff.1 h
    cases h
    exact ⟨b, rest, hb, hrest, rfl⟩
  · rintro ⟨b, rest, hb, hrest, rfl⟩
    rw [hb, hrest]
    rfl

theorem mapM_append_eq_some {α β : Type} {f : α → Option β} {as as' : List α} {bs : List β} :
    (as ++ as').mapM f = some bs ↔
      ∃ front back, as.mapM f = some front ∧ as'.mapM f = some back ∧ bs = front ++ back := by
  rw [List.mapM_append]
  constructor
  · intro h
    obtain ⟨front, hfront, h⟩ := Option.bind_eq_some_iff.1 h
    obtain ⟨back, hback, h⟩ := Option.bind_eq_some_iff.1 h
    cases h
    exact ⟨front, back, hfront, hback, rfl⟩
  · rintro ⟨front, back, hfront, hback, rfl⟩
    rw [hfront, hback]
    rfl

theorem exists_mapM_eq_some_iff {α β : Type} {f : α → Option β} {as : List α} :
    (∃ bs, as.mapM f = some bs) ↔ ∀ a ∈ as, ∃ b, f a = some b := by
  induction as with
  | nil => exact ⟨fun _ a ha => absurd ha List.not_mem_nil, fun _ => ⟨[], rfl⟩⟩
  | cons a as ih =>
    rw [List.forall_mem_cons, ← ih]
    constructor
    · rintro ⟨bs, h⟩
      obtain ⟨b, rest, hb, hrest, -⟩ := mapM_cons_eq_some.1 h
      exact ⟨⟨b, hb⟩, rest, hrest⟩
    · rintro ⟨⟨b, hb⟩, rest, hrest⟩
      exact ⟨b :: rest, mapM_cons_eq_some.2 ⟨b, rest, hb, hrest, rfl⟩⟩

theorem edits_use {item : AttributeItem} (hi : ∀ n, item ≠ .groupRef n) {within : List Name}
    {rest : List AttributeItem} {es : List Edit} :
    s.edits within (item :: rest) = .ok es ↔
      ∃ e more, s.edit? item = some e ∧ s.edits within rest = .ok more ∧ es = e :: more := by
  have hmore (e : Edit) : (s.edits within rest >>= fun more => .ok (e :: more)) = .ok es ↔
      ∃ more, s.edits within rest = .ok more ∧ es = e :: more := by
    rw [Result.bind_eq_ok]
    simp only [Except.ok.injEq, eq_comm]
  cases item with
  | groupRef n => exact absurd rfl (hi n)
  | declared declaration prohibited =>
    rw [edits, hmore]
    simp [edit?]
  | attributeRef n prohibited =>
    rw [edits]
    cases prohibited with
    | true =>
      rw [if_pos rfl, hmore]
      simp [edit?]
    | false =>
      rw [if_neg Bool.false_ne_true, Result.bind_eq_ok]
      simp only [hmore, edit?, Bool.false_eq_true, if_false, Option.map_eq_some_iff, globalAttribute, find_eq_ok_iff]
      constructor
      · rintro ⟨declaration, hd, more, h⟩
        exact ⟨_, more, ⟨declaration, hd, rfl⟩, h⟩
      · rintro ⟨_, more, ⟨declaration, hd, rfl⟩, h⟩
        exact ⟨declaration, hd, more, h⟩

theorem edits_of_undefined {within : List Name} {n : Name} (hn : n ∉ within)
    (hi : s.attributeGroups.get? n = none) (rest : List AttributeItem) :
    s.edits within (.groupRef n :: rest) = fail (.undefined .attributeGroups n) := by
  rw [edits, dif_neg hn]
  grind

/-- The edits of a list are what the uses in the flat list do, one for each. -/
theorem edits_eq_ok_iff {within : List Name} {items : List AttributeItem} {es : List Edit} :
    s.edits within items = .ok es ↔ (s.flatten within items).mapM s.edit? = some es := by
  fun_induction flatten s within items generalizing es with
  | case1 within =>
    rw [edits, List.mapM_nil]
    exact ⟨fun h => by cases h; rfl, fun h => by cases h; rfl⟩
  | case2 within n rest hn ih =>
    rw [edits, dif_pos hn]
    exact ih
  -- a reference that stays has no edit, and the list no edits
  | case3 within n rest hn hi ih =>
    rw [edits_of_undefined hn hi, mapM_cons_eq_some]
    constructor
    · exact fun h => by cases h
    · rintro ⟨e, more, he, -⟩
      cases he
  | case4 within n rest hn items hi ihItems ih =>
    rw [edits_of_group hn hi, mapM_append_eq_some]
    constructor
    · intro h
      obtain ⟨inner, hinner, h⟩ := Result.bind_eq_ok.1 h
      obtain ⟨more, hmore, h⟩ := Result.bind_eq_ok.1 h
      cases h
      exact ⟨inner, more, ihItems.1 hinner, ih.1 hmore, rfl⟩
    · rintro ⟨inner, more, hinner, hmore, rfl⟩
      exact Result.bind_eq_ok.2 ⟨inner, ihItems.2 hinner, Result.bind_eq_ok.2 ⟨more, ih.2 hmore, rfl⟩⟩
  | case5 within item rest hi ih =>
    rw [edits_use hi, mapM_cons_eq_some]
    constructor
    · rintro ⟨e, more, he, hmore, rfl⟩
      exact ⟨e, more, he, ih.1 hmore, rfl⟩
    · rintro ⟨e, more, he, hmore, rfl⟩
      exact ⟨e, more, he, ih.2 hmore, rfl⟩

/-- A list has edits exactly when all that is met in it is defined. -/
theorem exists_edits_iff {items : List AttributeItem} :
    (∃ es, s.edits [] items = .ok es) ↔
      (∀ n, s.Meets [] items (.groupRef n) → ∃ inner, s.attributeGroups.get? n = some inner) ∧
        ∀ n, s.Meets [] items (.attributeRef n false) → ∃ declaration, s.globalAttribute n = .ok declaration := by
  simp only [edits_eq_ok_iff]
  rw [exists_mapM_eq_some_iff]
  have hmem {item : AttributeItem} : item ∈ s.flatten [] items ↔
      s.Meets [] items item ∧ ∀ n, item = .groupRef n → s.attributeGroups.get? n = none :=
    mem_flatten fun n hn => absurd hn List.not_mem_nil
  constructor
  · intro h
    constructor
    · intro n hn
      rw [← Option.ne_none_iff_exists']
      intro hnone
      obtain ⟨e, he⟩ := h _ (hmem.2 ⟨hn, fun m hm => by cases hm; exact hnone⟩)
      cases he
    · intro n hn
      obtain ⟨e, he⟩ := h _ (hmem.2 ⟨hn, fun m hm => by cases hm⟩)
      obtain ⟨declaration, hd, -⟩ := Option.map_eq_some_iff.1 he
      exact ⟨declaration, find_eq_ok_iff.2 hd⟩
  · rintro ⟨hgroups, hrefs⟩ item hi
    obtain ⟨hm, hstays⟩ := hmem.1 hi
    cases item with
    | declared declaration prohibited => exact ⟨_, rfl⟩
    | groupRef n =>
      obtain ⟨inner, hinner⟩ := hgroups n hm
      rw [hstays n rfl] at hinner
      cases hinner
    | attributeRef n prohibited =>
      cases prohibited with
      | true => exact ⟨_, rfl⟩
      | false =>
        obtain ⟨declaration, hd⟩ := hrefs n hm
        exact ⟨.set declaration, by simp [edit?, find_eq_ok_iff.1 hd]⟩

/-- An edit is of the name that is used. -/
theorem name_of_edit? {item : AttributeItem} {e : Edit} (h : s.edit? item = some e) : e.name = item.name := by
  cases item with
  | groupRef n => cases h
  | declared declaration prohibited =>
    cases prohibited <;> cases h <;> rfl
  | attributeRef n prohibited =>
    cases prohibited with
    | true => cases h; rfl
    | false =>
      obtain ⟨declaration, hd, rfl⟩ := Option.map_eq_some_iff.1 h
      exact s.attributesNamed _ (Keyed.get?_eq_some_iff.1 hd)

theorem names_of_edits {items : List AttributeItem} {es : List Edit} (h : items.mapM s.edit? = some es) :
    es.map Edit.name = items.map AttributeItem.name := by
  induction items generalizing es with
  | nil => cases h; rfl
  | cons item items ih =>
    obtain ⟨e, rest, he, hrest, rfl⟩ := mapM_cons_eq_some.1 h
    rw [List.map_cons, List.map_cons, name_of_edit? he, ih hrest]

end SchemaHints.Schema
