/-
The members of hints. What an object of the hints shows stands under the text of a name; where no brace
stands in a local part, the text determines the name, so nothing overwrites anything else, and every sort has
one result. For such shapes the hints are written here as they are meant: sections that are left out when
there is nothing in them, and sorted members, each under its own text.
-/
import SchemaHints.Hint
import SchemaHints.Proofs.Text.Order
import SchemaHints.Proofs.Json.Written
import Mathlib.Data.List.Nodup

namespace SchemaHints

open Text

/-! ## Texts of names -/

namespace Name

/-- A name without braces in its local part; its namespace may have any. -/
structure Unbraced (n : Name) : Prop where
  opening : '\x7b' ∉ n.localName.toList
  closing : '\x7d' ∉ n.localName.toList

theorem toList_text_of_ne {n : Name} (h : n.space ≠ "") :
    n.text.toList = '\x7b' :: n.space.toList ++ '\x7d' :: n.localName.toList := by
  simp [text, h]

theorem text_of_eq {n : Name} (h : n.space = "") : n.text = n.localName := by
  simp [text, h]

/-- A character that does not come again ends the beginning of a list. -/
theorem append_cons_inj {c : Char} {as bs xs ys : List Char} (hx : c ∉ xs) (hy : c ∉ ys)
    (h : as ++ c :: xs = bs ++ c :: ys) : as = bs ∧ xs = ys := by
  rcases List.append_eq_append_iff.1 h with ⟨cs, rfl, hcs⟩ | ⟨cs, rfl, hcs⟩
  all_goals
    cases cs with
    | nil => simp_all
    | cons d cs =>
      obtain ⟨-, hmem⟩ := List.cons.inj hcs
      simp_all

/-- A text without a namespace has no closing brace, and all others have one. -/
theorem closing_mem_text_iff {n : Name} (hn : '\x7d' ∉ n.localName.toList) :
    '\x7d' ∈ n.text.toList ↔ n.space ≠ "" := by
  by_cases h : n.space = ""
  · rw [text_of_eq h]
    simp [h, hn]
  · rw [toList_text_of_ne h]
    simp [h]

/-- The last closing brace of a text ends the namespace, so where none is in a local part, the text of a name
determines the name. -/
theorem text_inj {m n : Name} (hm : '\x7d' ∉ m.localName.toList) (hn : '\x7d' ∉ n.localName.toList)
    (h : m.text = n.text) : m = n := by
  have hspaces : m.space ≠ "" ↔ n.space ≠ "" := by
    rw [← closing_mem_text_iff hm, ← closing_mem_text_iff hn, h]
  suffices hparts : m.space = n.space ∧ m.localName = n.localName by
    obtain ⟨space, localName⟩ := m
    rw [Name.mk.injEq]
    exact hparts
  by_cases hspace : m.space = ""
  · have hspace' : n.space = "" := by
      by_contra hne
      exact hspaces.2 hne hspace
    rw [text_of_eq hspace, text_of_eq hspace'] at h
    exact ⟨hspace.trans hspace'.symm, h⟩
  · have hlist := congrArg String.toList h
    rw [toList_text_of_ne hspace, toList_text_of_ne (hspaces.1 hspace)] at hlist
    obtain ⟨hbefore, hafter⟩ := append_cons_inj hm hn hlist
    exact ⟨String.toList_inj.1 (List.cons.inj hbefore).2, String.toList_inj.1 hafter⟩

theorem Unbraced.text_inj {m n : Name} (hm : m.Unbraced) (hn : n.Unbraced) (h : m.text = n.text) : m = n :=
  Name.text_inj hm.closing hn.closing h

end Name

/-! ## Shapes without braces -/

/-- An element without braces in its local part and in those of its attributes and children. -/
structure ElementShape.Unbraced (e : ElementShape) : Prop where
  name : e.name.Unbraced
  attributes : ∀ a ∈ e.attributes.values, a.name.Unbraced
  children : ∀ n ∈ e.children.toList, n.Unbraced

/-- A graph whose elements stand under their own names and have no braces in local parts. -/
structure ShapeGraph.Tidy (g : ShapeGraph) : Prop where
  named : ∀ x ∈ g.entries, x.2.name = x.1
  unbraced : ∀ e ∈ g.values, e.Unbraced

instance (n : Name) : Decidable n.Unbraced :=
  decidable_of_iff ('\x7b' ∉ n.localName.toList ∧ '\x7d' ∉ n.localName.toList)
    ⟨fun h => ⟨h.1, h.2⟩, fun h => ⟨h.opening, h.closing⟩⟩

instance (e : ElementShape) : Decidable e.Unbraced :=
  decidable_of_iff (e.name.Unbraced ∧ (∀ a ∈ e.attributes.values, a.name.Unbraced) ∧
      ∀ n ∈ e.children.toList, n.Unbraced)
    ⟨fun h => ⟨h.1, h.2.1, h.2.2⟩, fun h => ⟨h.name, h.attributes, h.children⟩⟩

instance (g : ShapeGraph) : Decidable g.Tidy :=
  decidable_of_iff ((∀ x ∈ g.entries, x.2.name = x.1) ∧ ∀ e ∈ g.values, e.Unbraced)
    ⟨fun h => ⟨h.1, h.2⟩, fun h => ⟨h.named, h.unbraced⟩⟩

/-- What stands under its own name, without braces, stands under a text of its own. -/
theorem Keyed.nodup_texts {α : Type} {name : α → Name} {t : Keyed Name α} (hnamed : ∀ x ∈ t.entries, name x.2 = x.1)
    (hunbraced : ∀ a ∈ t.values, (name a).Unbraced) : (t.values.map fun a => (name a).text).Nodup := by
  have hkeys : t.values.map name = t.keys := by
    rw [values, List.map_map]
    exact List.map_congr_left hnamed
  have hnames : (t.values.map name).Nodup := by
    rw [hkeys]
    exact t.nodup
  refine List.Nodup.map_on (fun a ha b hb h => ?_) (List.Nodup.of_map name hnames)
  exact List.inj_on_of_nodup_map hnames ha hb ((hunbraced a ha).text_inj (hunbraced b hb) h)

theorem ElementShape.Unbraced.nodup_attributes {e : ElementShape} (h : e.Unbraced) :
    (e.attributes.values.map (·.name.text)).Nodup := Keyed.nodup_texts e.attributesNamed h.attributes

theorem ElementShape.Unbraced.nodup_children {e : ElementShape} (h : e.Unbraced) :
    (e.children.toList.map Name.text).Nodup :=
  List.Nodup.map_on (fun m hm n hn => (h.children m hm).text_inj (h.children n hn)) e.children.nodup

theorem ShapeGraph.Tidy.nodup_elements {g : ShapeGraph} (h : g.Tidy) : (g.values.map (·.name.text)).Nodup :=
  Keyed.nodup_texts h.named fun e he => (h.unbraced e he).name

/-! ## Members -/

/-- A member that is left out when there is nothing in it. -/
def Json.memberUnless (nothing : Bool) (key : String) (v : Json) : List (String × Json) :=
  if nothing then [] else [(key, v)]

namespace ElementShape

/-- The attributes of an element in order, each with what it takes. -/
def attributeMembers (e : ElementShape) : List (String × Json) :=
  sortBy compareIgnoringCase Prod.fst (e.attributes.values.map fun a => (a.name.text, a.hint))

/-- The texts of the children in order. -/
def childTexts (e : ElementShape) : List String := sortBy compareText id (e.children.toList.map Name.text)

/-- Attributes and children of an element, each left out when there are none. -/
theorem hint_eq {e : ElementShape} (h : e.Unbraced) :
    e.hint = .object (Json.memberUnless e.attributeMembers.isEmpty "attrs" (.object e.attributeMembers) ++
      Json.memberUnless e.childTexts.isEmpty "children" (.texts e.childTexts)) := by
  have hsorted : (sortBy compareIgnoringCase (·.name.text) e.attributes.values).map
      (fun a => (a.name.text, a.hint)) = e.attributeMembers := map_sortBy _ fun _ => rfl
  have hnodup : (e.attributeMembers.map Prod.fst).Nodup := by
    refine (perm_sortBy.map Prod.fst).nodup_iff.2 ?_
    rw [List.map_map]
    exact h.nodup_attributes
  unfold hint
  simp only
  rw [hsorted, Keyed.entries_ofList hnodup]
  rfl

end ElementShape

namespace ShapeGraph

/-- The elements of a graph in order, each with its hints. -/
def elementMembers (g : ShapeGraph) : List (String × Json) :=
  sortBy compareText Prod.fst (g.values.map fun e => (e.name.text, e.hint))

/-- The texts of the top-level elements in order. -/
def topTexts (g : ShapeGraph) : List String :=
  ((sortBy compareText (·.name.text) g.values).filter (·.isTopLevel)).map (·.name.text)

/-- The top-level elements, left out when there are none, and all elements after them; of elements with the
same text the last is kept. -/
theorem hint_eq_ofList (g : ShapeGraph) :
    g.hint = .object (Json.memberUnless g.topTexts.isEmpty topKey (.texts g.topTexts) ++
      (Keyed.ofList ((sortBy compareText (·.name.text) g.values).map fun e => (e.name.text, e.hint))).entries) := rfl

/-- In a tidy graph no element takes the place of another. -/
theorem hint_eq {g : ShapeGraph} (h : g.Tidy) :
    g.hint = .object (Json.memberUnless g.topTexts.isEmpty topKey (.texts g.topTexts) ++ g.elementMembers) := by
  have hsorted : (sortBy compareText (·.name.text) g.values).map (fun e => (e.name.text, e.hint)) =
      g.elementMembers := map_sortBy _ fun _ => rfl
  have hnodup : (g.elementMembers.map Prod.fst).Nodup := by
    refine (perm_sortBy.map Prod.fst).nodup_iff.2 ?_
    rw [List.map_map]
    exact h.nodup_elements
  rw [hint_eq_ofList, hsorted, Keyed.entries_ofList hnodup]

end ShapeGraph

/-! ## Reading hints -/

/-- A list of strings as it is read. -/
def JsonValue.texts (ss : List String) : JsonValue := .list (ss.map .text)

theorem Json.value_texts (ss : List String) : (Json.texts ss).value = .texts ss := by
  unfold Json.texts JsonValue.texts
  rw [Json.value, Json.itemValues_eq_map, List.map_map]
  rfl

theorem Json.value_object (members : List (String × Json)) :
    (Json.object members).value = .object (members.map fun m => (m.1, m.2.value)) := by
  rw [Json.value, Json.memberValues_eq_map]

/-- Both texts of the hints are read as the hints. -/
theorem ShapeGraph.read?_hintText (g : ShapeGraph) (indented : Bool) :
    JsonValue.read? (g.hintText indented) = some g.hint.value := by
  cases indented with
  | false => exact Json.read?_compact g.hint
  | true => exact Json.read?_indented g.hint

end SchemaHints
