/-
What the hints of a graph say, as a reader of the text sees it. What is shown is described from the graph
alone: which sections there are, which keys stand in them, in which order, and what stands under each key.
Every tidy graph without an element that is called like the list of top-level elements is described by what
is read from either of its texts.
-/
import SchemaHints.Proofs.Hint.Members

namespace SchemaHints

open Text

/-! ## Descriptions -/

/-- Members that hold each of some things once, under its text, in strictly increasing order. -/
structure MembersOf {α : Type} (cmp : String → String → Ordering) (key : α → String)
    (shows : α → JsonValue → Prop) (xs : List α) (members : List (String × JsonValue)) : Prop where
  keys : Listing cmp (xs.map key) (members.map Prod.fst)
  shown : ∀ x ∈ xs, ∃ v, (key x, v) ∈ members ∧ shows x v

/-- A section is left out when there is nothing in it, and one member otherwise. -/
inductive SectionOf (key : String) (nothing : Prop) (shows : JsonValue → Prop) : List (String × JsonValue) → Prop
  | out (h : nothing) : SectionOf key nothing shows []
  | one (h : ¬nothing) {v : JsonValue} (hv : shows v) : SectionOf key nothing shows [(key, v)]

/-- An attribute without values is shown as null, and one with values as the list of them. -/
inductive AttributeShape.Shows (a : AttributeShape) : JsonValue → Prop
  | any (h : a.values.toList = []) : Shows a .null
  | values (h : a.values.toList ≠ []) {listed : List String}
      (hl : Listing compareIgnoringCase a.values.toList listed) : Shows a (.texts listed)

/-- All attributes of an element. -/
def ElementShape.ShowsAttributes (e : ElementShape) (v : JsonValue) : Prop :=
  ∃ members, v = .object members ∧
    MembersOf compareIgnoringCase (·.name.text) AttributeShape.Shows e.attributes.values members

/-- All children of an element. -/
def ElementShape.ShowsChildren (e : ElementShape) (v : JsonValue) : Prop :=
  ∃ listed, v = .texts listed ∧ Listing compareText (e.children.toList.map Name.text) listed

/-- An element is shown by its attributes and children, in this order. -/
def ElementShape.Shows (e : ElementShape) (v : JsonValue) : Prop :=
  ∃ attributes children, v = .object (attributes ++ children) ∧
    SectionOf "attrs" (e.attributes.values = []) e.ShowsAttributes attributes ∧
    SectionOf "children" (e.children.toList = []) e.ShowsChildren children

/-- The elements that may be the root. -/
def ShapeGraph.topLevel (g : ShapeGraph) : List ElementShape := g.values.filter (·.isTopLevel)

/-- All top-level elements of a graph. -/
def ShapeGraph.ShowsTop (g : ShapeGraph) (v : JsonValue) : Prop :=
  ∃ listed, v = .texts listed ∧ Listing compareText (g.topLevel.map (·.name.text)) listed

/-- A graph is shown by its top-level elements and all elements after them. -/
def ShapeGraph.Shows (g : ShapeGraph) (members : List (String × JsonValue)) : Prop :=
  ∃ top elements, members = top ++ elements ∧ SectionOf topKey (g.topLevel = []) g.ShowsTop top ∧
    MembersOf compareText (·.name.text) ElementShape.Shows g.values elements

/-! ## What is shown -/

/-- Members as they are read. -/
def readMembers (members : List (String × Json)) : List (String × JsonValue) :=
  members.map fun m => (m.1, m.2.value)

theorem map_fst_readMembers (members : List (String × Json)) :
    (readMembers members).map Prod.fst = members.map Prod.fst := by
  unfold readMembers
  rw [List.map_map]
  rfl

theorem sectionOf_memberUnless {nothing : Bool} {P : Prop} {key : String} {v : Json} {shows : JsonValue → Prop}
    (hP : nothing = true ↔ P) (hv : shows v.value) :
    SectionOf key P shows (readMembers (Json.memberUnless nothing key v)) := by
  cases nothing with
  | true => exact .out (hP.1 rfl)
  | false => exact .one (fun hp => Bool.false_ne_true (hP.2 hp)) hv

theorem membersOf_sortBy {α : Type} {cmp : String → String → Ordering} [Std.TransCmp cmp] [Std.LawfulEqCmp cmp]
    {key : α → String} {hint : α → Json} {shows : α → JsonValue → Prop} {xs : List α} (hn : (xs.map key).Nodup)
    (hshows : ∀ x ∈ xs, shows x (hint x).value) :
    MembersOf cmp key shows xs (readMembers (sortBy cmp Prod.fst (xs.map fun x => (key x, hint x)))) := by
  have hkeys : (xs.map fun x => (key x, hint x)).map Prod.fst = xs.map key := List.map_map
  constructor
  · rw [map_fst_readMembers, ← hkeys]
    exact listing_sortBy (hkeys ▸ hn)
  · intro x hx
    refine ⟨(hint x).value, ?_, hshows x hx⟩
    exact List.mem_map.2 ⟨(key x, hint x), perm_sortBy.mem_iff.2 (List.mem_map_of_mem hx), rfl⟩

/-- A sort of different texts lists them. -/
theorem listing_sortBy_id {cmp : String → String → Ordering} [Std.TransCmp cmp] [Std.LawfulEqCmp cmp]
    {texts : List String} (hn : texts.Nodup) : Listing cmp texts (sortBy cmp id texts) := by
  have hlisting : Listing cmp (texts.map id) ((sortBy cmp id texts).map id) := listing_sortBy (by simpa using hn)
  rwa [List.map_id, List.map_id] at hlisting

theorem AttributeShape.shows_hint (a : AttributeShape) : a.Shows a.hint.value := by
  unfold hint isFreeText
  by_cases h : a.values.toList = []
  · rw [if_pos (List.isEmpty_iff.2 h)]
    exact .any h
  · rw [if_neg (fun he => h (List.isEmpty_iff.1 he)), Json.value_texts]
    exact .values h (listing_sortBy_id a.values.nodup)

theorem ElementShape.shows_hint {e : ElementShape} (h : e.Unbraced) : e.Shows e.hint.value := by
  have hattributes : e.attributeMembers.isEmpty = true ↔ e.attributes.values = [] := by
    rw [List.isEmpty_iff, attributeMembers, sortBy_eq_nil_iff, List.map_eq_nil_iff]
  have hchildren : e.childTexts.isEmpty = true ↔ e.children.toList = [] := by
    rw [List.isEmpty_iff, childTexts, sortBy_eq_nil_iff, List.map_eq_nil_iff]
  rw [hint_eq h, Json.value_object, List.map_append]
  refine ⟨_, _, rfl, sectionOf_memberUnless hattributes ?_, sectionOf_memberUnless hchildren ?_⟩
  · exact ⟨_, Json.value_object _, membersOf_sortBy h.nodup_attributes fun a _ => a.shows_hint⟩
  · exact ⟨_, Json.value_texts _, listing_sortBy_id h.nodup_children⟩

theorem ShapeGraph.perm_topTexts (g : ShapeGraph) : g.topTexts.Perm (g.topLevel.map (·.name.text)) :=
  (perm_sortBy.filter _).map _

theorem ShapeGraph.isEmpty_topTexts_iff (g : ShapeGraph) : g.topTexts.isEmpty = true ↔ g.topLevel = [] := by
  rw [List.isEmpty_iff, ← List.length_eq_zero_iff, g.perm_topTexts.length_eq, List.length_map,
    List.length_eq_zero_iff]

theorem ShapeGraph.listing_topTexts {g : ShapeGraph} (h : g.Tidy) :
    Listing compareText (g.topLevel.map (·.name.text)) g.topTexts := by
  have hall : Listing compareText (g.values.map (·.name.text))
      ((sortBy compareText (·.name.text) g.values).map (·.name.text)) := listing_sortBy h.nodup_elements
  exact ⟨hall.increasing.sublist (List.filter_sublist.map _), g.perm_topTexts⟩

/-- The hints of a tidy graph show the graph. -/
theorem ShapeGraph.shows_hint {g : ShapeGraph} (h : g.Tidy) :
    ∃ members, g.hint.value = .object members ∧ g.Shows members := by
  rw [hint_eq h, Json.value_object, List.map_append]
  refine ⟨_, rfl, _, _, rfl, sectionOf_memberUnless g.isEmpty_topTexts_iff ?_, ?_⟩
  · exact ⟨_, Json.value_texts _, listing_topTexts h⟩
  · exact membersOf_sortBy h.nodup_elements fun e he => ElementShape.shows_hint (h.unbraced e he)

/-! ## No key twice -/

theorem SectionOf.keys {key : String} {nothing : Prop} {shows : JsonValue → Prop}
    {members : List (String × JsonValue)} (h : SectionOf key nothing shows members) :
    members.map Prod.fst = [] ∨ members.map Prod.fst = [key] := by
  cases h with
  | out _ => exact .inl rfl
  | one _ _ => exact .inr rfl

/-- The keys are all different, unless an element is called like the list of top-level elements. -/
theorem ShapeGraph.Shows.nodup_keys {g : ShapeGraph} {members : List (String × JsonValue)} (h : g.Shows members)
    (htop : ∀ e ∈ g.values, e.name.text ≠ topKey) : (members.map Prod.fst).Nodup := by
  obtain ⟨top, elements, rfl, hsection, helements⟩ := h
  have hnodup : (elements.map Prod.fst).Nodup := helements.keys.nodup
  have hnot : topKey ∉ elements.map Prod.fst := by
    intro hmem
    obtain ⟨e, he, hname⟩ := List.mem_map.1 (helements.keys.perm.mem_iff.1 hmem)
    exact htop e he hname
  rw [List.map_append]
  rcases hsection.keys with hnone | hone
  · rw [hnone]
    exact hnodup
  · rw [hone]
    exact List.nodup_cons.2 ⟨hnot, hnodup⟩

/-! ## Reading a text -/

/-- Both texts of a tidy graph are JSON; what is read shows the graph in the given order, and no key comes
twice unless an element is called like the list of top-level elements. -/
theorem ShapeGraph.hintText_shows (g : ShapeGraph) (hg : g.Tidy) (htop : ∀ e ∈ g.values, e.name.text ≠ topKey)
    (indented : Bool) :
    ∃ members, JsonValue.read? (g.hintText indented) = some (.object members) ∧ g.Shows members ∧
      (members.map Prod.fst).Nodup := by
  obtain ⟨members, hvalue, hshows⟩ := g.shows_hint hg
  refine ⟨members, ?_, hshows, hshows.nodup_keys htop⟩
  rw [g.read?_hintText, hvalue]

/-- A book with a title, the title coming first: a name with a namespace that holds braces, quotes in a value,
and values that differ in case. -/
def titledBook : ShapeGraph :=
  let title : Name := ⟨"urn:\x7bx\x7d", "title"⟩
  let lang : AttributeShape := ⟨.plain "lang", .ofList ["de", "\"en\"", "DE"]⟩
  .ofList [(title, (ElementShape.new title false).addAttribute lang),
    (.plain "book", (((ElementShape.new (.plain "book") true).addChild title).addAttribute (.new (.plain "id"))).addAttribute lang)]

theorem titledBook_hintText_shows :
    titledBook.Tidy ∧ (∀ e ∈ titledBook.values, e.name.text ≠ topKey) ∧
      ∃ members, JsonValue.read? (titledBook.hintText true) = some (.object members) ∧
        titledBook.Shows members ∧ (members.map Prod.fst).Nodup := by
  have htidy : titledBook.Tidy := by decide +kernel
  have htop : ∀ e ∈ titledBook.values, e.name.text ≠ topKey := by decide +kernel
  exact ⟨htidy, htop, titledBook.hintText_shows htidy htop true⟩

end SchemaHints
