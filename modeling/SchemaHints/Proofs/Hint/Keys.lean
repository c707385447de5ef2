/-
The keys of the hints of a schema. Names are taken from documents as they are written there, so a local part
may hold anything, and the text under which a name is shown need not be its own. What is read then has one key
for each text: two names with one text share a key, and an element that is called like the list of top-level
elements repeats the key of that list. Nothing else goes wrong, and neither happens to names without braces of
which none is that of the list.
-/
import SchemaHints.Proofs.Graph.Discovery
import SchemaHints.Proofs.Hint.Description
import SchemaHints.Proofs.Loading.Namespaces

namespace SchemaHints

open Text

/-! ## Keys of any graph -/

theorem Keyed.eraseDups_sublist {κ : Type} [DecidableEq κ] (ks : List κ) : ks.eraseDups.Sublist ks := by
  induction ks using List.reverseRecOn with
  | nil => exact List.Sublist.slnil
  | append_singleton ks k ih =>
    rw [eraseDups_concat]
    split
    · exact ih.trans (List.sublist_append_left ..)
    · exact ih.append (List.Sublist.refl _)

theorem map_fst_memberUnless (nothing : Bool) (key : String) (v : Json) :
    (Json.memberUnless nothing key v).map Prod.fst = if nothing then [] else [key] := by
  cases nothing <;> rfl

namespace ShapeGraph

variable {g : ShapeGraph}

/-- After the list of top-level elements, the keys are all texts of elements in order, each once. -/
theorem exists_members (g : ShapeGraph) : ∃ top elements, g.hint.value = .object (top ++ elements) ∧
    top.map Prod.fst = (if g.topTexts.isEmpty then [] else [topKey]) ∧
    Listing compareText (g.values.map (·.name.text)).eraseDups (elements.map Prod.fst) := by
  rw [hint_eq_ofList, Json.value_object, List.map_append]
  refine ⟨_, _, rfl, ?_, ?_⟩
  · exact (map_fst_readMembers _).trans (map_fst_memberUnless ..)
  have hkeys : (Keyed.ofList ((sortBy compareText (·.name.text) g.values).map
      fun e => (e.name.text, e.hint))).entries.map Prod.fst =
      ((sortBy compareText (·.name.text) g.values).map (·.name.text)).eraseDups := by
    refine (Keyed.keys_ofList _).trans ?_
    rw [List.map_map]
    rfl
  rw [← readMembers, map_fst_readMembers, hkeys]
  constructor
  · exact increasing_of_ascending (ascending_sortBy.sublist (Keyed.eraseDups_sublist _)) (Keyed.nodup_eraseDups _)
  · rw [List.perm_ext_iff_of_nodup (Keyed.nodup_eraseDups _) (Keyed.nodup_eraseDups _)]
    intro text
    rw [List.mem_eraseDups, List.mem_eraseDups]
    exact (perm_sortBy.map _).mem_iff

end ShapeGraph

namespace Schema

/-! ## Graphs of schemas -/

variable {s : Schema} {graph : ShapeGraph}

/-- A built graph holds each element under its own name. -/
theorem named_of_build (h : s.build.result = .ok graph) : ∀ x ∈ graph.entries, x.2.name = x.1 := by
  obtain ⟨record, hp⟩ := record_of_build h
  intro x hx
  rw [hp.entries] at hx
  obtain ⟨t, ht, rfl⟩ := List.mem_map.1 hx
  exact (extract_shape (hp.shaped t ht)).1

theorem texts_of_build (h : s.build.result = .ok graph) :
    graph.values.map (·.name.text) = graph.keys.map Name.text := by
  rw [Keyed.values, Keyed.keys, List.map_map, List.map_map]
  refine List.map_congr_left fun x hx => ?_
  rw [Function.comp_apply, Function.comp_apply, named_of_build h x hx]

/-- The first element that is taken up is a global one, so a graph with any element has a top-level one. -/
theorem topLevel_eq_nil_iff_of_build (h : s.build.result = .ok graph) : graph.topLevel = [] ↔ graph.keys = [] := by
  obtain ⟨record, hp⟩ := record_of_build h
  cases record with
  | nil =>
    have hentries : graph.entries = [] := hp.entries
    rw [ShapeGraph.topLevel, Keyed.values, Keyed.keys, hentries]
    exact iff_of_true rfl rfl
  | cons t rest =>
    have hglobal : t.name ∈ s.elements.keys := by
      have hfirst := hp.first [] t ⟨rest, rfl⟩
      rw [announced, List.flatMap_nil, List.append_nil, find?_elements] at hfirst
      exact Keyed.mem_keys_of_get? hfirst
    have hshape := extract_shape (hp.shaped t (List.mem_cons_self ..))
    have htop : t.shape ∈ graph.topLevel := by
      refine List.mem_filter.2 ⟨?_, hshape.2.1.trans (decide_eq_true hglobal)⟩
      rw [Keyed.values, hp.entries]
      exact List.mem_cons_self ..
    refine iff_of_false (List.ne_nil_of_mem htop) ?_
    rw [hp.keys]
    exact List.cons_ne_nil _ _

/-! ## Keys of the hints of a schema -/

/-- Members by the texts of a graph: the list of the top-level elements, unless there are no elements, and in order
one member for each text of an element. -/
structure KeyedByText (graph : ShapeGraph) (top elements : List (String × JsonValue)) : Prop where
  top : top.map Prod.fst = if graph.keys = [] then [] else [topKey]
  elements : Listing compareText (graph.keys.map Name.text).eraseDups (elements.map Prod.fst)

namespace KeyedByText

variable {top elements : List (String × JsonValue)}

theorem mem_iff (h : KeyedByText graph top elements) {text : String} :
    text ∈ elements.map Prod.fst ↔ text ∈ graph.keys.map Name.text := by
  rw [h.elements.perm.mem_iff, List.mem_eraseDups]

/-- The keys of the elements are all different, so only that of the list can come again. -/
theorem nodup_iff (h : KeyedByText graph top elements) :
    ((top ++ elements).map Prod.fst).Nodup ↔ ∀ n ∈ graph.keys, n.text ≠ topKey := by
  rw [List.map_append, h.top]
  split
  · rename_i hempty
    refine iff_of_true h.elements.nodup fun n hn => ?_
    rw [hempty] at hn
    cases hn
  · rw [List.singleton_append, List.nodup_cons, h.mem_iff, List.mem_map, not_exists]
    constructor
    · rintro ⟨hnot, -⟩ n hn htext
      exact hnot n ⟨hn, htext⟩
    · intro hnot
      exact ⟨fun n ⟨hn, htext⟩ => hnot n hn htext, h.elements.nodup⟩

theorem perm_iff (h : KeyedByText graph top elements) :
    (elements.map Prod.fst).Perm (graph.keys.map Name.text) ↔
      ∀ m ∈ graph.keys, ∀ n ∈ graph.keys, m.text = n.text → m = n := by
  have hkeys : graph.keys.Nodup := graph.nodup
  rw [← List.nodup_map_iff_inj_on hkeys]
  constructor
  · intro hperm
    exact hperm.nodup_iff.1 h.elements.nodup
  · intro hn
    exact (List.perm_ext_iff_of_nodup h.elements.nodup hn).2 fun _ => h.mem_iff

/-- A key other than that of the list comes at most once. -/
theorem count_le_one (h : KeyedByText graph top elements) {text : String} (ht : text ≠ topKey) :
    ((top ++ elements).map Prod.fst).count text ≤ 1 := by
  have htop : (top.map Prod.fst).count text = 0 := by
    rw [h.top]
    split
    · rfl
    · exact List.count_eq_zero.2 (by simpa using ht)
  rw [List.map_append, List.count_append, htop, Nat.zero_add]
  exact List.nodup_iff_count_le_one.1 h.elements.nodup text

end KeyedByText

theorem exists_keyedByText (h : s.build.result = .ok graph) (indented : Bool) :
    ∃ top elements, JsonValue.read? (graph.hintText indented) = some (.object (top ++ elements)) ∧
      KeyedByText graph top elements := by
  obtain ⟨top, elements, hvalue, htop, helements⟩ := graph.exists_members
  simp only [graph.isEmpty_topTexts_iff, topLevel_eq_nil_iff_of_build h] at htop
  rw [texts_of_build h] at helements
  refine ⟨top, elements, ?_, htop, helements⟩
  rw [graph.read?_hintText, hvalue]

/-- The hints of a schema, as they are read, begin with the list of top-level elements, unless there are no
elements, and go on with one key for each text of an element. No key is repeated, unless an element has the
text of that list; and each element has a key of its own, unless two have the same text. Neither is so when no
local part has a closing brace and no element has the name of the list. -/
theorem hintText_keys (h : s.build.result = .ok graph) (indented : Bool) :
    ∃ top elements, JsonValue.read? (graph.hintText indented) = some (.object (top ++ elements)) ∧
      KeyedByText graph top elements ∧
      (((top ++ elements).map Prod.fst).Nodup ↔ ∀ n ∈ graph.keys, n.text ≠ topKey) ∧
      ((elements.map Prod.fst).Perm (graph.keys.map Name.text) ↔
        ∀ m ∈ graph.keys, ∀ n ∈ graph.keys, m.text = n.text → m = n) ∧
      ((∀ n ∈ graph.keys, '\x7d' ∉ n.localName.toList ∧ n ≠ .plain topKey) →
        ((top ++ elements).map Prod.fst).Nodup ∧ (elements.map Prod.fst).Perm (graph.keys.map Name.text)) := by
  obtain ⟨top, elements, hread, hkeyed⟩ := exists_keyedByText h indented
  refine ⟨top, elements, hread, hkeyed, hkeyed.nodup_iff, hkeyed.perm_iff, fun hplain => ?_⟩
  constructor
  · refine hkeyed.nodup_iff.2 fun n hn htext => ?_
    exact (hplain n hn).2 (Name.text_inj (hplain n hn).1 (by decide) htext)
  · refine hkeyed.perm_iff.2 fun m hm n hn => ?_
    exact Name.text_inj (hplain m hm).1 (hplain n hn).1

theorem hintText_keys_twice : twice.build.result = .ok twiceGraph ∧
    (∀ n ∈ twiceGraph.keys, '\x7d' ∉ n.localName.toList ∧ n ≠ .plain topKey) ∧
    ∃ top elements, JsonValue.read? (twiceGraph.hintText false) = some (.object (top ++ elements)) ∧
      ((top ++ elements).map Prod.fst).Nodup ∧ (elements.map Prod.fst).Perm ["a", "b", "item"] := by
  have hplain : ∀ n ∈ twiceGraph.keys, '\x7d' ∉ n.localName.toList ∧ n ≠ .plain topKey := by decide +kernel
  have htexts : twiceGraph.keys.map Name.text = ["a", "b", "item"] := by decide +kernel
  obtain ⟨top, elements, hread, -, -, -, hkeys⟩ := hintText_keys build_twice false
  obtain ⟨hnodup, heach⟩ := hkeys hplain
  exact ⟨build_twice, hplain, top, elements, hread, hnodup, htexts ▸ heach⟩

/-! ## Names that are not names -/

/-- Whether a declaration says nothing of its type, nor joins a substitution group. -/
def untyped (d : ElementDecl) : Bool :=
  match d.type, d.head with
  | .any, none => true
  | _, _ => false

theorem extract_untyped {d : ElementDecl} (hd : untyped d = true) (isTopLevel : Bool) :
    (s.extract d isTopLevel).result = .ok (.new d.name isTopLevel, []) := by
  obtain ⟨name, type, head, blocks⟩ := d
  have hparts : type = .any ∧ head = none := by
    unfold untyped at hd
    split at hd
    · rename_i htype hhead
      exact ⟨htype, hhead⟩
    · cases hd
  obtain ⟨rfl, rfl⟩ := hparts
  have hcontent : s.contentType ⟨name, .any, none, blocks⟩ = .ok (.complex .empty) := by
    rw [contentType, elementType_of_any rfl, inheritedType_none]
    rfl
  have hwalk : (s.walk .empty).result = .ok [] := by
    unfold walk walkTasks walkTasks
    rfl
  rw [result_extract]
  unfold extractBy
  rw [hcontent]
  show (do
    let declarations ← (s.walk .empty).result
    _) = _
  rw [hwalk]
  rfl

/-- A schema whose global elements say nothing of their types has a graph. -/
theorem exists_build_of_untyped (h : ∀ d ∈ s.elements.values, untyped d = true) :
    ∃ graph, s.build.result = .ok graph := by
  suffices hbuilds : ∀ (pending : List ElementDecl) (graph : ShapeGraph), (∀ d ∈ pending, untyped d = true) →
      ∃ final, s.Builds graph pending final by
    obtain ⟨graph, hgraph⟩ := hbuilds _ .empty h
    exact ⟨graph, result_build.2 hgraph⟩
  intro pending
  induction pending with
  | nil => exact fun graph _ => ⟨graph, .done⟩
  | cons d rest ih =>
    intro graph hall
    have hrest : ∀ d ∈ rest, untyped d = true := fun e he => hall e (List.mem_cons_of_mem _ he)
    by_cases hd : d.name ∈ graph.keys
    · obtain ⟨final, hfinal⟩ := ih graph hrest
      exact ⟨final, .skip hd hfinal⟩
    · obtain ⟨final, hfinal⟩ := ih _ hrest
      refine ⟨final, .shape hd (extract_untyped (hall d (List.mem_cons_self ..)) _) ?_⟩
      rw [List.append_nil]
      exact hfinal

/-- Elements that are called like the list of top-level elements, and like a name with its namespace. -/
def misnamed : FileTree := .ofFiles
  [("main.xsd", documentBytes "" ["<xs:import namespace='urn:x' schemaLocation='parts.xsd'/>",
      "<xs:element name='!top'/>", "<xs:element name='\x7burn:x\x7dpart'/>"]),
    ("parts.xsd", documentBytes "targetNamespace='urn:x'" ["<xs:element name='part'/>"])]

/-- The hints of a schema may have a key twice, and fewer keys than elements, since names are not checked to be
names. -/
theorem not_one_key_each :
    (¬∀ (files : Files) (options : Options) (path : Path) (s : Schema) (graph : ShapeGraph),
      (compileFile files options path).result = .ok s → s.build.result = .ok graph → ∀ indented,
        ∃ members, JsonValue.read? (graph.hintText indented) = some (.object members) ∧
          (members.map Prod.fst).Nodup) ∧
    ¬∀ (files : Files) (options : Options) (path : Path) (s : Schema) (graph : ShapeGraph),
      (compileFile files options path).result = .ok s → s.build.result = .ok graph → ∀ indented,
        ∃ top elements, JsonValue.read? (graph.hintText indented) = some (.object (top ++ elements)) ∧
          (top = [] ∨ ∃ v, top = [(topKey, v)]) ∧ (elements.map Prod.fst).Perm (graph.keys.map Name.text) := by
  obtain ⟨files, hfiles⟩ : ∃ files, files = misnamed.toFiles := ⟨_, rfl⟩
  have hcomputed : (compiledWithin files .standard (.ofString "main.xsd") 1).map
      (fun s => (s.elements.keys, s.elements.values.all untyped)) =
      some ([.plain topKey, .plain "\x7burn:x\x7dpart", ⟨"urn:x", "part"⟩], true) := by
    rw [hfiles]
    decide +kernel
  obtain ⟨s, hcompiled, htables⟩ := exists_compileFile hcomputed
  obtain ⟨hkeys, huntyped⟩ := Prod.mk.inj htables
  obtain ⟨graph, hgraph⟩ := exists_build_of_untyped (List.all_eq_true.1 huntyped)
  obtain ⟨record, hp⟩ := record_of_build hgraph
  have hglobal := hp.global_prefix
  rw [hkeys] at hglobal
  obtain ⟨top, elements, hread, hkeyed⟩ := exists_keyedByText hgraph false
  constructor
  · intro hall
    obtain ⟨members, hread', hnodup⟩ := hall files .standard _ s graph hcompiled hgraph false
    rw [hread] at hread'
    cases hread'
    exact hkeyed.nodup_iff.1 hnodup _ (hglobal.subset (List.mem_cons_self ..)) rfl
  · intro hall
    obtain ⟨top', elements', hread', -, hperm⟩ := hall files .standard _ s graph hcompiled hgraph false
    rw [hread] at hread'
    have hmembers : top ++ elements = top' ++ elements' := JsonValue.object.inj (Option.some.inj hread')
    -- two of the elements have this text, and only one of the members has it for a key
    have hone : ((top ++ elements).map Prod.fst).count "\x7burn:x\x7dpart" ≤ 1 := hkeyed.count_le_one (by decide)
    have htwo := (hglobal.sublist.map Name.text).count_le "\x7burn:x\x7dpart"
    have hcount : ([.plain topKey, .plain "\x7burn:x\x7dpart", ⟨"urn:x", "part"⟩].map Name.text).count
        "\x7burn:x\x7dpart" = 2 := by
      decide +kernel
    rw [hcount] at htwo
    rw [hmembers, List.map_append, List.count_append, hperm.count_eq] at hone
    omega

end Schema

end SchemaHints
