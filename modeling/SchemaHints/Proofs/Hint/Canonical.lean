/-
The text of the hints as a canonical form. Two tidy graphs have the same text exactly when they have the same
elements, attributes, children and values, in whatever order these were inserted. The text determines the
hints, since it is read as them; and at each level the hints are a sort by different texts, which forgets the
order of what it sorts and nothing else.
-/
import SchemaHints.Proofs.Hint.Members
import Mathlib.Data.List.Perm.Subperm

namespace SchemaHints

open Text

/-! ## The same in another order -/

theorem Distinct.sameMembers_iff_perm {α : Type} [DecidableEq α] {s t : Distinct α} :
    s.sameMembers t = true ↔ s.toList.Perm t.toList := by
  rw [List.perm_ext_iff_of_nodup s.nodup t.nodup]
  simp only [sameMembers, contains, Bool.and_eq_true, List.all_eq_true, decide_eq_true_eq]
  constructor
  · rintro ⟨hst, hts⟩ a
    exact ⟨hst a, hts a⟩
  · intro h
    exact ⟨fun a => (h a).1, fun a => (h a).2⟩

/-- Names without braces are rearranged exactly when their texts are. -/
theorem Distinct.perm_map_text_iff {s t : Distinct Name} (hs : ∀ n ∈ s.toList, n.Unbraced)
    (ht : ∀ n ∈ t.toList, n.Unbraced) :
    (s.toList.map Name.text).Perm (t.toList.map Name.text) ↔ s.toList.Perm t.toList := by
  refine ⟨fun h => ?_, fun h => h.map _⟩
  rw [List.perm_ext_iff_of_nodup s.nodup t.nodup]
  intro n
  constructor
  · intro hn
    obtain ⟨m, hm, htext⟩ := List.mem_map.1 (h.mem_iff.1 (List.mem_map_of_mem hn))
    exact (ht m hm).text_inj (hs n hn) htext ▸ hm
  · intro hn
    obtain ⟨m, hm, htext⟩ := List.mem_map.1 (h.mem_iff.2 (List.mem_map_of_mem hn))
    exact (hs m hm).text_inj (ht n hn) htext ▸ hm

namespace Keyed

variable {α β : Type} {t u : Keyed Name α} {f : α → β}

/-- What stands under different names stands under different texts. -/
theorem nodup_map_text (ht : ∀ k ∈ t.keys, k.Unbraced) : (t.entries.map fun x => (x.1.text, f x.2)).Nodup := by
  refine List.Nodup.map_on (fun x hx y hy h => ?_) (List.Nodup.of_map _ t.nodup)
  obtain ⟨htext, -⟩ := Prod.mk.inj h
  have hkey : x.1 = y.1 := (ht _ (List.mem_map_of_mem hx)).text_inj (ht _ (List.mem_map_of_mem hy)) htext
  exact List.inj_on_of_nodup_map t.nodup hx hy hkey

/-- Two tables are the same in another order exactly when what `f` takes from them, each under its text, is
rearranged; where `f` takes what `same` looks at. -/
theorem same_iff_perm {same : α → α → Bool} (ht : ∀ k ∈ t.keys, k.Unbraced) (hu : ∀ k ∈ u.keys, k.Unbraced)
    (hsame : ∀ k a b, (k, a) ∈ t.entries → (k, b) ∈ u.entries → (same a b = true ↔ f a = f b)) :
    t.same same u = true ↔
      (t.entries.map fun x => (x.1.text, f x.2)).Perm (u.entries.map fun x => (x.1.text, f x.2)) := by
  simp only [Keyed.same, Bool.and_eq_true, List.all_eq_true, Option.any_eq_true]
  constructor
  · rintro ⟨hsize, hall⟩
    have hlength : t.entries.length = u.entries.length := of_decide_eq_true hsize
    have hsub : (t.entries.map fun x => (x.1.text, f x.2)) ⊆ u.entries.map fun x => (x.1.text, f x.2) := by
      intro p hp
      obtain ⟨⟨k, a⟩, ha, rfl⟩ := List.mem_map.1 hp
      obtain ⟨b, hget, heq⟩ := hall (k, a) ha
      have hb : (k, b) ∈ u.entries := get?_eq_some_iff.1 hget
      exact List.mem_map.2 ⟨(k, b), hb, by rw [(hsame k a b ha hb).1 heq]⟩
    -- as many different members on both sides, so those of the one are all of the other
    refine (List.subperm_of_subset (nodup_map_text ht) hsub).perm_of_length_le ?_
    rw [List.length_map, List.length_map]
    exact Nat.le_of_eq hlength.symm
  · intro hperm
    have hlength := hperm.length_eq
    rw [List.length_map, List.length_map] at hlength
    refine ⟨decide_eq_true hlength, ?_⟩
    rintro ⟨k, a⟩ ha
    obtain ⟨⟨l, b⟩, hb, hpair⟩ := List.mem_map.1 (hperm.mem_iff.1 (List.mem_map_of_mem ha))
    obtain ⟨htext, hval⟩ := Prod.mk.inj hpair
    have hkey : l = k := (hu l (List.mem_map_of_mem hb)).text_inj (ht k (List.mem_map_of_mem ha)) htext
    subst hkey
    exact ⟨b, get?_eq_some_iff.2 hb, (hsame l a b ha hb).2 hval.symm⟩

/-- What stands under its own name may be listed without the key. -/
theorem map_text_entries {name : α → Name} (hnamed : ∀ x ∈ t.entries, name x.2 = x.1) :
    (t.entries.map fun x => (x.1.text, f x.2)) = t.values.map fun a => ((name a).text, f a) := by
  rw [values, List.map_map]
  refine List.map_congr_left fun x hx => ?_
  rw [Function.comp_apply, hnamed x hx]

theorem unbraced_keys {name : α → Name} (hnamed : ∀ x ∈ t.entries, name x.2 = x.1)
    (hunbraced : ∀ a ∈ t.values, (name a).Unbraced) : ∀ k ∈ t.keys, k.Unbraced := by
  intro k hk
  obtain ⟨x, hx, rfl⟩ := List.mem_map.1 hk
  rw [← hnamed x hx]
  exact hunbraced x.2 (List.mem_map_of_mem hx)

end Keyed

/-! ## Sections -/

theorem Json.texts_inj {ss ts : List String} : Json.texts ss = Json.texts ts ↔ ss = ts := by
  unfold Json.texts
  rw [Json.list.injEq]
  exact (List.map_injective_iff.2 fun _ _ h => Json.text.inj h).eq_iff

/-- Two sections that are left out when they are empty can be told apart by their keys. -/
theorem Json.sections_inj {as bs : List (String × Json)} {cs ds : List String} :
    memberUnless as.isEmpty "attrs" (.object as) ++ memberUnless cs.isEmpty "children" (.texts cs) =
      memberUnless bs.isEmpty "attrs" (.object bs) ++ memberUnless ds.isEmpty "children" (.texts ds) ↔
        as = bs ∧ cs = ds := by
  cases as <;> cases bs <;> cases cs <;> cases ds <;> simp [memberUnless, Json.texts_inj]

/-! ## Attributes and elements -/

theorem AttributeShape.hint_eq_iff {a b : AttributeShape} :
    a.hint = b.hint ↔ a.values.sameMembers b.values = true := by
  have hn : (a.values.toList.map id).Nodup := by
    rw [List.map_id]
    exact a.values.nodup
  rw [Distinct.sameMembers_iff_perm]
  unfold hint isFreeText
  by_cases ha : a.values.toList = [] <;> by_cases hb : b.values.toList = []
  · simp [ha, hb]
  · simp [ha, hb, Json.texts]
  · simp [ha, hb, Json.texts]
  · rw [if_neg (by simpa using ha), if_neg (by simpa using hb), Json.texts_inj, sortBy_eq_iff hn]

theorem ElementShape.attributeMembers_eq_iff {e f : ElementShape} (he : e.Unbraced) (hf : f.Unbraced) :
    e.attributeMembers = f.attributeMembers ↔ e.attributes.same AttributeShape.same f.attributes = true := by
  have hsame : ∀ k a b, (k, a) ∈ e.attributes.entries → (k, b) ∈ f.attributes.entries →
      (AttributeShape.same a b = true ↔ a.hint = b.hint) := by
    intro k a b ha hb
    have hname : a.name = b.name := (e.attributesNamed _ ha).trans (f.attributesNamed _ hb).symm
    rw [AttributeShape.hint_eq_iff, AttributeShape.same, decide_eq_true hname, Bool.true_and]
  have hn : ((e.attributes.values.map fun a => (a.name.text, a.hint)).map Prod.fst).Nodup := by
    rw [List.map_map]
    exact he.nodup_attributes
  rw [Keyed.same_iff_perm (Keyed.unbraced_keys e.attributesNamed he.attributes)
    (Keyed.unbraced_keys f.attributesNamed hf.attributes) hsame, Keyed.map_text_entries e.attributesNamed,
    Keyed.map_text_entries f.attributesNamed]
  exact sortBy_eq_iff hn

theorem ElementShape.childTexts_eq_iff {e f : ElementShape} (he : e.Unbraced) (hf : f.Unbraced) :
    e.childTexts = f.childTexts ↔ e.children.sameMembers f.children = true := by
  have hn : ((e.children.toList.map Name.text).map id).Nodup := by
    rw [List.map_id]
    exact he.nodup_children
  rw [Distinct.sameMembers_iff_perm, ← Distinct.perm_map_text_iff he.children hf.children]
  exact sortBy_eq_iff hn

/-- The hints of an element say all but its name and its rank. -/
theorem ElementShape.same_iff {e f : ElementShape} (he : e.Unbraced) (hf : f.Unbraced) :
    e.same f = true ↔ e.name = f.name ∧ e.isTopLevel = f.isTopLevel ∧ e.hint = f.hint := by
  have hhint : e.hint = f.hint ↔ e.attributes.same AttributeShape.same f.attributes = true ∧
      e.children.sameMembers f.children = true := by
    rw [hint_eq he, hint_eq hf, Json.object.injEq, Json.sections_inj, attributeMembers_eq_iff he hf,
      childTexts_eq_iff he hf]
  rw [hhint]
  simp only [same, Bool.and_eq_true, decide_eq_true_eq]
  constructor
  · rintro ⟨⟨⟨hname, htop⟩, hchildren⟩, hattributes⟩
    exact ⟨hname, htop, hattributes, hchildren⟩
  · rintro ⟨hname, htop, hattributes, hchildren⟩
    exact ⟨⟨⟨hname, htop⟩, hchildren⟩, hattributes⟩

/-! ## Graphs -/

/-- An element with its rank and its hints, under its text. -/
def ElementShape.ranked (e : ElementShape) : String × Bool × Json := (e.name.text, e.isTopLevel, e.hint)

namespace ShapeGraph

/-- The elements of a graph in order, each with its rank and its hints. -/
def rankedMembers (g : ShapeGraph) : List (String × Bool × Json) :=
  sortBy compareText Prod.fst (g.values.map ElementShape.ranked)

theorem nodup_ranked {g : ShapeGraph} (h : g.Tidy) : ((g.values.map ElementShape.ranked).map Prod.fst).Nodup := by
  rw [List.map_map]
  exact h.nodup_elements

theorem same_iff_rankedMembers {g h : ShapeGraph} (hg : g.Tidy) (hh : h.Tidy) :
    g.same h = true ↔ g.rankedMembers = h.rankedMembers := by
  have hsame : ∀ k e f, (k, e) ∈ g.entries → (k, f) ∈ h.entries →
      (ElementShape.same e f = true ↔ (e.isTopLevel, e.hint) = (f.isTopLevel, f.hint)) := by
    intro k e f he hf
    have hname : e.name = f.name := (hg.named _ he).trans (hh.named _ hf).symm
    rw [ElementShape.same_iff (hg.unbraced e (List.mem_map_of_mem he)) (hh.unbraced f (List.mem_map_of_mem hf)),
      Prod.mk.injEq]
    exact and_iff_right hname
  have hgkeys : ∀ k ∈ g.keys, k.Unbraced := Keyed.unbraced_keys hg.named fun e he => (hg.unbraced e he).name
  have hhkeys : ∀ k ∈ h.keys, k.Unbraced := Keyed.unbraced_keys hh.named fun e he => (hh.unbraced e he).name
  unfold ShapeGraph.same
  rw [Keyed.same_iff_perm (f := fun e => (e.isTopLevel, e.hint)) hgkeys hhkeys hsame]
  rw [Keyed.map_text_entries (f := fun e => (e.isTopLevel, e.hint)) hg.named,
    Keyed.map_text_entries (f := fun e => (e.isTopLevel, e.hint)) hh.named]
  exact (sortBy_eq_iff (nodup_ranked hg)).symm

theorem elementMembers_eq (g : ShapeGraph) : g.elementMembers = g.rankedMembers.map fun m => (m.1, m.2.2) := by
  have hsorted : (g.rankedMembers.map fun m => (m.1, m.2.2)) = sortBy compareText Prod.fst
      ((g.values.map ElementShape.ranked).map fun m => (m.1, m.2.2)) :=
    map_sortBy (fun m : String × Bool × Json => (m.1, m.2.2)) fun _ => rfl
  rw [hsorted, List.map_map]
  rfl

theorem topTexts_eq (g : ShapeGraph) : g.topTexts = (g.rankedMembers.filter (·.2.1)).map Prod.fst := by
  have hranked : (sortBy compareText (·.name.text) g.values).map ElementShape.ranked = g.rankedMembers :=
    map_sortBy ElementShape.ranked fun _ => rfl
  rw [← hranked, List.filter_map, List.map_map]
  rfl

/-- The rank of an element is whether it is listed at the top. -/
theorem rankedMembers_eq {g : ShapeGraph} (h : g.Tidy) :
    g.rankedMembers = g.elementMembers.map fun m => (m.1, decide (m.1 ∈ g.topTexts), m.2) := by
  have hn : (g.rankedMembers.map Prod.fst).Nodup := (perm_sortBy.map Prod.fst).nodup_iff.2 (nodup_ranked h)
  rw [elementMembers_eq, topTexts_eq, List.map_map]
  refine (List.map_id _).symm.trans (List.map_congr_left fun m hm => ?_)
  have hrank : m.1 ∈ (g.rankedMembers.filter (·.2.1)).map Prod.fst ↔ m.2.1 = true := by
    constructor
    · intro hmem
      obtain ⟨m', hm', hkey⟩ := List.mem_map.1 hmem
      obtain ⟨hm', htop⟩ := List.mem_filter.1 hm'
      exact List.inj_on_of_nodup_map hn hm' hm hkey ▸ htop
    · intro htop
      exact List.mem_map_of_mem (List.mem_filter.2 ⟨hm, htop⟩)
  simp only [Function.comp_apply, hrank, Bool.decide_eq_true, id]

theorem rankedMembers_eq_iff {g h : ShapeGraph} (hg : g.Tidy) (hh : h.Tidy) :
    g.rankedMembers = h.rankedMembers ↔ g.topTexts = h.topTexts ∧ g.elementMembers = h.elementMembers := by
  constructor
  · intro heq
    rw [topTexts_eq, topTexts_eq, elementMembers_eq, elementMembers_eq, heq]
    exact ⟨rfl, rfl⟩
  · rintro ⟨htop, helements⟩
    rw [rankedMembers_eq hg, rankedMembers_eq hh, htop, helements]

theorem exists_object_of_mem {g : ShapeGraph} {m : String × Json} (h : m ∈ g.elementMembers) :
    ∃ members, m.2 = .object members := by
  obtain ⟨e, -, rfl⟩ := List.mem_map.1 (perm_sortBy.mem_iff.1 h)
  exact ⟨_, rfl⟩

/-- The list of top-level elements is told from an element by its value, even if their keys are equal. -/
theorem members_inj {g h : ShapeGraph} :
    Json.memberUnless g.topTexts.isEmpty topKey (.texts g.topTexts) ++ g.elementMembers =
      Json.memberUnless h.topTexts.isEmpty topKey (.texts h.topTexts) ++ h.elementMembers ↔
        g.topTexts = h.topTexts ∧ g.elementMembers = h.elementMembers := by
  have hobject : ∀ (g : ShapeGraph) (ss : List String), (topKey, Json.texts ss) ∉ g.elementMembers := by
    intro g ss hmem
    obtain ⟨_, hobject⟩ := exists_object_of_mem hmem
    cases hobject
  refine ⟨fun heq => ?_, fun ⟨htop, helements⟩ => by rw [htop, helements]⟩
  -- if only one graph has top-level elements, their list stands where the other has an element
  cases hg : g.topTexts with
  | nil =>
    cases hh : h.topTexts with
    | nil =>
      rw [hg, hh] at heq
      exact ⟨rfl, heq⟩
    | cons t ts =>
      rw [hg, hh] at heq
      have hmem : g.elementMembers = (topKey, Json.texts (t :: ts)) :: h.elementMembers := heq
      exact absurd (hmem ▸ List.mem_cons_self ..) (hobject g (t :: ts))
  | cons t ts =>
    cases hh : h.topTexts with
    | nil =>
      rw [hg, hh] at heq
      have hmem : h.elementMembers = (topKey, Json.texts (t :: ts)) :: g.elementMembers := heq.symm
      exact absurd (hmem ▸ List.mem_cons_self ..) (hobject h (t :: ts))
    | cons t' ts' =>
      rw [hg, hh] at heq
      obtain ⟨hmember, helements⟩ := List.cons.inj heq
      exact ⟨Json.texts_inj.1 (Prod.mk.inj hmember).2, helements⟩

/-- Either text determines the hints. -/
theorem hint_eq_of_hintText {g h : ShapeGraph} {indented : Bool} (heq : g.hintText indented = h.hintText indented) :
    ShapeGraph.hint g = ShapeGraph.hint h := by
  have hg := g.read?_hintText indented
  rw [heq, h.read?_hintText indented] at hg
  exact Json.value_inj _ _ (Option.some.inj hg).symm

/-- The hints of two tidy graphs have the same text, compact or indented, exactly when the graphs are the same
in whatever order. -/
theorem hintText_eq_iff_same (g h : ShapeGraph) (hg : g.Tidy) (hh : h.Tidy) (indented : Bool) :
    g.hintText indented = h.hintText indented ↔ g.same h = true := by
  have hhint : ShapeGraph.hint g = ShapeGraph.hint h ↔ g.same h = true := by
    rw [hint_eq hg, hint_eq hh, Json.object.injEq, members_inj, ← rankedMembers_eq_iff hg hh,
      same_iff_rankedMembers hg hh]
  rw [← hhint]
  refine ⟨hint_eq_of_hintText, fun heq => ?_⟩
  unfold hintText
  rw [heq]

/-- A book with its title and author, all of it in one order of insertion or in the other. -/
def shelf (turned : Bool) : ShapeGraph :=
  let inOrder {α : Type} (a b : α) : List α := if turned then [b, a] else [a, b]
  let title : Name := ⟨"urn:\x7bx\x7d", "title"⟩
  let author : Name := ⟨"", "author"⟩
  let lang : AttributeShape := ⟨.plain "lang", .ofList (inOrder "de" "DE")⟩
  let book := (inOrder title author).foldl ElementShape.addChild
    ((inOrder lang (.new (.plain "id"))).foldl ElementShape.addAttribute (.new (.plain "book") true))
  .ofList (inOrder (book.name, book) (title, .new title false))

theorem shelf_hintText_eq :
    (shelf false).Tidy ∧ (shelf true).Tidy ∧ shelf false ≠ shelf true ∧ (shelf false).same (shelf true) = true ∧
      (shelf false).hintText false = (shelf true).hintText false := by
  have hstraight : (shelf false).Tidy := by decide +kernel
  have hturned : (shelf true).Tidy := by decide +kernel
  have hsame : (shelf false).same (shelf true) = true := by decide +kernel
  exact ⟨hstraight, hturned, by decide +kernel, hsame,
    (hintText_eq_iff_same _ _ hstraight hturned false).2 hsame⟩

end ShapeGraph

end SchemaHints
