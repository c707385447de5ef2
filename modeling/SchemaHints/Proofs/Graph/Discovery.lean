/-
The order of discovery. The declarations that a build announces, the global elements and after them
the children of each shape in its turn, are the same list that it takes up, and of each name it keeps
the first. So the keys of a shape graph are told by the graph itself, and where the shape of a name
comes from is told by the first element that has a child of that name.

A build tells the rank of an element by counting. That gives the global elements, because they are
announced before all others and no two have the same name.
-/
import SchemaHints.Shape.Build
import Mathlib.Tactic

namespace SchemaHints.Schema

/-! ## The steps of a build -/

/-- From a graph and the declarations pending, the steps of a build lead to a final graph. -/
inductive Builds (s : Schema) : ShapeGraph → List ElementDecl → ShapeGraph → Prop
  | done {graph : ShapeGraph} : Builds s graph [] graph
  | skip {graph final : ShapeGraph} {d : ElementDecl} {rest : List ElementDecl} :
    d.name ∈ graph.keys → Builds s graph rest final → Builds s graph (d :: rest) final
  | shape {graph final : ShapeGraph} {d : ElementDecl} {rest children : List ElementDecl}
    {shape : ElementShape} :
    d.name ∉ graph.keys → (s.extract d (graph.size < s.elements.size)).result = .ok (shape, children) →
      Builds s (graph.insert shape.name shape) (rest ++ children) final → Builds s graph (d :: rest) final

theorem result_extractNext (s : Schema) (count : Nat) (graph : ShapeGraph) (d : ElementDecl) :
    (s.extractNext count graph d).result = (s.extract d (graph.size < count)).result := rfl

theorem result_buildFrom {s : Schema} {graph final : ShapeGraph} {pending : List ElementDecl}
    (hp : s.CoversAll pending) :
    (s.buildFrom s.elements.size graph pending hp).result = .ok final ↔ s.Builds graph pending final := by
  fun_induction buildFrom s s.elements.size graph pending hp with
  | case1 graph =>
    constructor
    · intro h
      cases h
      exact .done
    · intro h
      cases h
      rfl
  | case2 graph d rest hp hd hp' ih =>
    rw [ih]
    constructor
    · exact .skip hd
    · intro h
      cases h with
      | skip _ h => exact h
      | shape hn => exact absurd hd hn
  | case3 graph d rest hp hd step reason hstep =>
    constructor
    · nofun
    · intro h
      cases h with
      | skip hn => exact absurd hn hd
      | shape _ he =>
        rw [← result_extractNext] at he
        cases hstep.symm.trans he
  | case4 graph d rest hp hd step shape children hstep more =>
    rename_i ih
    rw [ih]
    constructor
    · exact .shape hd hstep
    · intro h
      cases h with
      | skip hn => exact absurd hn hd
      | shape _ he h =>
        rw [← result_extractNext] at he
        cases hstep.symm.trans he
        exact h

/-- A build succeeds exactly by steps from the global elements to the graph. -/
theorem result_build {s : Schema} {graph : ShapeGraph} :
    s.build.result = .ok graph ↔ s.Builds .empty s.elements.values graph :=
  result_buildFrom _

/-! ## The record of a build -/

/-- An element that has been taken up: its declaration, its shape, and the declarations of its children. -/
structure Discovery where
  declaration : ElementDecl
  shape : ElementShape
  children : List ElementDecl

namespace Discovery

/-- The name of the element. -/
def name (t : Discovery) : Name := t.declaration.name

/-- What a shape graph holds of the element. -/
def entry (t : Discovery) : Name × ElementShape := (t.name, t.shape)

end Discovery

/-- The declarations announced once some elements have been taken up. -/
def announced (s : Schema) (record : List Discovery) : List ElementDecl :=
  s.elements.values ++ record.flatMap (·.children)

theorem announced_append (s : Schema) (record : List Discovery) (t : Discovery) :
    s.announced (record ++ [t]) = s.announced record ++ t.children := by
  simp [announced]

theorem firstOfEachName_elements_append (s : Schema) (ds : List ElementDecl) :
    firstOfEachName [] (s.elements.values ++ ds) =
      s.elements.values ++ firstOfEachName (s.elements.keys ++ []) ds := by
  rw [firstOfEachName_append, firstOfEachName_eq_self (nodup_name_elements s) (by simp), map_name_elements]

/-- A build that has taken up the declarations in `taken` and has those in `pending` before it. -/
structure Progress (s : Schema) (graph : ShapeGraph) (taken pending : List ElementDecl)
    (record : List Discovery) : Prop where
  entries : graph.entries = record.map Discovery.entry
  queue : taken ++ pending = s.announced record
  fresh : record.map (·.declaration) = firstOfEachName [] taken
  shaped : ∀ t ∈ record, (s.extract t.declaration (t.name ∈ s.elements.keys)).result = .ok (t.shape, t.children)
  first : ∀ before t, before ++ [t] <+: record →
    (s.announced before).find? (·.name = t.name) = some t.declaration

namespace Progress

variable {s : Schema} {graph : ShapeGraph} {taken pending : List ElementDecl} {record : List Discovery}

theorem start (s : Schema) : s.Progress .empty [] s.elements.values [] where
  entries := rfl
  queue := by simp [announced]
  fresh := rfl
  shaped := fun _ h => absurd h List.not_mem_nil
  first := fun before t h => by simp at h

theorem keys (h : s.Progress graph taken pending record) : graph.keys = record.map Discovery.name := by
  rw [Keyed.keys, h.entries, List.map_map]
  rfl

/-- The keys of the graph are the names taken up. -/
theorem keys_eq_eraseDups (h : s.Progress graph taken pending record) :
    graph.keys = (taken.map (·.name)).eraseDups := by
  rw [h.keys, ← names_firstOfEachName, ← h.fresh, List.map_map]
  rfl

theorem mem_keys (h : s.Progress graph taken pending record) {n : Name} :
    n ∈ graph.keys ↔ n ∈ taken.map (·.name) := by
  rw [h.keys_eq_eraseDups, List.mem_eraseDups]

theorem size (h : s.Progress graph taken pending record) :
    graph.size = (firstOfEachName [] taken).length := by
  rw [Keyed.size, h.entries, ← h.fresh, List.length_map, List.length_map]

/-- The declaration that comes next is a global element, or all of these have been taken up. -/
theorem queue_cases {d : ElementDecl} {rest : List ElementDecl}
    (h : s.Progress graph taken (d :: rest) record) :
    (∃ others, s.elements.values = taken ++ d :: others) ∨ ∃ others, taken = s.elements.values ++ others := by
  rcases List.append_eq_append_iff.1 h.queue with ⟨others, hglobal, hothers⟩ | ⟨others, htaken, -⟩
  · cases others with
    | nil => exact .inr ⟨[], by simpa using hglobal.symm⟩
    | cons e others =>
      obtain ⟨rfl, -⟩ := List.cons.inj hothers
      exact .inl ⟨others, hglobal⟩
  · exact .inr ⟨others, htaken⟩

/-- The count tells the rank: all of the global elements are taken up before any other. -/
theorem size_lt_iff {d : ElementDecl} {rest : List ElementDecl}
    (h : s.Progress graph taken (d :: rest) record) (hd : d.name ∉ graph.keys) :
    graph.size < s.elements.size ↔ d.name ∈ s.elements.keys := by
  have hlength : s.elements.size = s.elements.values.length := (List.length_map ..).symm
  rw [h.size, hlength, ← map_name_elements]
  rcases h.queue_cases with ⟨others, hglobal⟩ | ⟨others, htaken⟩
  -- so far only global elements were taken up, each for the first time, and `d` is one more
  · have htaken : (taken.map (·.name)).Nodup := by
      have hnames := nodup_name_elements s
      rw [hglobal, List.map_append] at hnames
      exact (List.nodup_append.1 hnames).1
    rw [hglobal, firstOfEachName_eq_self htaken (by simp)]
    simp
  -- the graph has all of the global elements, and `d` is a new name
  · have hnot : d.name ∉ s.elements.values.map (·.name) := by
      intro hm
      refine hd (h.mem_keys.2 ?_)
      rw [htaken, List.map_append]
      exact List.mem_append_left _ hm
    refine iff_of_false ?_ hnot
    rw [htaken, firstOfEachName_elements_append, List.length_append]
    omega

/-- A declaration whose name is taken changes nothing. -/
theorem skip {d : ElementDecl} {rest : List ElementDecl} (h : s.Progress graph taken (d :: rest) record)
    (hd : d.name ∈ graph.keys) : s.Progress graph (taken ++ [d]) rest record where
  entries := h.entries
  queue := by rw [List.append_assoc]; exact h.queue
  fresh := by
    have hd' : firstOfEachName (taken.map (·.name) ++ []) [d] = [] := by
      refine firstOfEachName_eq_nil fun e he => ?_
      rw [List.mem_singleton.1 he, List.append_nil]
      exact h.mem_keys.1 hd
    rw [h.fresh, firstOfEachName_append, hd', List.append_nil]
  shaped := h.shaped
  first := h.first

/-- The first declaration of a name is taken up with its children. -/
theorem shape {d : ElementDecl} {rest children : List ElementDecl} {shape : ElementShape}
    (h : s.Progress graph taken (d :: rest) record) (hd : d.name ∉ graph.keys)
    (he : (s.extract d (graph.size < s.elements.size)).result = .ok (shape, children)) :
    s.Progress (graph.insert shape.name shape) (taken ++ [d]) (rest ++ children)
      (record ++ [⟨d, shape, children⟩]) where
  entries := by
    rw [(extract_shape he).1, Keyed.entries_insert_of_not_mem hd, h.entries, List.map_append]
    rfl
  queue := by
    rw [announced_append, ← h.queue]
    simp
  fresh := by
    rw [List.map_append, h.fresh, firstOfEachName_append]
    congr 1
    refine (firstOfEachName_eq_self (by simp) fun e hm => ?_).symm
    rw [List.mem_singleton.1 hm, List.append_nil]
    exact fun hm => hd (h.mem_keys.2 hm)
  shaped := by
    intro t ht
    rcases List.mem_append.1 ht with ht | ht
    · exact h.shaped t ht
    · rw [List.mem_singleton.1 ht, ← he]
      simp only [Discovery.name, h.size_lt_iff hd]
      rfl
  first := by
    intro before t hb
    -- the new entry comes last; nothing that was announced before `d` has its name
    rcases List.prefix_concat_iff.1 hb with hb | hb
    · obtain ⟨rfl, ht⟩ := List.append_inj' hb rfl
      obtain rfl := List.singleton_inj.1 ht
      have hnone : taken.find? (·.name = d.name) = none := by
        rw [List.find?_eq_none]
        intro e hm hn
        refine hd (h.mem_keys.2 ?_)
        rw [← of_decide_eq_true hn]
        exact List.mem_map_of_mem hm
      rw [← h.queue, List.find?_append, Discovery.name, hnone, List.find?_cons_of_pos (by simp)]
      rfl
    · exact h.first before t hb

theorem found (h : s.Progress graph taken pending record) {before after : List Discovery} {t : Discovery}
    (hr : record = before ++ t :: after) :
    (s.announced before).find? (·.name = t.name) = some t.declaration :=
  h.first before t ⟨after, by rw [hr, List.append_assoc]; rfl⟩

/-- A global element is taken up by its own declaration. -/
theorem declaration_eq (h : s.Progress graph taken pending record) {t : Discovery} (ht : t ∈ record)
    {d : ElementDecl} (hd : s.elements.get? t.name = some d) : t.declaration = d := by
  obtain ⟨before, after, hr⟩ := List.append_of_mem ht
  have hfirst := h.found hr
  rw [announced, List.find?_append, find?_elements, hd, Option.some_or] at hfirst
  exact (Option.some.inj hfirst).symm

/-- Every step keeps the record, so a build that comes to its end has one. -/
theorem run {final : ShapeGraph} (h : s.Progress graph taken pending record)
    (hb : s.Builds graph pending final) : ∃ taken' record', s.Progress final taken' [] record' := by
  induction hb generalizing taken record with
  | done => exact ⟨taken, record, h⟩
  | skip hd _ ih => exact ih (h.skip hd)
  | shape hd he _ ih => exact ih (h.shape hd he)

end Progress

/-! ## Children in the graph -/

/-- An element of a graph that has children of a name. -/
def HasChild (graph : ShapeGraph) (m n : Name) : Prop :=
  ∃ shape, graph.get? m = some shape ∧ n ∈ shape.children.toList

/-- The first element of a graph that has children of a name, where the name comes after it. -/
def FirstParent (graph : ShapeGraph) (m n : Name) : Prop :=
  ∃ before after, graph.keys = before ++ m :: after ∧ n ∈ after ∧ HasChild graph m n ∧
    ∀ k ∈ before, ¬ HasChild graph k n

namespace Progress

variable {s : Schema} {graph : ShapeGraph} {taken pending : List ElementDecl} {record : List Discovery}

theorem get?_eq_some_iff (h : s.Progress graph taken pending record) {n : Name} {shape : ElementShape} :
    graph.get? n = some shape ↔ ∃ t ∈ record, t.name = n ∧ t.shape = shape := by
  rw [Keyed.get?_eq_some_iff, h.entries, List.mem_map]
  simp only [Discovery.entry, Prod.mk.injEq]

theorem hasChild_iff (h : s.Progress graph taken pending record) {t : Discovery} (ht : t ∈ record) {n : Name} :
    HasChild graph t.name n ↔ n ∈ t.children.map (·.name) := by
  rw [← (extract_shape (h.shaped t ht)).2.2]
  constructor
  · rintro ⟨shape, hs, hn⟩
    rw [h.get?_eq_some_iff.2 ⟨t, ht, rfl, rfl⟩] at hs
    cases hs
    exact hn
  · intro hn
    exact ⟨t.shape, h.get?_eq_some_iff.2 ⟨t, ht, rfl, rfl⟩, hn⟩

/-- The children that the graph shows are those that were announced. -/
theorem flatMap_children (h : s.Progress graph taken pending record) :
    graph.values.flatMap (·.children.toList) = (record.flatMap (·.children)).map (·.name) := by
  rw [Keyed.values, h.entries, List.map_map, List.flatMap_map, List.map_flatMap]
  exact List.flatMap_congr fun t ht => (extract_shape (h.shaped t ht)).2.2

theorem map_name_announced (h : s.Progress graph taken pending record) :
    (s.announced record).map (·.name) = s.elements.keys ++ graph.values.flatMap (·.children.toList) := by
  rw [announced, List.map_append, map_name_elements, h.flatMap_children]

/-- A name that no global element has is announced first by the first element with such a child. -/
theorem firstParent (h : s.Progress graph taken pending record) {before after : List Discovery} {t : Discovery}
    (hr : record = before ++ t :: after) (hn : t.name ∉ s.elements.keys) :
    ∃ p ∈ before, FirstParent graph p.name t.name ∧
      p.children.find? (·.name = t.name) = some t.declaration := by
  have hfirst := h.found hr
  rw [announced, List.find?_append, find?_elements, Keyed.get?_eq_none_iff.2 hn, Option.none_or,
    List.find?_flatMap, List.findSome?_eq_some_iff] at hfirst
  -- `p` is the first that announces the name, and those in `earlier` do not
  obtain ⟨earlier, p, later, rfl, hp, hearlier⟩ := hfirst
  have hmem : ∀ x ∈ earlier ++ p :: later, x ∈ record := fun x hx => hr ▸ List.mem_append_left _ hx
  have hpm : p ∈ earlier ++ p :: later := List.mem_append_right _ (List.mem_cons_self ..)
  refine ⟨p, hpm, ⟨earlier.map Discovery.name, (later ++ t :: after).map Discovery.name, ?_, ?_, ?_, ?_⟩, hp⟩
  · rw [h.keys, hr]
    simp
  · simp
  · rw [h.hasChild_iff (hmem p hpm)]
    exact List.mem_map.2 ⟨t.declaration, List.mem_of_find?_eq_some hp, rfl⟩
  · intro k hk hchild
    obtain ⟨x, hx, rfl⟩ := List.mem_map.1 hk
    rw [h.hasChild_iff (hmem x (List.mem_append_left _ hx))] at hchild
    obtain ⟨d, hd, he⟩ := List.mem_map.1 hchild
    exact List.find?_eq_none.1 (hearlier x hx) d hd (decide_eq_true he)

/-- The elements taken up, under their names. -/
def table (h : s.Progress graph taken pending record) : Keyed Name Discovery :=
  ⟨record.map fun t => (t.name, t), by rw [List.map_map]; exact h.keys ▸ graph.nodup⟩

/-- The declarations announced as children of a name. -/
def children (h : s.Progress graph taken pending record) (n : Name) : List ElementDecl :=
  ((h.table.get? n).map (·.children)).getD []

theorem children_name (h : s.Progress graph taken pending record) {t : Discovery} (ht : t ∈ record) :
    h.children t.name = t.children := by
  have hget : h.table.get? t.name = some t := Keyed.get?_eq_some_iff.2 (List.mem_map.2 ⟨t, ht, rfl⟩)
  rw [children, hget]
  rfl

/-- The global elements are the first keys, once they have all been taken up. -/
theorem global_prefix (h : s.Progress graph (s.announced record) pending record) :
    s.elements.keys <+: graph.keys := by
  have hkeys : graph.keys = (record.map (·.declaration)).map (·.name) := by
    rw [h.keys, List.map_map]
    rfl
  rw [hkeys, h.fresh, announced, firstOfEachName_elements_append, List.map_append, map_name_elements]
  exact List.prefix_append ..

end Progress

/-! ## Two elements of one name -/

/-- A declaration of an element with these attributes and these children. -/
def elementOf (name : String) (attributes : List String) (children : List ElementDecl) : ElementDecl :=
  .simple (.plain name) (.inline (.complex ⟨none, none, false, .group .sequence (children.map .localElement),
    attributes.map fun a => .declared ⟨.plain a, none⟩ false⟩))

/-- A schema with two declarations of `item` and, besides a global `b`, a local one. -/
def twice : Schema :=
  Schema.empty.addElements
    [elementOf "a" [] [elementOf "item" ["first"] [], elementOf "b" ["hidden"] []],
      elementOf "b" [] [elementOf "item" ["second"] []]]

/-- The shape with these attributes and these children. -/
def shapeOf (name : String) (isTopLevel : Bool) (attributes children : List String) : ElementShape :=
  ⟨.plain name, isTopLevel, .ofList (attributes.map fun a => (.plain a, .new (.plain a))),
    .ofList (children.map .plain), Keyed.forall_ofList (by simp [AttributeShape.new])⟩

/-- The shape graph of `twice`. -/
def twiceGraph : ShapeGraph :=
  .ofList [(.plain "a", shapeOf "a" true [] ["item", "b"]), (.plain "b", shapeOf "b" true [] ["item"]),
    (.plain "item", shapeOf "item" false ["first"] [])]

theorem build_twice : twice.build.result = .ok twiceGraph := by
  refine result_build.2 ?_
  have ha : (twice.extract
      (elementOf "a" [] [elementOf "item" ["first"] [], elementOf "b" ["hidden"] []]) true).result =
      .ok (shapeOf "a" true [] ["item", "b"], [elementOf "item" ["first"] [], elementOf "b" ["hidden"] []]) := by
    cbv
  have hb : (twice.extract (elementOf "b" [] [elementOf "item" ["second"] []]) true).result =
      .ok (shapeOf "b" true [] ["item"], [elementOf "item" ["second"] []]) := by
    cbv
  have hi : (twice.extract (elementOf "item" ["first"] []) false).result =
      .ok (shapeOf "item" false ["first"] [], []) := by
    cbv
  refine .shape (by decide) ha ?_
  refine .shape (by decide) hb ?_
  refine .shape (by decide) hi ?_
  exact .skip (by decide) (.skip (by decide) .done)

/-! ## What a build gives -/

/-- A build ends with a record of all that it has announced. -/
theorem record_of_build {s : Schema} {graph : ShapeGraph} (h : s.build.result = .ok graph) :
    ∃ record, s.Progress graph (s.announced record) [] record := by
  obtain ⟨taken, record, hp⟩ := (Progress.start s).run (result_build.1 h)
  have htaken : taken = s.announced record := by simpa using hp.queue
  exact ⟨record, htaken ▸ hp⟩

/-- The keys of a shape graph are the names of the global elements and, after them, the names of the
children of its elements in their order, each where it occurs first. So the graph is closed under
children, it has no key that did not come from a global element or from an earlier key, and each key
is the name of its element. -/
theorem build_keys {s : Schema} {graph : ShapeGraph} (h : s.build.result = .ok graph) :
    graph.keys = (s.elements.keys ++ graph.values.flatMap (·.children.toList)).eraseDups ∧
      (∀ m n, HasChild graph m n → n ∈ graph.keys) ∧
      (∀ before n after, graph.keys = before ++ n :: after →
        n ∈ s.elements.keys ∨ ∃ m ∈ before, HasChild graph m n) ∧
      graph.keys.Nodup ∧
      ∀ n shape, graph.get? n = some shape → shape.name = n := by
  obtain ⟨record, hp⟩ := record_of_build h
  have hkeys := hp.keys_eq_eraseDups
  rw [hp.map_name_announced] at hkeys
  refine ⟨hkeys, ?_, ?_, graph.nodup, ?_⟩
  · rintro m n ⟨shape, hm, hn⟩
    rw [hkeys, List.mem_eraseDups, List.mem_append, List.mem_flatMap]
    exact .inr ⟨shape, Keyed.mem_values_of_get? hm, hn⟩
  · intro before n after hsplit
    by_cases hn : n ∈ s.elements.keys
    · exact .inl hn
    · rw [hp.keys] at hsplit
      obtain ⟨earlier, later, hr, rfl, hlater⟩ := List.map_eq_append_iff.1 hsplit
      obtain ⟨t, later, rfl, rfl, -⟩ := List.map_eq_cons_iff.1 hlater
      obtain ⟨p, hpm, ⟨_, _, _, _, hchild, _⟩, _⟩ := hp.firstParent hr hn
      exact .inr ⟨p.name, List.mem_map_of_mem hpm, hchild⟩
  · intro n shape hn
    obtain ⟨t, ht, rfl, rfl⟩ := hp.get?_eq_some_iff.1 hn
    exact (extract_shape (hp.shaped t ht)).1

theorem build_keys_twice : twice.build.result = .ok twiceGraph ∧
    twiceGraph.keys = [.plain "a", .plain "b", .plain "item"] ∧
    twiceGraph.keys = (twice.elements.keys ++ twiceGraph.values.flatMap (·.children.toList)).eraseDups :=
  ⟨build_twice, by decide, (build_keys build_twice).1⟩

/-- The shape of a global element is that of its declaration, whatever else has its name. The shape of
any other name is that of its first declaration under the first element with such a child. Only the
global elements are top level, and they are the first keys. -/
theorem build_origin {s : Schema} {graph : ShapeGraph} (h : s.build.result = .ok graph) :
    s.elements.keys <+: graph.keys ∧
      ∃ children : Name → List ElementDecl, ∀ n shape, graph.get? n = some shape →
        (∀ d, s.globalElement n = .ok d → (s.extract d true).result = .ok (shape, children n)) ∧
        (n ∉ s.elements.keys → ∃ m d, FirstParent graph m n ∧ (children m).find? (·.name = n) = some d ∧
          (s.extract d false).result = .ok (shape, children n)) ∧
        (shape.isTopLevel = true ↔ n ∈ s.elements.keys) := by
  obtain ⟨record, hp⟩ := record_of_build h
  refine ⟨hp.global_prefix, hp.children, fun n shape hn => ?_⟩
  obtain ⟨t, ht, rfl, rfl⟩ := hp.get?_eq_some_iff.1 hn
  have hshaped := hp.shaped t ht
  rw [hp.children_name ht]
  refine ⟨fun d hd => ?_, fun hglobal => ?_, ?_⟩
  · have hget := find_eq_ok_iff.1 hd
    rwa [hp.declaration_eq ht hget, decide_eq_true (Keyed.mem_keys_of_get? hget)] at hshaped
  · obtain ⟨before, after, hr⟩ := List.append_of_mem ht
    obtain ⟨p, hpm, hparent, hfind⟩ := hp.firstParent hr hglobal
    have hpr : p ∈ record := hr ▸ List.mem_append_left _ hpm
    rw [decide_eq_false hglobal] at hshaped
    exact ⟨p.name, t.declaration, hparent, by rwa [hp.children_name hpr], hshaped⟩
  · rw [(extract_shape hshaped).2.1]
    exact decide_eq_true_iff

theorem build_origin_twice : twice.build.result = .ok twiceGraph ∧
    (∃ ds, (twice.extract (elementOf "b" [] [elementOf "item" ["second"] []]) true).result =
      .ok (shapeOf "b" true [] ["item"], ds)) ∧
    ∃ m d ds, FirstParent twiceGraph m (.plain "item") ∧
      (twice.extract d false).result = .ok (shapeOf "item" false ["first"] [], ds) := by
  obtain ⟨-, children, horigin⟩ := build_origin build_twice
  obtain ⟨hb, -, -⟩ := horigin (.plain "b") (shapeOf "b" true [] ["item"]) (by decide)
  obtain ⟨-, hitem, -⟩ := horigin (.plain "item") (shapeOf "item" false ["first"] []) (by decide)
  obtain ⟨m, d, hparent, -, hd⟩ := hitem (by decide)
  exact ⟨build_twice, ⟨_, hb _ rfl⟩, m, d, _, hparent, hd⟩

end SchemaHints.Schema
