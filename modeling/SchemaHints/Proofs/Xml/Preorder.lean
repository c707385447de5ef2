/-
The tree of a document against its tags. Each tag stands inside the tags that are open around it. A tree that is
read without a fault has one element for each tag, in document order, as deep as the tag stands and made of that
tag inside those around it; but each tag at the top begins a new tree, and the tree before it is lost.

While the tree is under construction its elements are those of the open ones, from the outermost on, each followed
by what is finished below it. An element that opens, or is closed at once, is then the last of them, and one that
closes is in its place already, so that every event adds at the end or nothing. Only the children of an element
change after it has opened, so elements are compared without these.
-/
import SchemaHints.Proofs.Xml.Names

namespace SchemaHints.Xml

/-! ## Tags inside tags -/

/-- The bindings in force inside tags, from the innermost tag on. -/
def bindingsIn : List Tag → Bindings
  | [] => .empty
  | tag :: around => (bindingsIn around).within tag.attributes

/-- A tag with the tags that are open around it, from the innermost on. -/
structure Lineage where
  tag : Tag
  around : List Tag
  deriving DecidableEq

namespace Lineage

/-- The tag itself and those around it. -/
def tags (l : Lineage) : List Tag := l.tag :: l.around

/-- Whether a tag stands inside no other. -/
def isTop (l : Lineage) : Bool := l.around.isEmpty

/-- The tag makes an element, whatever its children are. -/
def Makes (l : Lineage) (e : Element) : Prop :=
  Element.ofTag (bindingsIn l.around) l.tag = .ok { e with children := [] }

end Lineage

/-- The tags that some events inside the tags `around` start elements with, up to the first event that is broken. -/
def lineages (around : List Tag) : List Event → List Lineage
  | [] => []
  | event :: events => match event with
    | .opening (.ok tag) => ⟨tag, around⟩ :: lineages (tag :: around) events
    | .selfClosing (.ok tag) => ⟨tag, around⟩ :: lineages around events
    | .closing => lineages around.tail events
    | .opening (.error _) | .selfClosing (.error _) | .malformed .. => []

theorem isTop_of_lineages_eq_cons {events : List Event} {l : Lineage} {ls : List Lineage}
    (h : lineages [] events = l :: ls) : l.isTop = true := by
  induction events with
  | nil => cases h
  | cons event events ih =>
    cases event with
    | opening read | selfClosing read =>
      cases read with
      | error _ => cases h
      | ok tag =>
        cases h
        rfl
    | closing => exact ih h
    | malformed position reason => cases h

/-- The tags from the last one at the top on. -/
def lastTree : List Lineage → List Lineage
  | [] => []
  | l :: ls => if ls.any Lineage.isTop then lastTree ls else l :: ls

/-- A tag at the top begins a new tree; any other goes on with the last one. -/
theorem lastTree_concat (ls : List Lineage) (l : Lineage) :
    lastTree (ls ++ [l]) = if l.isTop then [l] else lastTree ls ++ [l] := by
  induction ls with
  | nil => cases l.isTop <;> rfl
  | cons first ls ih =>
    rw [List.cons_append, lastTree, lastTree, ih, List.any_append, List.any_cons, List.any_nil, Bool.or_false]
    cases l.isTop with
    | true => simp
    | false => cases ls.any Lineage.isTop <;> simp

theorem lastTree_suffix (ls : List Lineage) : lastTree ls <:+ ls := by
  induction ls with
  | nil => exact List.suffix_refl _
  | cons l ls ih =>
    rw [lastTree]
    split
    · exact ih.trans (List.suffix_cons l ls)
    · exact List.suffix_refl _

/-- Nothing comes before the last tree exactly when no tag but the first is at the top. -/
theorem lastTree_eq_self_iff {l : Lineage} {ls : List Lineage} :
    lastTree (l :: ls) = l :: ls ↔ ∀ l' ∈ ls, l'.isTop = false := by
  rw [lastTree]
  cases htop : ls.any Lineage.isTop with
  | false => simpa using htop
  | true =>
    rw [if_pos rfl]
    constructor
    · intro heq
      have hlength := (lastTree_suffix ls).length_le
      rw [heq] at hlength
      exact absurd hlength (Nat.not_succ_le_self _)
    · intro hnone
      obtain ⟨l', hl', htop⟩ := List.any_eq_true.1 htop
      rw [hnone l' hl'] at htop
      cases htop

/-! ## The element of a tag -/

theorem Element.ofTag_eq_ok {outer : Bindings} {tag : Tag} {e : Element} :
    ofTag outer tag = .ok e ↔ e.children = [] ∧ e.bindings = outer.within tag.attributes ∧
      expandTagName e.bindings tag.name = .ok e.name ∧
      expandAttributes e.bindings tag.attributes [] = .ok e.attributes := by
  constructor
  · intro h
    obtain ⟨name, hname, h⟩ := Result.bind_eq_ok.1 h
    obtain ⟨attributes, hattributes, h⟩ := Result.bind_eq_ok.1 h
    cases h
    exact ⟨rfl, rfl, hname, hattributes⟩
  · intro h
    obtain ⟨name, attributes, bindings, children⟩ := e
    obtain ⟨rfl, rfl, hname, hattributes⟩ := h
    exact Result.bind_eq_ok.2 ⟨name, hname, Result.bind_eq_ok.2 ⟨attributes, hattributes, rfl⟩⟩

theorem Lineage.Makes.eqs {l : Lineage} {e : Element} (h : l.Makes e) :
    e.bindings = bindingsIn l.tags ∧ expandTagName e.bindings l.tag.name = .ok e.name ∧
      expandAttributes e.bindings l.tag.attributes [] = .ok e.attributes :=
  (Element.ofTag_eq_ok.1 h).2

/-! ## Elements in document order -/

namespace Element

/-- An element at its depth, without its children. -/
def head (node : Nat × Element) : Nat × Element := (node.1, { node.2 with children := [] })

theorem preorder_eq (depth : Nat) (e : Element) :
    preorder depth e = (depth, e) :: preorderAll (depth + 1) e.children := by
  cases e
  rfl

theorem preorderAll_append (depth : Nat) (es es' : List Element) :
    preorderAll depth (es ++ es') = preorderAll depth es ++ preorderAll depth es' := by
  induction es with
  | nil => rfl
  | cons e es ih => rw [List.cons_append, preorderAll, preorderAll, ih, List.append_assoc]

/-- The elements of open ones, from the innermost on, whose children are in reverse. -/
def openPreorder : List Element → List (Nat × Element)
  | [] => []
  | e :: outer => openPreorder outer ++ (outer.length, e) :: preorderAll (outer.length + 1) e.children.reverse

end Element

namespace Partial

/-- The elements of a tree under construction in document order. -/
def preorder (p : Partial) : List (Nat × Element) :=
  if p.stack = [] then (p.root.map (Element.preorder 0)).getD [] else Element.openPreorder p.stack

theorem preorder_open {p : Partial} (h : p.stack ≠ []) : p.preorder = Element.openPreorder p.stack := if_neg h

/-- A finished element comes with everything below it after what is open. -/
theorem heads_attach (p : Partial) (e : Element) : (p.attach e).preorder.map Element.head =
    (Element.openPreorder p.stack ++ e.preorder p.stack.length).map Element.head := by
  rcases p with ⟨_ | ⟨parent, outer⟩, root⟩
  · rfl
  · simp only [attach]
    rw [preorder_open (List.cons_ne_nil _ _)]
    simp [Element.openPreorder, Element.preorderAll_append, Element.preorderAll, Element.head]

/-- An element that closes with everything below it is in its place already. -/
theorem heads_close {p : Partial} {e : Element} {outer : List Element} (h : p.stack = e :: outer) :
    (({ p with stack := outer } : Partial).attach { e with children := e.children.reverse }).preorder.map
      Element.head = p.preorder.map Element.head := by
  rw [heads_attach, preorder_open (h ▸ List.cons_ne_nil _ _), h, Element.preorder_eq, Element.openPreorder,
    List.map_append, List.map_append]
  rfl

theorem heads_open {p : Partial} {e : Element} (h : e.children = []) :
    ({ p with stack := e :: p.stack } : Partial).preorder = Element.openPreorder p.stack ++ [(p.stack.length, e)] := by
  rw [preorder_open (List.cons_ne_nil _ _), Element.openPreorder, h]
  rfl

theorem heads_attach_empty {p : Partial} {e : Element} (h : e.children = []) : (p.attach e).preorder.map Element.head =
    (Element.openPreorder p.stack ++ [(p.stack.length, e)]).map Element.head := by
  rw [heads_attach, Element.preorder_eq, h]
  rfl

end Partial

/-! ## Events -/

/-- Open elements, each of the tag at its place, with the bindings in force inside that tag. -/
inductive Opened : List Tag → List Element → Prop
  | nil : Opened [] []
  | cons {tag : Tag} {around : List Tag} {e : Element} {outer : List Element} :
    Opened around outer → e.bindings = bindingsIn (tag :: around) → Opened (tag :: around) (e :: outer)

namespace Opened

variable {around : List Tag} {stack : List Element}

theorem length_eq (h : Opened around stack) : stack.length = around.length := by
  induction h with
  | nil => rfl
  | cons _ _ ih => rw [List.length_cons, List.length_cons, ih]

theorem bindings_eq (h : Opened around stack) : (stack.head?.map Element.bindings).getD .empty = bindingsIn around := by
  cases h with
  | nil => rfl
  | cons _ hb => exact hb

theorem isEmpty_iff (h : Opened around stack) : around.isEmpty = true ↔ stack = [] := by
  cases h <;> simp

theorem attach {p : Partial} (h : Opened around p.stack) (e : Element) : Opened around (p.attach e).stack := by
  rcases p with ⟨_ | ⟨parent, outer⟩, root⟩
  · exact h
  · cases h with
    | cons houter hb => exact .cons houter hb

end Opened

/-- An element at its depth in a tree is as deep as a tag and made of it. -/
def Lineage.Fits (l : Lineage) (node : Nat × Element) : Prop := node.1 = l.around.length ∧ l.Makes node.2

/-- Inside the tags `around`, after the tags `ls`, the open elements are those of `around`, the elements are those of
the last tree of `ls`, and every one of `ls` has made an element. -/
structure Represents (around : List Tag) (ls : List Lineage) (p : Partial) : Prop where
  opened : Opened around p.stack
  tree : List.Forall₂ Lineage.Fits (lastTree ls) p.preorder
  made : ∀ l ∈ ls, ∃ e, l.Makes e

namespace Represents

variable {limits : Limits} {around : List Tag} {ls : List Lineage} {p : Partial} {tag : Tag} {e : Element}

theorem start : Represents [] [] .empty := ⟨.nil, .nil, fun _ => nofun⟩

theorem forall₂_heads {ls : List Lineage} {nodes : List (Nat × Element)} :
    List.Forall₂ Lineage.Fits ls (nodes.map Element.head) ↔ List.Forall₂ Lineage.Fits ls nodes :=
  List.forall₂_map_right_iff

theorem enter_eq_ok (h : Represents around ls p) {read : Except TagFault Tag} (he : p.enter limits read = .ok e) :
    ∃ tag, read = .ok tag ∧ Element.ofTag (bindingsIn around) tag = .ok e := by
  obtain ⟨-, -, he⟩ := Result.bind_eq_ok.1 he
  split at he
  · cases he
  · rw [h.opened.bindings_eq] at he
    exact ⟨_, rfl, he⟩

theorem made_concat (h : Represents around ls p) {l : Lineage} (hl : l.Makes e) :
    ∀ l' ∈ ls ++ [l], ∃ e, l'.Makes e := by
  intro l' hl'
  rcases List.mem_append.1 hl' with hl' | hl'
  · exact h.made l' hl'
  · rw [List.mem_singleton.1 hl']
    exact ⟨e, hl⟩

theorem makes_of_ofTag (he : Element.ofTag (bindingsIn around) tag = .ok e) : Lineage.Makes ⟨tag, around⟩ e := by
  obtain ⟨hchildren, -⟩ := Element.ofTag_eq_ok.1 he
  cases e
  cases hchildren
  exact he

/-- The element of a tag comes last in document order, in a tree of its own if nothing is open. -/
theorem tree_concat (h : Represents around ls p) (he : Element.ofTag (bindingsIn around) tag = .ok e) :
    List.Forall₂ Lineage.Fits (lastTree (ls ++ [⟨tag, around⟩]))
      (Element.openPreorder p.stack ++ [(p.stack.length, e)]) := by
  have hlast : Lineage.Fits ⟨tag, around⟩ (p.stack.length, e) := ⟨h.opened.length_eq, makes_of_ofTag he⟩
  rw [lastTree_concat]
  by_cases hstack : p.stack = []
  · have htop : Lineage.isTop ⟨tag, around⟩ = true := h.opened.isEmpty_iff.2 hstack
    rw [if_pos htop, hstack]
    rw [hstack] at hlast
    exact .cons hlast .nil
  · have htop : ¬ Lineage.isTop ⟨tag, around⟩ = true := fun htop => hstack (h.opened.isEmpty_iff.1 htop)
    rw [if_neg htop, ← Partial.preorder_open hstack]
    exact List.rel_append h.tree (.cons hlast .nil)

theorem opening (h : Represents around ls p) (he : Element.ofTag (bindingsIn around) tag = .ok e) :
    Represents (tag :: around) (ls ++ [⟨tag, around⟩]) { p with stack := e :: p.stack } where
  opened := .cons h.opened (Element.ofTag_eq_ok.1 he).2.1
  tree := by
    rw [Partial.heads_open (Element.ofTag_eq_ok.1 he).1]
    exact h.tree_concat he
  made := h.made_concat (makes_of_ofTag he)

theorem selfClosing (h : Represents around ls p) (he : Element.ofTag (bindingsIn around) tag = .ok e) :
    Represents around (ls ++ [⟨tag, around⟩]) (p.attach e) where
  opened := h.opened.attach e
  tree := by
    rw [← forall₂_heads, Partial.heads_attach_empty (Element.ofTag_eq_ok.1 he).1, forall₂_heads]
    exact h.tree_concat he
  made := h.made_concat (makes_of_ofTag he)

theorem closing (h : Represents around ls p) {p' : Partial} (ht : p.take limits .closing = .ok p') :
    Represents around.tail ls p' := by
  unfold Partial.take at ht
  simp only at ht
  split at ht
  -- a closing tag that closes nothing is passed over
  · rename_i hstack
    cases ht
    obtain rfl := List.isEmpty_iff.1 (h.opened.isEmpty_iff.2 hstack)
    exact h
  · rename_i e outer hstack
    cases ht
    have hopened := h.opened
    rw [hstack] at hopened
    cases hopened with
    | cons houter _ =>
      -- the element has been counted since its tag was opened, so no node is added
      refine ⟨Opened.attach (p := { p with stack := outer }) houter _, ?_, h.made⟩
      rw [← forall₂_heads, Partial.heads_close hstack, forall₂_heads]
      exact h.tree

/-- What is known of the tags so far stays so with every event. -/
theorem run (h : Represents around ls p) {events : List Event} {final : Partial}
    (hrun : p.takeAll limits events = .ok final) :
    ∃ around', Represents around' (ls ++ lineages around events) final := by
  -- the tags around the next event and those delivered so far change with each event
  induction events generalizing around ls p with
  | nil =>
    cases hrun
    exact ⟨around, by rwa [lineages, List.append_nil]⟩
  | cons event events ih =>
    obtain ⟨p', ht, hrest⟩ := Result.bind_eq_ok.1 hrun
    cases event with
    | opening read =>
      obtain ⟨e, he, ht⟩ := Result.bind_eq_ok.1 ht
      cases ht
      obtain ⟨tag, rfl, htag⟩ := h.enter_eq_ok he
      rw [lineages, List.append_cons]
      exact ih (h.opening htag) hrest
    | selfClosing read =>
      obtain ⟨e, he, ht⟩ := Result.bind_eq_ok.1 ht
      cases ht
      obtain ⟨tag, rfl, htag⟩ := h.enter_eq_ok he
      rw [lineages, List.append_cons]
      exact ih (h.selfClosing htag) hrest
    | closing => exact ih (h.closing ht) hrest
    | malformed position reason => cases ht

end Represents

/-! ## Documents -/

/-- The elements of a document in document order, each with its depth. -/
def nodesOf (root : Option Element) : List (Nat × Element) := (root.map (Element.preorder 0)).getD []

/-- A document that is read without a fault has the elements that the tags of its last tree make, in document order
and as deep as the tags stand, and all its tags make elements. -/
theorem represents_of_rootOf {limits : Limits} {document : Bytes} {root : Option Element}
    (h : rootOf limits document = .ok root) :
    List.Forall₂ Lineage.Fits (lastTree (lineages [] (eventsOf document))) (nodesOf root) ∧
      ∀ l ∈ lineages [] (eventsOf document), ∃ e, l.Makes e := by
  obtain ⟨final, hrun, h⟩ := Result.bind_eq_ok.1 h
  obtain ⟨around, hfinal⟩ := Represents.start.run hrun
  split at h
  · rename_i hstack
    cases h
    have htree := hfinal.tree
    rw [Partial.preorder, if_pos (List.isEmpty_iff.1 hstack)] at htree
    exact ⟨htree, hfinal.made⟩
  · cases h

/-- The tag of an event that starts an element. -/
def Event.tag? : Event → Option (Except TagFault Tag)
  | .opening tag | .selfClosing tag => some tag
  | .closing | .malformed .. => none

theorem Partial.tags_of_takeAll {limits : Limits} {p final : Partial} {events : List Event}
    (h : p.takeAll limits events = .ok final) (around : List Tag) :
    (lineages around events).map (fun l => .ok l.tag) = events.filterMap Event.tag? := by
  induction events generalizing p around with
  | nil => rfl
  | cons event events ih =>
    obtain ⟨p', ht, hrest⟩ := Result.bind_eq_ok.1 h
    cases event with
    | opening read | selfClosing read =>
      obtain ⟨e, he, -⟩ := Result.bind_eq_ok.1 ht
      obtain ⟨-, -, he⟩ := Result.bind_eq_ok.1 he
      cases read with
      | error _ => cases he
      | ok tag => exact congrArg (_ :: ·) (ih hrest _)
    | closing => exact ih hrest _
    | malformed position reason => cases ht

/-- What an element keeps of the tag that makes it: its name, and of the values that ordinary attributes give to one
expanded name the last. No attribute is lost exactly when their expanded names are different. -/
structure Lineage.Keeps (l : Lineage) (e : Element) : Prop where
  name : StandsFor e.bindings.Means e.bindings.default l.tag.name e.name
  attributes : ∃ written, List.Forall₂ (Expands e.bindings.Means) l.tag.ordinary written ∧
    (e.attributes.map Prod.fst).Nodup ∧ (∀ n, e.attributes.lookup n = written.reverse.lookup n) ∧
    (e.attributes = written ↔ (written.map Prod.fst).Nodup)

theorem Lineage.Makes.keeps {l : Lineage} {e : Element} (h : l.Makes e) : l.Keeps e := by
  obtain ⟨-, hname, hattributes⟩ := h.eqs
  obtain ⟨written, hwritten, heq⟩ := written_of_expandAttributes hattributes
  refine ⟨standsFor_of_expandTagName hname, written, hwritten, ?_⟩
  rw [heq]
  exact ⟨nodup_latest written, lookup_latest written, latest_eq_self_iff⟩

/-- A document that is read without a fault has, of all tags that were delivered, the elements of those in the last
tree, in document order and as deep as the tags stand. No tag is lost exactly when at most one is at the top. -/
theorem rootOf_keeps {limits : Limits} {document : Bytes} {root : Option Element}
    (h : rootOf limits document = .ok root) :
    (lineages [] (eventsOf document)).map (fun l => .ok l.tag) = (eventsOf document).filterMap Event.tag? ∧
      List.Forall₂ (fun l node => node.1 = l.around.length ∧ l.Keeps node.2)
        (lastTree (lineages [] (eventsOf document))) (nodesOf root) ∧
      (lastTree (lineages [] (eventsOf document)) = lineages [] (eventsOf document) ↔
        (lineages [] (eventsOf document)).countP Lineage.isTop ≤ 1) := by
  refine ⟨?_, ?_, ?_⟩
  · obtain ⟨final, hrun, -⟩ := Result.bind_eq_ok.1 h
    exact Partial.tags_of_takeAll hrun []
  · exact (represents_of_rootOf h).1.imp fun l node hfits => ⟨hfits.1, hfits.2.keeps⟩
  · rcases hls : lineages [] (eventsOf document) with _ | ⟨l, ls⟩
    · simp [lastTree]
    · rw [lastTree_eq_self_iff, List.countP_cons_of_pos (isTop_of_lineages_eq_cons hls)]
      simp

/-- A document in which prefixes are declared anew and stand after their use. -/
def nestedDocument : Bytes :=
  Bytes.ofString "<a xmlns:p='u'><p:b p:x='1' y='2' xmlns:p='v' xmlns='w'><c/></p:b><p:d/></a>"

theorem rootOf_keeps_nested : ∃ root, rootOf .standard nestedDocument = .ok root ∧
    (nodesOf root).map (fun node => (node.1, node.2.name)) =
      [(0, ⟨"", "a"⟩), (1, ⟨"v", "b"⟩), (2, ⟨"w", "c"⟩), (1, ⟨"u", "d"⟩)] ∧
    List.Forall₂ (fun l node => node.1 = l.around.length ∧ l.Keeps node.2)
      (lastTree (lineages [] (eventsOf nestedDocument))) (nodesOf root) := by
  have hcomputed : (rootOf .standard nestedDocument).toOption.map
      (fun root => (nodesOf root).map fun node => (node.1, node.2.name)) =
        some [(0, ⟨"", "a"⟩), (1, ⟨"v", "b"⟩), (2, ⟨"w", "c"⟩), (1, ⟨"u", "d"⟩)] := by
    decide +kernel
  obtain ⟨root, hroot, hnodes⟩ := Option.map_eq_some_iff.1 hcomputed
  have hok := Result.toOption_eq_some.1 hroot
  exact ⟨root, hok, hnodes, (rootOf_keeps hok).2.1⟩

/-- A document with two elements at the top. -/
def twoRoots : Bytes := Bytes.ofString "<a/><b/>"

/-- A document with two attributes of the same expanded name. -/
def twoPrefixes : Bytes := Bytes.ofString "<a xmlns:p='u' xmlns:q='u' p:x='1' q:x='2'/>"

/-- Not everything in a document that is read is in its tree: a second element at the top takes the place of the
first, and a second attribute with the same expanded name the place of the first. -/
theorem not_everything_kept :
    (¬ ∀ document root, rootOf .standard document = .ok root →
      (nodesOf root).length = (lineages [] (eventsOf document)).length) ∧
    ¬ ∀ document root, rootOf .standard document = .ok root →
      (nodesOf root).map (fun node => node.2.attributes.length) =
        (lineages [] (eventsOf document)).map fun l => l.tag.ordinary.length := by
  constructor
  · intro hkept
    have hnodes : (rootOf .standard twoRoots).toOption.map (fun root => (nodesOf root).length) = some 1 := by
      decide +kernel
    have htags : (lineages [] (eventsOf twoRoots)).length = 2 := by decide +kernel
    obtain ⟨root, hroot, hnode⟩ := Option.map_eq_some_iff.1 hnodes
    have heq := hkept twoRoots root (Result.toOption_eq_some.1 hroot)
    rw [hnode, htags] at heq
    cases heq
  · intro hkept
    have hnodes : (rootOf .standard twoPrefixes).toOption.map
        (fun root => (nodesOf root).map fun node => node.2.attributes.length) = some [1] := by
      decide +kernel
    have htags : (lineages [] (eventsOf twoPrefixes)).map (fun l => l.tag.ordinary.length) = [2] := by decide +kernel
    obtain ⟨root, hroot, hnode⟩ := Option.map_eq_some_iff.1 hnodes
    have heq := hkept twoPrefixes root (Result.toOption_eq_some.1 hroot)
    rw [hnode, htags] at heq
    cases heq

end SchemaHints.Xml
