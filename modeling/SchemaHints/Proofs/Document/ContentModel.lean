/-
Content models as they are written. The element nodes of a complex type that has no base are those that its groups
lead to, one inside the other, past nothing that occurs never. They are found by going through the nodes in document
order, and this is what reading the type and then walking what was read comes to: a node that is no part of the
content leaves nothing, an element leaves one declaration, a group what its nodes leave, and how the parts of a type
are put together makes no difference to a walk.
-/
import SchemaHints.Proofs.Document.Adoption
import SchemaHints.Proofs.Substitution.Members
import SchemaHints.Proofs.Walk.Gather
import Mathlib.Data.List.Forall2

namespace SchemaHints.Schema

open Xml (Element)

/-! ## Nodes of a content model -/

/-- Whether a node declares an element or refers to one. -/
def IsElement (e : Element) : Prop := Word.of e.name.localName = .element

/-- Whether a node is a group of others. -/
def IsCompositor (e : Element) : Prop := ∃ c, Word.of e.name.localName = .compositor c

/-- The nodes below one that groups lead to, past nothing that occurs never, each with the child indexes on the way
to it. -/
inductive LiesIn : Element → List Nat → Element → Prop
  | child {e node : Element} {i : Nat} : e.children[i]? = some node → occursNever node = false → LiesIn e [i] node
  | inside {e group node : Element} {i : Nat} {path : List Nat} :
    e.children[i]? = some group → occursNever group = false → IsCompositor group → LiesIn group path node →
      LiesIn e (i :: path) node

/-- A node of a content model without named groups; what occurs never may be anything. -/
inductive ModelNode : Element → Prop
  | never {e : Element} : occursNever e = true → ModelNode e
  | element {e : Element} : IsElement e → ModelNode e
  | any {e : Element} : Word.of e.name.localName = .any → ModelNode e
  | note {e : Element} : Word.of e.name.localName = .note → ModelNode e
  | compositor {e : Element} : IsCompositor e → (∀ child ∈ e.children, ModelNode child) → ModelNode e

/-- A child of a complex type that has no base: an attribute, a note, or a content model. -/
inductive TypeChild : Element → Prop
  | other {e : Element} :
    Word.of e.name.localName ∈ [.attributeUse, .attributeGroup, .note, .anyAttribute, .assertion] → TypeChild e
  | content {e : Element} : IsCompositor e → ModelNode e → TypeChild e

mutual

/-- The element nodes that a node leads to, itself included, in document order, each with its place below it. -/
def elementNodes : Element → List (List Nat × Element)
  | e@⟨name, _, _, children⟩ =>
    if occursNever e then []
    else match Word.of name.localName with
      | .element => [([], e)]
      | .compositor _ => elementNodesFrom 0 children
      | _ => []

/-- The element nodes that some children lead to, the first of which has the index `i`. -/
def elementNodesFrom (i : Nat) : List Element → List (List Nat × Element)
  | [] => []
  | e :: rest => (elementNodes e).map (fun x => (i :: x.1, x.2)) ++ elementNodesFrom (i + 1) rest

end

theorem elementNodes_never {e : Element} (h : occursNever e = true) : elementNodes e = [] := by
  cases e
  rw [elementNodes, if_pos h]

theorem elementNodes_element {e : Element} (h : occursNever e = false) (he : IsElement e) :
    elementNodes e = [([], e)] := by
  cases e
  rw [elementNodes, if_neg (by simp [h]), show Word.of _ = _ from he]

theorem elementNodes_compositor {e : Element} (h : occursNever e = false) (he : IsCompositor e) :
    elementNodes e = elementNodesFrom 0 e.children := by
  obtain ⟨c, hc⟩ := he
  cases e
  rw [elementNodes, if_neg (by simp [h]), show Word.of _ = _ from hc]

theorem elementNodes_other {e : Element} (he : ¬ IsElement e) (hc : ¬ IsCompositor e) : elementNodes e = [] := by
  cases e
  rw [elementNodes]
  split
  · rfl
  split
  · rename_i hword
    exact absurd hword he
  · rename_i hword
    exact absurd ⟨_, hword⟩ hc
  · rfl

theorem elementNodes_word {e : Element} {w : Word} (hw : Word.of e.name.localName = w) (he : w ≠ .element)
    (hc : ∀ c, w ≠ .compositor c) : elementNodes e = [] :=
  elementNodes_other (fun h => he (hw.symm.trans h)) fun ⟨c, h⟩ => hc c (hw.symm.trans h)

theorem IsElement.not_isCompositor {e : Element} (h : IsElement e) : ¬ IsCompositor e := by
  rintro ⟨c, hc⟩
  rw [show Word.of e.name.localName = .element from h] at hc
  cases hc

theorem mem_elementNodes {e node : Element} {path : List Nat} : (path, node) ∈ elementNodes e ↔
    occursNever e = false ∧ (IsElement e ∧ path = [] ∧ node = e ∨
      IsCompositor e ∧ (path, node) ∈ elementNodesFrom 0 e.children) := by
  cases hnever : occursNever e with
  | true => simp [elementNodes_never hnever]
  | false =>
    by_cases he : IsElement e
    · simp [elementNodes_element hnever he, he, he.not_isCompositor]
    by_cases hc : IsCompositor e
    · simp [elementNodes_compositor hnever hc, he, hc]
    · simp [elementNodes_other he hc, he, hc]

theorem mem_elementNodesFrom {es : List Element} {node : Element} {i : Nat} {path : List Nat} :
    (path, node) ∈ elementNodesFrom i es ↔
      ∃ k below e, path = (i + k) :: below ∧ es[k]? = some e ∧ (below, node) ∈ elementNodes e := by
  induction es generalizing i with
  | nil => simp [elementNodesFrom]
  | cons e es ih =>
    rw [elementNodesFrom, List.mem_append, ih, List.mem_map]
    constructor
    · rintro (⟨⟨below, node'⟩, hmem, heq⟩ | ⟨k, below, e', rfl, he', hmem⟩)
      · cases heq
        exact ⟨0, below, e, rfl, rfl, hmem⟩
      · exact ⟨k + 1, below, e', by rw [Nat.add_right_comm, Nat.add_assoc], he', hmem⟩
    · rintro ⟨k, below, e', rfl, he', hmem⟩
      cases k with
      | zero =>
        cases he'
        exact .inl ⟨(below, node), hmem, rfl⟩
      | succ k => exact .inr ⟨k, below, e', by rw [Nat.add_right_comm, Nat.add_assoc], he', hmem⟩

/-- The nodes found among the children of a node are the element nodes that are reached from it. -/
theorem mem_elementNodesFrom_iff {e node : Element} {path : List Nat} :
    (path, node) ∈ elementNodesFrom 0 e.children ↔ LiesIn e path node ∧ IsElement node := by
  constructor
  · intro h
    induction path generalizing e with
    | nil =>
      obtain ⟨_, _, _, hpath, -⟩ := mem_elementNodesFrom.1 h
      cases hpath
    | cons i path ih =>
      obtain ⟨k, below, child, hpath, hchild, hmem⟩ := mem_elementNodesFrom.1 h
      rw [Nat.zero_add] at hpath
      cases hpath
      -- the child is the node itself, or a group on the way to it
      obtain ⟨hnever, ⟨he, rfl, rfl⟩ | ⟨hc, hmem⟩⟩ := mem_elementNodes.1 hmem
      · exact ⟨.child hchild hnever, he⟩
      · obtain ⟨hreached, he⟩ := ih hmem
        exact ⟨.inside hchild hnever hc hreached, he⟩
  · rintro ⟨h, he⟩
    induction h with
    | @child _ node i hchild hnever =>
      exact mem_elementNodesFrom.2 ⟨i, [], node, by rw [Nat.zero_add], hchild,
        mem_elementNodes.2 ⟨hnever, .inl ⟨he, rfl, rfl⟩⟩⟩
    | @inside _ group _ i path hgroup hnever hc _ ih =>
      exact mem_elementNodesFrom.2 ⟨i, path, group, by rw [Nat.zero_add], hgroup,
        mem_elementNodes.2 ⟨hnever, .inr ⟨hc, ih he⟩⟩⟩

mutual

theorem sorted_elementNodes : ∀ e, (elementNodes e).Pairwise (·.1 < ·.1)
  | ⟨name, attributes, bindings, children⟩ => by
    rw [elementNodes]
    split
    · exact .nil
    split
    · exact List.pairwise_singleton _ _
    · exact sorted_elementNodesFrom 0 children
    · exact .nil

/-- Nodes are found in document order. -/
theorem sorted_elementNodesFrom (i : Nat) : ∀ es, (elementNodesFrom i es).Pairwise (·.1 < ·.1)
  | [] => .nil
  | e :: es => by
    rw [elementNodesFrom, List.pairwise_append]
    refine ⟨List.pairwise_map.2 ?_, sorted_elementNodesFrom (i + 1) es, ?_⟩
    · exact (sorted_elementNodes e).imp fun h => List.cons_lt_cons_iff.2 (.inr ⟨rfl, h⟩)
    · rintro x hx ⟨path, node⟩ hy
      obtain ⟨x', -, rfl⟩ := List.mem_map.1 hx
      obtain ⟨k, below, _, rfl, -⟩ := mem_elementNodesFrom.1 hy
      -- the paths differ in their first index already
      exact List.cons_lt_cons_iff.2 (.inl (by omega))

end

/-! ## What a node declares -/

/-- A node declares the global element that it refers to, or an element of its own with the type that is read at the
node. The name of its own element is in the target namespace of the document exactly when the form that the node
gives, or else the default form of the document, is qualified. -/
inductive Declares (s : Schema) (setting : Setting) (defaultForm : Option String) (node : Element) : ElementDecl → Prop
  | reference {value : String} {n : Name} {d : ElementDecl} : node.attribute? "ref" = some value →
    node.resolve value = .ok n → s.globalElement (setting.adopt n) = .ok d → d.name = setting.adopt n →
      Declares s setting defaultForm node d
  | own {value : String} {type : TypeRef} : node.attribute? "ref" = none → node.attribute? "name" = some value →
    readElementType setting node = .ok type →
      Declares s setting defaultForm node (.simple
        (if isQualified ((node.attribute? "form").or defaultForm) then ⟨setting.target, Text.trim value⟩
          else .plain (Text.trim value)) type)

/-- The element that a node refers to, if it refers to one, is declared, and no element names it as its head. -/
def RefersToPlain (s : Schema) (setting : Setting) (node : Element) : Prop :=
  ∀ value n, node.attribute? "ref" = some value → node.resolve value = .ok n →
    (∃ d, s.globalElement (setting.adopt n) = .ok d) ∧ ∀ m, ¬ s.Joins m (setting.adopt n)

theorem Setting.resolve?_eq_ok {setting : Setting} {e : Element} {key : String} {found : Option Name}
    (h : setting.resolve? e key = .ok found) :
    e.attribute? key = none ∧ found = none ∨
      ∃ value n, e.attribute? key = some value ∧ e.resolve value = .ok n ∧ found = some (setting.adopt n) := by
  unfold Setting.resolve? at h
  split at h
  · rename_i hnone
    cases h
    exact .inl ⟨hnone, rfl⟩
  · rename_i value hvalue
    obtain ⟨n, hn, h⟩ := Result.bind_eq_ok.1 h
    cases h
    unfold Setting.resolve at hn
    split at hn
    · rename_i written hwritten
      cases hn
      exact .inr ⟨value, written, hvalue, hwritten, rfl⟩
    · cases hn

theorem Setting.qualifiesElements_of {root : Element} {location : String} {role : Role} {setting : Setting}
    (h : Setting.of root location role = .ok setting) :
    setting.qualifiesElements = isQualified (root.attribute? "elementFormDefault") := by
  simp only [Setting.of] at h
  split at h
  · cases h
  split at h
  · cases h
    rfl
  · cases h
    rfl
  split at h
  · cases h
    rfl
  split at h <;> cases h
  rfl

theorem Setting.localName_eq_ok {setting : Setting} {e : Element} {n : Name} {defaultForm : Option String}
    (h : setting.localName e (isQualified defaultForm) = .ok n) : ∃ value, e.attribute? "name" = some value ∧
      n = if isQualified ((e.attribute? "form").or defaultForm) then ⟨setting.target, Text.trim value⟩
        else .plain (Text.trim value) := by
  obtain ⟨localName, hrequired, h⟩ := Result.bind_eq_ok.1 h
  cases h
  unfold Setting.required at hrequired
  split at hrequired
  · rename_i value hvalue
    cases hrequired
    refine ⟨value, hvalue, ?_⟩
    cases e.attribute? "form" <;> rfl
  · cases hrequired

/-- Nothing stands in for an element that no other names as its head. -/
theorem substitutionMembers_eq_nil {s : Schema} {d : ElementDecl} (h : ∀ m, ¬ s.Joins m d.name) :
    s.substitutionMembers d = [] := by
  unfold substitutionMembers
  split
  · rfl
  · rw [List.filter_eq_nil_iff]
    intro e _ he
    obtain ⟨-, hjoins⟩ := mem_reach_iff.1 (List.contains_iff_mem.1 he)
    cases hjoins with
    | single hjoins => exact h _ hjoins
    | tail _ hjoins => exact h _ hjoins

/-! ## Walking what has been read -/

/-- A walk of some particles yields these declarations, whatever is walked after them. -/
def Walks (s : Schema) (ps : List Particle) (ds : List ElementDecl) : Prop :=
  ∀ rest, s.gather [] (ps ++ rest) = joined (.ok ds) (s.gather [] rest)

namespace Walks

variable {s : Schema} {ps qs : List Particle} {ds es : List ElementDecl}

theorem nil : s.Walks [] [] := fun _ => (nil_joined _).symm

theorem append (hp : s.Walks ps ds) (hq : s.Walks qs es) : s.Walks (ps ++ qs) (ds ++ es) := by
  intro rest
  rw [List.append_assoc, hp, hq, ← joined_assoc]
  rfl

theorem group (h : s.Walks ps ds) (compositor : Compositor) : s.Walks [.group compositor ps] ds := by
  intro rest
  rw [List.singleton_append, gather_group, h]

theorem leaf {p : Particle} (hp : p.IsLeaf) (h : s.leafDeclarations p = .ok ds) : s.Walks [p] ds := by
  intro rest
  rw [List.singleton_append, gather_leaf hp, h]

/-- Parts that are put together are walked one after the other. -/
theorem combine (h : s.Walks ps ds) : s.Walks [.combine ps] ds := by
  match ps with
  | [] =>
    have hnil := h []
    rw [List.append_nil, gather_nil, joined_nil] at hnil
    exact leaf (p := .empty) trivial hnil
  | [p] => exact h
  | _ :: _ :: _ => exact h.group .sequence

theorem result_walk {p : Particle} (h : s.Walks [p] ds) : (s.walk p).result = .ok ds := by
  have hwalk := h []
  rwa [List.append_nil, gather_nil, joined_nil, ← Schema.result_walk] at hwalk

end Walks

section

variable {s : Schema} {setting : Setting} {defaultForm : Option String}

/-- Particles are those of some element nodes: walking them yields one declaration for each node, in order. -/
def Models (s : Schema) (setting : Setting) (defaultForm : Option String) (ps : List Particle)
    (nodes : List (List Nat × Element)) : Prop :=
  ∃ ds, s.Walks ps ds ∧ List.Forall₂ (fun x d => Declares s setting defaultForm x.2 d) nodes ds

theorem Models.nil : Models s setting defaultForm [] [] := ⟨[], .nil, .nil⟩

theorem Models.single {e : Element} {p : Particle} {d : ElementDecl} (hp : p.IsLeaf)
    (hd : s.leafDeclarations p = .ok [d]) (h : Declares s setting defaultForm e d) :
    Models s setting defaultForm [p] [([], e)] := ⟨[d], .leaf hp hd, .cons h .nil⟩

theorem Models.append {ps qs : List Particle} {xs ys : List (List Nat × Element)}
    (hp : Models s setting defaultForm ps xs) (hq : Models s setting defaultForm qs ys) :
    Models s setting defaultForm (ps ++ qs) (xs ++ ys) := by
  obtain ⟨ds, hds, hxs⟩ := hp
  obtain ⟨es, hes, hys⟩ := hq
  exact ⟨ds ++ es, hds.append hes, List.rel_append hxs hys⟩

theorem Models.map {ps : List Particle} {xs : List (List Nat × Element)} (h : Models s setting defaultForm ps xs)
    (f : List Nat → List Nat) : Models s setting defaultForm ps (xs.map fun x => (f x.1, x.2)) := by
  obtain ⟨ds, hds, hxs⟩ := h
  exact ⟨ds, hds, List.forall₂_map_left_iff.2 hxs⟩

/-- An element node is read as a particle that yields its declaration. -/
theorem models_element (hform : setting.qualifiesElements = isQualified defaultForm) {e : Element}
    (he : IsElement e) (hnever : occursNever e = false) {p : Option Particle}
    (hread : readParticle setting e = .ok p) (href : RefersToPlain s setting e) :
    Models s setting defaultForm p.toList [([], e)] := by
  obtain ⟨name, attributes, bindings, children⟩ := e
  rw [readParticle, if_neg (by simp [hnever]), show Word.of _ = _ from he] at hread
  obtain ⟨found, hfound, hread⟩ := Result.bind_eq_ok.1 hread
  obtain ⟨hnone, rfl⟩ | ⟨value, n, hvalue, hn, rfl⟩ := Setting.resolve?_eq_ok hfound
  · obtain ⟨own, hown, hread⟩ := Result.bind_eq_ok.1 hread
    obtain ⟨type, htype, hread⟩ := Result.bind_eq_ok.1 hread
    rw [hform] at hown
    obtain ⟨value, hvalue, rfl⟩ := Setting.localName_eq_ok hown
    cases type with
    | some n =>
      cases hread
      exact .single (p := .localElement _) trivial rfl (.own hnone hvalue (Result.bind_eq_ok.2 ⟨some n, htype, rfl⟩))
    | none =>
      obtain ⟨inline, hinline, hread⟩ := Result.bind_eq_ok.1 hread
      cases hread
      exact .single (p := .localElement _) trivial rfl
        (.own hnone hvalue (Result.bind_eq_ok.2 ⟨none, htype, hinline⟩))
  · cases hread
    obtain ⟨⟨d, hd⟩, hplain⟩ := href value n hvalue hn
    have hname := name_of_globalElement hd
    refine .single (p := .elementRef _) trivial ?_ (.reference hvalue hn hd hname)
    rw [leafDeclarations, hd, Result.ok_bind, substitutionMembers_eq_nil (hname ▸ hplain)]

mutual

theorem models_readParticle (hform : setting.qualifiesElements = isQualified defaultForm) : ∀ e : Element, ModelNode e →
    (∀ x ∈ elementNodes e, RefersToPlain s setting x.2) → ∀ p, readParticle setting e = .ok p →
      Models s setting defaultForm p.toList (elementNodes e)
  | ⟨name, attributes, bindings, children⟩, hnode, hrefs, p, hread => by
    cases hnever : occursNever ⟨name, attributes, bindings, children⟩ with
    | true =>
      rw [readParticle, if_pos hnever] at hread
      cases hread
      rw [elementNodes_never hnever]
      exact .nil
    | false =>
    cases hnode with
    | never h =>
      rw [h] at hnever
      cases hnever
    | element he =>
      rw [elementNodes_element hnever he] at hrefs ⊢
      exact models_element hform he hnever hread (hrefs _ (List.mem_singleton_self _))
    | any hany =>
      rw [readParticle, if_neg (by simp [hnever]), show Word.of _ = _ from hany] at hread
      cases hread
      rw [elementNodes_word hany (by decide) fun _ => nofun]
      exact ⟨[], .leaf (p := .any) trivial rfl, .nil⟩
    | note hnote =>
      rw [readParticle, if_neg (by simp [hnever]), show Word.of _ = _ from hnote] at hread
      cases hread
      rw [elementNodes_word hnote (by decide) fun _ => nofun]
      exact .nil
    | compositor hc hchildren =>
      rw [elementNodes_compositor hnever hc] at hrefs ⊢
      obtain ⟨c, hc⟩ := hc
      rw [readParticle, if_neg (by simp [hnever]), show Word.of _ = _ from hc] at hread
      obtain ⟨items, hitems, hread⟩ := Result.bind_eq_ok.1 hread
      cases hread
      obtain ⟨ds, hds, hdeclares⟩ := models_readParticles hform 0 children hchildren hrefs items hitems
      exact ⟨ds, hds.group c, hdeclares⟩

theorem models_readParticles (hform : setting.qualifiesElements = isQualified defaultForm) (i : Nat) :
    ∀ es : List Element, (∀ e ∈ es, ModelNode e) → (∀ x ∈ elementNodesFrom i es, RefersToPlain s setting x.2) →
      ∀ ps, readParticles setting es = .ok ps → Models s setting defaultForm ps (elementNodesFrom i es)
  | [], _, _, ps, hread => by
    rw [readParticles] at hread
    cases hread
    exact .nil
  | e :: es, hnodes, hrefs, ps, hread => by
    rw [readParticles] at hread
    obtain ⟨p, hp, hread⟩ := Result.bind_eq_ok.1 hread
    obtain ⟨qs, hqs, hread⟩ := Result.bind_eq_ok.1 hread
    cases hread
    obtain ⟨hnode, hnodes⟩ := List.forall_mem_cons.1 hnodes
    rw [elementNodesFrom] at hrefs ⊢
    obtain ⟨hfirst, hrest⟩ := List.forall_mem_append.1 hrefs
    have hfirst : ∀ x ∈ elementNodes e, RefersToPlain s setting x.2 := fun x hx =>
      hfirst (i :: x.1, x.2) (List.mem_map.2 ⟨x, hx, rfl⟩)
    exact ((models_readParticle hform e hnode hfirst p hp).map (i :: ·)).append
      (models_readParticles hform (i + 1) es hnodes hrest qs hqs)

end

/-- A child of a complex type that has no base is read as a draft without one, with the particles of the element
nodes that the child leads to. -/
theorem models_typeChild (hform : setting.qualifiesElements = isQualified defaultForm) {e : Element}
    {rest : List Element} {draft : Draft} (hchild : TypeChild e)
    (hrefs : ∀ x ∈ elementNodes e, RefersToPlain s setting x.2) (hread : readDraft setting (e :: rest) = .ok draft) :
    ∃ first drafts, readDraft setting rest = .ok drafts ∧ draft = first ++ drafts ∧ first.derivation = none ∧
      first.simpleContent = none ∧ Models s setting defaultForm first.parts (elementNodes e) := by
  have hrest (first : Draft) (hread : (do let drafts ← readDraft setting rest; .ok (first ++ drafts)) = .ok draft)
      (hderivation : first.derivation = none) (hsimple : first.simpleContent = none)
      (hmodels : Models s setting defaultForm first.parts (elementNodes e)) :
      ∃ first drafts, readDraft setting rest = .ok drafts ∧ draft = first ++ drafts ∧ first.derivation = none ∧
        first.simpleContent = none ∧ Models s setting defaultForm first.parts (elementNodes e) := by
    obtain ⟨drafts, hdrafts, hread⟩ := Result.bind_eq_ok.1 hread
    cases hread
    exact ⟨first, drafts, hdrafts, rfl, hderivation, hsimple, hmodels⟩
  obtain ⟨name, attributes, bindings, children⟩ := e
  rw [readDraft] at hread
  cases hchild with
  | content hc hnode =>
    obtain ⟨c, hc⟩ := hc
    rw [show Word.of name.localName = _ from hc] at hread
    obtain ⟨p, hp, hread⟩ := Result.bind_eq_ok.1 hread
    exact hrest { parts := p.toList } hread rfl rfl (models_readParticle hform _ hnode hrefs p hp)
  | other hw =>
    generalize hword : Word.of _ = w at hw
    rw [show Word.of name.localName = _ from hword] at hread
    have hnodes : elementNodes ⟨name, attributes, bindings, children⟩ = [] := by
      refine elementNodes_word hword ?_ fun c => ?_ <;> rintro rfl <;> simp at hw
    rw [hnodes] at hrest ⊢
    simp only [List.mem_cons, List.not_mem_nil, or_false] at hw
    rcases hw with rfl | rfl | rfl | rfl | rfl
    · obtain ⟨item, -, hread⟩ := Result.bind_eq_ok.1 hread
      exact hrest { attributes := item.toList } hread rfl rfl .nil
    · obtain ⟨item, -, hread⟩ := Result.bind_eq_ok.1 hread
      exact hrest { attributes := item.toList } hread rfl rfl .nil
    · exact hrest {} hread rfl rfl .nil
    · exact hrest {} hread rfl rfl .nil
    · exact hrest {} hread rfl rfl .nil

theorem models_readDraft (hform : setting.qualifiesElements = isQualified defaultForm) {i : Nat} {es : List Element}
    (hchildren : ∀ e ∈ es, TypeChild e) (hrefs : ∀ x ∈ elementNodesFrom i es, RefersToPlain s setting x.2) {draft : Draft}
    (hread : readDraft setting es = .ok draft) : draft.derivation = none ∧ draft.simpleContent = none ∧
      Models s setting defaultForm draft.parts (elementNodesFrom i es) := by
  induction es generalizing i draft with
  | nil =>
    rw [readDraft] at hread
    cases hread
    exact ⟨rfl, rfl, .nil⟩
  | cons e es ih =>
    obtain ⟨hchild, hchildren⟩ := List.forall_mem_cons.1 hchildren
    rw [elementNodesFrom] at hrefs ⊢
    obtain ⟨hfirst, hrest⟩ := List.forall_mem_append.1 hrefs
    have hfirst : ∀ x ∈ elementNodes e, RefersToPlain s setting x.2 := fun x hx =>
      hfirst (i :: x.1, x.2) (List.mem_map.2 ⟨x, hx, rfl⟩)
    obtain ⟨first, drafts, hdrafts, rfl, hderivation, hsimple, hmodels⟩ := models_typeChild hform hchild hfirst hread
    obtain ⟨hderivations, hsimples, hmodelled⟩ := ih hchildren hrest hdrafts
    refine ⟨?_, ?_, (hmodels.map (i :: ·)).append hmodelled⟩
    · show (drafts.derivation <|> first.derivation) = none
      rw [hderivations, hderivation]
      rfl
    · show (drafts.simpleContent <|> first.simpleContent) = none
      rw [hsimples, hsimple]
      rfl

end

/-! ## Complex types -/

/-- A complex type that has no base and no named groups in its content is walked as it is written: the walk yields one
declaration for each element node that is reached through groups past nothing that occurs never, in document order,
and nothing else. -/
theorem walk_contentModel {root : Element} {location : String} {role : Role} {setting : Setting}
    (hsetting : Setting.of root location role = .ok setting) {name : Option Name} {e : Element} {t : ComplexType}
    (hread : readComplexType setting name e = .ok t) (hchildren : ∀ child ∈ e.children, TypeChild child) {s : Schema}
    (hrefs : ∀ path node, LiesIn e path node → IsElement node → RefersToPlain s setting node) :
    t.derivation = none ∧ t.hasSimpleContent = false ∧
      ∃ (nodes : List (List Nat × Element)) (ds : List ElementDecl), (s.walk t.particle).result = .ok ds ∧
        nodes.Pairwise (·.1 < ·.1) ∧ (∀ path node, (path, node) ∈ nodes ↔ LiesIn e path node ∧ IsElement node) ∧
        List.Forall₂ (fun x d => Declares s setting (root.attribute? "elementFormDefault") x.2 d) nodes ds := by
  obtain ⟨draft, hdraft, hread⟩ := Result.bind_eq_ok.1 hread
  cases hread
  have hnodes : ∀ x ∈ elementNodesFrom 0 e.children, RefersToPlain s setting x.2 := by
    rintro ⟨path, node⟩ hx
    obtain ⟨hreached, he⟩ := mem_elementNodesFrom_iff.1 hx
    exact hrefs path node hreached he
  obtain ⟨hderivation, hsimple, ds, hwalks, hdeclares⟩ :=
    models_readDraft (Setting.qualifiesElements_of hsetting) hchildren hnodes hdraft
  refine ⟨hderivation, ?_, elementNodesFrom 0 e.children, ds, hwalks.combine.result_walk, sorted_elementNodesFrom 0 _,
    fun path node => mem_elementNodesFrom_iff, hdeclares⟩
  show draft.simpleContent.getD false = false
  rw [hsimple]
  rfl

/-- A complex type with groups inside groups, some of which do not occur, and two groups side by side. -/
def menuType : Element :=
  partsNode "complexType" []
    [partsNode "annotation" [] [partsNode "element" [("name", "note")] []],
      partsNode "sequence" [] [partsNode "element" [("name", "starter")] [],
        partsNode "choice" [] [partsNode "element" [("name", "main"), ("form", "unqualified")] [],
          partsNode "sequence" [("minOccurs", "0")] [partsNode "element" [("name", "side"), ("type", "xs:string")] []]],
        partsNode "any" [] [], partsNode "all" [("maxOccurs", "0")] [partsNode "element" [("name", "hidden")] []],
        partsNode "element" [("ref", "dessert")] []],
      partsNode "attribute" [("name", "price")] [],
      partsNode "choice" [] [partsNode "element" [("name", "tea"), ("maxOccurs", "0")] [],
        partsNode "element" [("name", "coffee")] []]]

/-- A document with that type. -/
def menuRoot : Element :=
  partsNode "schema" [("targetNamespace", "urn:menu"), ("elementFormDefault", "qualified")] [menuType]

/-- A schema that declares the element referred to. -/
def menu : Schema := Schema.empty.addElements [⟨.plain "dessert", .any, none, false⟩]

theorem typeChild_menuType : ∀ child ∈ menuType.children, TypeChild child := by
  have hside : ModelNode (partsNode "sequence" [("minOccurs", "0")]
      [partsNode "element" [("name", "side"), ("type", "xs:string")] []]) :=
    .compositor ⟨.sequence, rfl⟩ (List.forall_mem_singleton.2 (.element rfl))
  have hmain : ModelNode (partsNode "choice" []
      [partsNode "element" [("name", "main"), ("form", "unqualified")] [],
        partsNode "sequence" [("minOccurs", "0")]
          [partsNode "element" [("name", "side"), ("type", "xs:string")] []]]) :=
    .compositor ⟨.choice, rfl⟩ (List.forall_mem_cons.2 ⟨.element rfl, List.forall_mem_singleton.2 hside⟩)
  refine List.forall_mem_cons.2 ⟨.other (by decide), List.forall_mem_cons.2 ⟨.content ⟨.sequence, rfl⟩ ?_,
    List.forall_mem_cons.2 ⟨.other (by decide), List.forall_mem_singleton.2 (.content ⟨.choice, rfl⟩ ?_)⟩⟩⟩
  · refine .compositor ⟨.sequence, rfl⟩ (List.forall_mem_cons.2 ⟨.element rfl, List.forall_mem_cons.2 ⟨hmain, ?_⟩⟩)
    exact List.forall_mem_cons.2 ⟨.any rfl, List.forall_mem_cons.2 ⟨.never (by decide),
      List.forall_mem_singleton.2 (.element rfl)⟩⟩
  · exact .compositor ⟨.choice, rfl⟩
      (List.forall_mem_cons.2 ⟨.element rfl, List.forall_mem_singleton.2 (.element rfl)⟩)

theorem walk_contentModel_menu : ∃ setting t, Setting.of menuRoot "menu.xsd" .primary = .ok setting ∧
    readComplexType setting none menuType = .ok t ∧
    (elementNodesFrom 0 menuType.children).map Prod.fst = [[1, 0], [1, 1, 0], [1, 1, 1, 0], [1, 4], [3, 1]] ∧
    ∃ (nodes : List (List Nat × Element)) (ds : List ElementDecl), (menu.walk t.particle).result = .ok ds ∧
      nodes.Pairwise (·.1 < ·.1) ∧ (∀ path node, (path, node) ∈ nodes ↔ LiesIn menuType path node ∧ IsElement node) ∧
      List.Forall₂ (fun x d => Declares menu setting (some "qualified") x.2 d) nodes ds := by
  have hcomputed : ((Setting.of menuRoot "menu.xsd" .primary).toOption.bind fun setting =>
      (readComplexType setting none menuType).toOption.map fun _ => setting.adopts) = some false := by
    decide +kernel
  obtain ⟨setting, hsetting, hread⟩ := Option.bind_eq_some_iff.1 hcomputed
  obtain ⟨t, ht, hadopts⟩ := Option.map_eq_some_iff.1 hread
  have hsetting := Result.toOption_eq_some.1 hsetting
  have ht := Result.toOption_eq_some.1 ht
  have hnodes : ∀ x ∈ elementNodesFrom 0 menuType.children, x.2.attribute? "ref" = none ∨
      x.2.attribute? "ref" = some "dessert" ∧ (x.2.resolve "dessert").toOption = some (.plain "dessert") := by
    decide +kernel
  have hrefs : ∀ path node, LiesIn menuType path node → IsElement node → RefersToPlain menu setting node := by
    intro path node hreached he value n hvalue hn
    rcases hnodes (path, node) (mem_elementNodesFrom_iff.2 ⟨hreached, he⟩) with hnone | ⟨hsome, hresolve⟩
    · rw [hnone] at hvalue
      cases hvalue
    · rw [hsome] at hvalue
      cases hvalue
      rw [Result.toOption_eq_some.1 hresolve] at hn
      cases hn
      rw [Setting.adopt, if_neg (by simp [hadopts])]
      refine ⟨⟨⟨.plain "dessert", .any, none, false⟩, rfl⟩, ?_⟩
      rintro m ⟨d, hd, -, hhead⟩
      rw [show menu.elements.values = [⟨.plain "dessert", .any, none, false⟩] from rfl, List.mem_singleton] at hd
      rw [hd] at hhead
      cases hhead
  exact ⟨setting, t, hsetting, ht, by decide +kernel,
    (walk_contentModel hsetting ht typeChild_menuType hrefs).2.2⟩

end SchemaHints.Schema
