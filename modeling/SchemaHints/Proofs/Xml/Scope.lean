/-
Namespaces in a document. A prefix is looked up from the tag inside which it is used outwards, and the first tag that
declares it says what it means; so it is with the default namespace. The bindings of an element are a list of what
has been declared, the latest first, and are handed on from tag to tag.

A tag may declare one prefix twice. A key that comes a second time is refused byte by byte, before it is decoded, and
in some encodings different bytes are read as the same text. The later declaration counts then, and the order of the
two matters; the place of a declaration matters in no other way.
-/
import SchemaHints.Proofs.Xml.Preorder
import Mathlib.Data.List.Nodup

namespace SchemaHints.Xml

/-! ## What a tag adds -/

namespace Bindings

theorem within_concat (b : Bindings) (as : List (String × String)) (a : String × String) :
    b.within (as ++ [a]) = ((b.within as).declare? a.1 a.2).getD (b.within as) := List.foldl_concat ..

theorem lookup_bind (b : Bindings) (pfx space pfx' : String) :
    (b.bind pfx space).prefixes.lookup pfx' = if pfx' = pfx then some space else b.prefixes.lookup pfx' := by
  unfold bind
  rw [List.lookup_cons]
  by_cases hpfx : pfx' = pfx
  · rw [if_pos hpfx, hpfx, beq_self_eq_true]
  · rw [if_neg hpfx, beq_false_of_ne hpfx]
    exact lookup_filter_ne hpfx b.prefixes

/-- A prefix means what the last attribute that declares it says, or else what it means outside. -/
theorem lookup_within (b : Bindings) (as : List (String × String)) (pfx : String) :
    (b.within as).prefixes.lookup pfx = (as.reverse.lookup (prefixKey pfx)).or (b.prefixes.lookup pfx) := by
  induction as using List.reverseRecOn with
  | nil => rfl
  | append_singleton as a ih =>
    obtain ⟨key, value⟩ := a
    rw [within_concat, List.reverse_concat, List.lookup_cons]
    cases hkey : isDeclaration key with
    | false =>
      have hne : prefixKey pfx ≠ key := by
        rintro rfl
        rw [isDeclaration_iff.2 (.inr ⟨pfx, rfl⟩)] at hkey
        cases hkey
      rw [declare?_ordinary hkey, beq_false_of_ne hne]
      exact ih
    | true =>
      obtain rfl | ⟨pfx', rfl⟩ := isDeclaration_iff.1 hkey
      · rw [declare?_default, beq_false_of_ne (prefixKey_ne pfx)]
        exact ih
      · rw [declare?_prefixKey, Option.getD_some, lookup_bind]
        by_cases hpfx : pfx = pfx'
        · rw [if_pos hpfx, hpfx, beq_self_eq_true]
          rfl
        · rw [if_neg hpfx, beq_false_of_ne (prefixKey_inj.not.2 hpfx), ih]

/-- The default namespace is what the last attribute that sets it says, or else what it is outside. -/
theorem default_within (b : Bindings) (as : List (String × String)) :
    (b.within as).default = (as.reverse.lookup "xmlns").getD b.default := by
  induction as using List.reverseRecOn with
  | nil => rfl
  | append_singleton as a ih =>
    obtain ⟨key, value⟩ := a
    rw [within_concat, List.reverse_concat, List.lookup_cons]
    cases hkey : isDeclaration key with
    | false =>
      have hne : "xmlns" ≠ key := by
        rintro rfl
        cases hkey
      rw [declare?_ordinary hkey, beq_false_of_ne hne]
      exact ih
    | true =>
      obtain rfl | ⟨pfx, rfl⟩ := isDeclaration_iff.1 hkey
      · rw [declare?_default]
        rfl
      · rw [declare?_prefixKey, beq_false_of_ne (prefixKey_ne pfx).symm]
        exact ih

end Bindings

/-! ## The innermost tag -/

/-- The keys of the attributes of a tag, declarations included. -/
def Tag.keys (tag : Tag) : List String := tag.attributes.map Prod.fst

/-- What a tag says under a key: the value of its attribute with this key, of the last one if there are several. -/
def Tag.Says (tag : Tag) (key value : String) : Prop :=
  ∃ before after, tag.attributes = before ++ (key, value) :: after ∧ key ∉ after.map Prod.fst

theorem notMem_keys_iff {key : String} {as : List (String × String)} :
    key ∉ as.map Prod.fst ↔ ∀ a ∈ as, (key != a.1) = true := by
  simp only [List.mem_map, not_exists, not_and, bne_iff_ne, ne_eq, @eq_comm _ key]

theorem Tag.lookup_eq_none_iff {tag : Tag} {key : String} :
    tag.attributes.reverse.lookup key = none ↔ key ∉ tag.keys := by
  rw [List.lookup_eq_none_iff, keys, notMem_keys_iff]
  simp only [List.mem_reverse]

theorem Tag.lookup_eq_some_iff {tag : Tag} {key value : String} :
    tag.attributes.reverse.lookup key = some value ↔ tag.Says key value := by
  simp only [List.lookup_eq_some_iff, ← notMem_keys_iff]
  constructor
  · rintro ⟨after, before, hattributes, hafter⟩
    refine ⟨before.reverse, after.reverse, by simpa using congrArg List.reverse hattributes, ?_⟩
    rwa [List.map_reverse, List.mem_reverse]
  · rintro ⟨before, after, hattributes, hafter⟩
    refine ⟨after.reverse, before.reverse, by simp [hattributes], ?_⟩
    rwa [List.map_reverse, List.mem_reverse]

/-- What the innermost of some tags that has a key says under it. -/
def Nearest (key : String) (tags : List Tag) (value : String) : Prop :=
  ∃ inner tag outer, tags = inner ++ tag :: outer ∧ tag.Says key value ∧ ∀ t ∈ inner, key ∉ t.keys

/-- The last value under a key in the innermost tag that has it. -/
def nearest? (key : String) (tags : List Tag) : Option String := tags.findSome? (·.attributes.reverse.lookup key)

theorem nearest?_eq_none_iff {key : String} {tags : List Tag} :
    nearest? key tags = none ↔ ∀ t ∈ tags, key ∉ t.keys := by
  rw [nearest?, List.findSome?_eq_none_iff]
  exact forall₂_congr fun _ _ => Tag.lookup_eq_none_iff

theorem nearest?_eq_some_iff {key value : String} {tags : List Tag} :
    nearest? key tags = some value ↔ Nearest key tags value := by
  simp only [nearest?, List.findSome?_eq_some_iff, Tag.lookup_eq_some_iff, Tag.lookup_eq_none_iff, Nearest]

theorem lookup_bindingsIn (tags : List Tag) (pfx : String) :
    (bindingsIn tags).prefixes.lookup pfx = nearest? (prefixKey pfx) tags := by
  induction tags with
  | nil => rfl
  | cons tag around ih =>
    rw [bindingsIn, Bindings.lookup_within, ih, nearest?, nearest?, List.findSome?_cons]
    cases tag.attributes.reverse.lookup (prefixKey pfx) <;> rfl

theorem default_bindingsIn (tags : List Tag) : (bindingsIn tags).default = (nearest? "xmlns" tags).getD "" := by
  induction tags with
  | nil => rfl
  | cons tag around ih =>
    rw [bindingsIn, Bindings.default_within, ih, nearest?, nearest?, List.findSome?_cons]
    cases tag.attributes.reverse.lookup "xmlns" <;> rfl

/-! ## What names mean inside tags -/

/-- Inside some tags a prefix means what the innermost tag that declares it says; `xml` means the XML namespace. -/
def PrefixMeans (tags : List Tag) (pfx space : String) : Prop :=
  if pfx = "xml" then space = xmlNamespace else Nearest (prefixKey pfx) tags space

/-- Inside some tags a prefix means nothing. -/
def PrefixUnknown (tags : List Tag) (pfx : String) : Prop := pfx ≠ "xml" ∧ ∀ t ∈ tags, prefixKey pfx ∉ t.keys

/-- Inside some tags a namespace is the default: it is the one that the innermost tag with an `xmlns` says, or there
is none such, and no namespace is the default. -/
def DefaultMeans (tags : List Tag) (space : String) : Prop :=
  Nearest "xmlns" tags space ∨ space = "" ∧ ∀ t ∈ tags, "xmlns" ∉ t.keys

theorem means_bindingsIn_iff {tags : List Tag} {pfx space : String} :
    (bindingsIn tags).Means pfx space ↔ PrefixMeans tags pfx space := by
  unfold Bindings.Means Bindings.space? PrefixMeans
  split
  · rw [Option.some.injEq, eq_comm]
  · rw [lookup_bindingsIn, nearest?_eq_some_iff]

theorem space?_bindingsIn_eq_none_iff {tags : List Tag} {pfx : String} :
    (bindingsIn tags).space? pfx = none ↔ PrefixUnknown tags pfx := by
  unfold Bindings.space? PrefixUnknown
  split
  · rename_i hxml
    simp [hxml]
  · rename_i hxml
    rw [lookup_bindingsIn, nearest?_eq_none_iff]
    exact ⟨fun hnone => ⟨hxml, hnone⟩, And.right⟩

theorem default_bindingsIn_eq_iff {tags : List Tag} {space : String} :
    (bindingsIn tags).default = space ↔ DefaultMeans tags space := by
  rw [default_bindingsIn]
  unfold DefaultMeans
  rw [← nearest?_eq_some_iff, ← nearest?_eq_none_iff]
  cases nearest? "xmlns" tags <;> simp [eq_comm]

/-! ## The order of attributes -/

namespace Bindings

/-- Bindings under which all names mean the same. -/
structure Alike (b b' : Bindings) : Prop where
  space? : ∀ pfx, b.space? pfx = b'.space? pfx
  default : b.default = b'.default

variable {b b' : Bindings}

theorem Alike.expandTagName (h : b.Alike b') (text : String) :
    Xml.expandTagName b text = Xml.expandTagName b' text := by
  simp only [Xml.expandTagName, h.space?, h.default]

theorem Alike.resolve (h : b.Alike b') (text : String) : b.resolve text = b'.resolve text := by
  simp only [Bindings.resolve, h.space?, h.default]

theorem Alike.expandAttributes (h : b.Alike b') (as : List (String × String)) (done : List (Name × String)) :
    Xml.expandAttributes b as done = Xml.expandAttributes b' as done := by
  induction as generalizing done with
  | nil => rfl
  | cons a as ih => simp only [Xml.expandAttributes, isSome_declare?, h.resolve, ih]

/-- What ordinary attributes are expanded to does not depend on the declarations between them. -/
theorem expandAttributes_ordinary (b : Bindings) (as : List (String × String)) (done : List (Name × String)) :
    Xml.expandAttributes b (as.filter fun a => !isDeclaration a.1) done = Xml.expandAttributes b as done := by
  induction as generalizing done with
  | nil => rfl
  | cons a as ih =>
    cases hkey : isDeclaration a.1 with
    | false => simp [Xml.expandAttributes, isSome_declare?, hkey, ih]
    | true => simp [Xml.expandAttributes, isSome_declare?, hkey, ih]

end Bindings

/-- Lists of attributes that differ in nothing but where the declarations stand: the ordinary attributes come in the
same order, and so do the declarations of any one prefix. -/
structure Rearranged (as as' : List (String × String)) : Prop where
  ordinary : (as.filter fun a => !isDeclaration a.1) = as'.filter fun a => !isDeclaration a.1
  declarations : ∀ key, isDeclaration key = true → as.filter (·.1 == key) = as'.filter (·.1 == key)

theorem lookup_filter_key (key : String) (as : List (String × String)) :
    (as.filter (·.1 == key)).lookup key = as.lookup key := by
  induction as with
  | nil => rfl
  | cons a as ih =>
    by_cases hkey : a.1 = key
    · rw [List.filter_cons_of_pos (by simpa using hkey), List.lookup_cons, List.lookup_cons, ih]
    · rw [List.filter_cons_of_neg (by simpa using hkey), List.lookup_cons, ih, beq_false_of_ne (Ne.symm hkey)]

/-- The keys of the declarations among attributes. -/
def declaredKeys (as : List (String × String)) : List String := (as.map Prod.fst).filter isDeclaration

theorem length_filter_key_le {as : List (String × String)} {key : String} (hkey : isDeclaration key = true)
    (h : (declaredKeys as).Nodup) : (as.filter (·.1 == key)).length ≤ 1 :=
  calc (as.filter (·.1 == key)).length = (as.map Prod.fst).count key := by
        rw [List.count, List.countP_map, List.countP_eq_length_filter]
        rfl
    _ = (declaredKeys as).count key := (List.count_filter hkey).symm
    _ ≤ 1 := List.nodup_iff_count_le_one.1 h key

namespace Rearranged

variable {as as' : List (String × String)}

/-- Where no prefix is declared twice, the declarations may stand in any order. -/
theorem of_perm (h : (declaredKeys as').Nodup) (hp : as.Perm as')
    (hordinary : (as.filter fun a => !isDeclaration a.1) = as'.filter fun a => !isDeclaration a.1) :
    Rearranged as as' where
  ordinary := hordinary
  declarations := fun key hkey => by
    have hfiltered := hp.filter (·.1 == key)
    have hlength := length_filter_key_le hkey h
    rcases hfilter : as'.filter (·.1 == key) with _ | ⟨a, rest⟩
    · rw [hfilter] at hfiltered ⊢
      exact hfiltered.eq_nil
    · rw [hfilter] at hfiltered hlength ⊢
      obtain rfl : rest = [] := List.eq_nil_of_length_eq_zero (by simpa using hlength)
      exact List.perm_singleton.1 hfiltered

/-- A tag adds the same wherever its declarations stand. -/
theorem alike_within (h : Rearranged as as') (b : Bindings) : (b.within as).Alike (b.within as') := by
  have hlookup : ∀ key, isDeclaration key = true → as.reverse.lookup key = as'.reverse.lookup key := fun key hkey => by
    rw [← lookup_filter_key key as.reverse, ← lookup_filter_key key as'.reverse, List.filter_reverse,
      List.filter_reverse, h.declarations key hkey]
  constructor
  · intro pfx
    rw [Bindings.space?, Bindings.space?, Bindings.lookup_within, Bindings.lookup_within,
      hlookup _ (isDeclaration_iff.2 (.inr ⟨pfx, rfl⟩))]
  · rw [Bindings.default_within, Bindings.default_within, hlookup _ (isDeclaration_iff.2 (.inl rfl))]

end Rearranged

/-! ## The names of a document -/

/-- With its attributes in another order a tag makes the same element, up to how the bindings are listed. -/
def Lineage.Remakes (l : Lineage) (e : Element) (as : List (String × String)) : Prop :=
  ∃ e', Element.ofTag (bindingsIn l.around) ⟨l.tag.name, as⟩ = .ok e' ∧ e'.name = e.name ∧
    e'.attributes = e.attributes ∧ e'.bindings.Alike e.bindings

/-- What is known of the element that a tag makes: its bindings say what prefixes and the default namespace mean
inside the tag and those around it, its name and those of its attributes are the names that are written in the tag,
and none of this depends on where among the attributes the namespaces are declared, as long as two declarations of
one prefix are not exchanged; without two such declarations any order will do. -/
structure Lineage.Scopes (l : Lineage) (e : Element) : Prop where
  prefixes : ∀ pfx space, e.bindings.space? pfx = some space ↔ PrefixMeans l.tags pfx space
  unknown : ∀ pfx, e.bindings.space? pfx = none ↔ PrefixUnknown l.tags pfx
  default : ∀ space, e.bindings.default = space ↔ DefaultMeans l.tags space
  name : StandsFor (PrefixMeans l.tags) e.bindings.default l.tag.name e.name
  attributes : ∃ written, List.Forall₂ (Expands (PrefixMeans l.tags)) l.tag.ordinary written ∧
    e.attributes = latest written
  order : ∀ as, Rearranged as l.tag.attributes → l.Remakes e as
  anyOrder : (declaredKeys l.tag.attributes).Nodup → ∀ as : List (String × String), as.Perm l.tag.attributes →
    Tag.ordinary ⟨l.tag.name, as⟩ = l.tag.ordinary → l.Remakes e as

/-- A prefix that means nothing inside a tag is used in its name or in the key of an ordinary attribute. -/
def Lineage.UsesUnknownPrefix (l : Lineage) : Prop :=
  ∃ text ∈ l.tag.name :: l.tag.ordinary.map Prod.fst, ∃ pfx localName,
    text = pfx ++ ":" ++ localName ∧ ':' ∉ pfx.toList ∧ PrefixUnknown l.tags pfx

namespace Lineage

variable {l : Lineage} {e : Element}

theorem Makes.remakes (h : l.Makes e) {as : List (String × String)} (has : Rearranged as l.tag.attributes) :
    l.Remakes e as := by
  obtain ⟨hbindings, hname, hattributes⟩ := h.eqs
  -- other bindings, as lists, but under them all names of the tag mean the same
  have halike := has.alike_within (bindingsIn l.around)
  rw [show (bindingsIn l.around).within l.tag.attributes = e.bindings from hbindings.symm] at halike
  refine ⟨⟨e.name, e.attributes, (bindingsIn l.around).within as, []⟩,
    Element.ofTag_eq_ok.2 ⟨rfl, rfl, ?_, ?_⟩, rfl, rfl, halike⟩
  · rw [halike.expandTagName, hname]
  · rw [halike.expandAttributes, ← Bindings.expandAttributes_ordinary, has.ordinary,
      Bindings.expandAttributes_ordinary, hattributes]

theorem Makes.scopes (h : l.Makes e) : l.Scopes e := by
  obtain ⟨hbindings, hname, hattributes⟩ := h.eqs
  have hmeans : ∀ pfx space, e.bindings.Means pfx space → PrefixMeans l.tags pfx space := fun pfx space => by
    rw [hbindings]
    exact means_bindingsIn_iff.1
  constructor
  case prefixes =>
    intro pfx space
    rw [hbindings]
    exact means_bindingsIn_iff
  case unknown =>
    intro pfx
    rw [hbindings]
    exact space?_bindingsIn_eq_none_iff
  case default =>
    intro space
    rw [hbindings]
    exact default_bindingsIn_eq_iff
  case name => exact (standsFor_of_expandTagName hname).mono hmeans
  case attributes =>
    obtain ⟨written, hwritten, heq⟩ := written_of_expandAttributes hattributes
    exact ⟨written, hwritten.imp fun a w hw => ⟨hw.1.mono hmeans, hw.2⟩, heq⟩
  case order => exact fun as has => h.remakes has
  case anyOrder => exact fun hdistinct as hp hordinary => h.remakes (.of_perm hdistinct hp hordinary)

theorem Makes.not_usesUnknownPrefix (h : l.Makes e) : ¬ l.UsesUnknownPrefix := by
  rintro ⟨text, htext, pfx, localName, rfl, hcolon, hunknown⟩
  have hscopes := h.scopes
  have hnone : ∀ space, ¬ PrefixMeans l.tags pfx space := fun space hmeans => by
    rw [← hscopes.prefixes, (hscopes.unknown pfx).2 hunknown] at hmeans
    cases hmeans
  have hnot : ∀ unprefixed n, ¬ StandsFor (PrefixMeans l.tags) unprefixed (pfx ++ ":" ++ localName) n :=
    fun unprefixed n hn => hnone _ (hn.means hcolon)
  rcases List.mem_cons.1 htext with hname | hkey
  · exact hnot _ _ (hname ▸ hscopes.name)
  · obtain ⟨a, ha, hkey⟩ := List.mem_map.1 hkey
    obtain ⟨written, hwritten, -⟩ := hscopes.attributes
    have hsome : ∀ a ∈ l.tag.ordinary, ∃ w, Expands (PrefixMeans l.tags) a w :=
      ((List.forall₂_and_left _ _).1 (hwritten.imp fun a w hw => ⟨⟨w, hw⟩, hw⟩)).1
    obtain ⟨w, hw, -⟩ := hsome a ha
    rw [hkey] at hw
    exact hnot _ _ hw

end Lineage

/-- In a document that is read without a fault every element of the tree has its names from the tag that makes it and
the tags around that one, and from nowhere else. A document that uses a prefix which means nothing where it stands, in
the name of a tag or of an attribute, is not read. -/
theorem rootOf_scopes (limits : Limits) (document : Bytes) :
    (∀ root, rootOf limits document = .ok root →
      List.Forall₂ (fun l node => node.1 = l.around.length ∧ l.Scopes node.2)
        (lastTree (lineages [] (eventsOf document))) (nodesOf root)) ∧
    ∀ l ∈ lineages [] (eventsOf document), l.UsesUnknownPrefix → ∃ f, rootOf limits document = .error f := by
  constructor
  · intro root hroot
    exact (represents_of_rootOf hroot).1.imp fun l node hfits => ⟨hfits.1, hfits.2.scopes⟩
  · intro l hl hunknown
    rcases hroot : rootOf limits document with f | root
    · exact ⟨f, rfl⟩
    · obtain ⟨e, he⟩ := (represents_of_rootOf hroot).2 l hl
      exact absurd hunknown he.not_usesUnknownPrefix

theorem rootOf_scopes_nested : ∃ root, rootOf .standard nestedDocument = .ok root ∧
    List.Forall₂ (fun l node => node.1 = l.around.length ∧ l.Scopes node.2)
      (lastTree (lineages [] (eventsOf nestedDocument))) (nodesOf root) ∧
    ∃ f, rootOf .standard (Bytes.ofString "<a><q:b/></a>") = .error f := by
  have hcomputed : (rootOf .standard nestedDocument).toOption.map (fun root => (nodesOf root).length) = some 4 := by
    decide +kernel
  obtain ⟨root, hroot, -⟩ := Option.map_eq_some_iff.1 hcomputed
  have hok := Result.toOption_eq_some.1 hroot
  have htags : lineages [] (eventsOf (Bytes.ofString "<a><q:b/></a>")) =
      [⟨⟨"a", []⟩, []⟩, ⟨⟨"q:b", []⟩, [⟨"a", []⟩]⟩] := by
    decide +kernel
  refine ⟨root, hok, (rootOf_scopes .standard nestedDocument).1 root hok,
    (rootOf_scopes .standard (Bytes.ofString "<a><q:b/></a>")).2 ⟨⟨"q:b", []⟩, [⟨"a", []⟩]⟩ (by simp [htags]) ?_⟩
  exact ⟨"q:b", by simp, "q", "b", by decide, by decide, by decide, by decide⟩

/-- Two declarations of one prefix, which is spelled with different bytes in each. -/
def declaredTwice : List Bytes :=
  [Bytes.ofString " xmlns:" ++ [0xEE, 0xE0] ++ Bytes.ofString "='u1'",
    Bytes.ofString " xmlns:" ++ [0xFB, 0xFC] ++ Bytes.ofString "='u2'"]

/-- A document in the Japanese code page, of one element that has this prefix, with some declarations in its tag. -/
def declaring (declarations : List Bytes) : Bytes :=
  Bytes.ofString "<?xml version='1.0'" ++ Bytes.ofString " encoding='Shift_JIS'?>" ++ Bytes.ofString "<" ++
    [0xEE, 0xE0] ++ Bytes.ofString ":a" ++ declarations.flatten ++ Bytes.ofString "/>"

/-- Of two declarations of one prefix in a tag the later counts: the name of the element is another one when the two
are exchanged. -/
theorem rootOf_declaredTwice :
    ((lineages [] (eventsOf (declaring declaredTwice))).map Lineage.tag =
        [⟨"髙:a", [("xmlns:髙", "u1"), ("xmlns:髙", "u2")]⟩] ∧
      (rootOf .standard (declaring declaredTwice)).toOption.map (Option.map Element.name) = some (some ⟨"u2", "a"⟩)) ∧
    (lineages [] (eventsOf (declaring declaredTwice.reverse))).map Lineage.tag =
        [⟨"髙:a", [("xmlns:髙", "u2"), ("xmlns:髙", "u1")]⟩] ∧
      (rootOf .standard (declaring declaredTwice.reverse)).toOption.map (Option.map Element.name) =
        some (some ⟨"u1", "a"⟩) := by
  refine ⟨⟨?_, ?_⟩, ?_, ?_⟩ <;> decide +kernel

end SchemaHints.Xml
