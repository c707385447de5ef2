/-
Attributes along a derivation. A type starts with the attributes of its base, whatever the method of derivation,
and applies its own list to them; so an inherited attribute is lost in exactly those steps whose own list, with
its groups replaced by what they hold, prohibits it last. The method is not asked: an extension loses what it
prohibits as a restriction does.

The content of a base is derived under the names of the types that are being derived from it. Fewer such names
only make circular derivations rarer, so the base has the same content by itself.
-/
import SchemaHints.FileTree
import SchemaHints.Proofs.Content.Attributes
import SchemaHints.Proofs.Document.Naming

namespace SchemaHints.Schema

variable {s : Schema}

/-! ## Bases -/

/-- `b` is the type that `t` is derived from. -/
def BaseOf (s : Schema) (t b : ComplexType) : Prop :=
  ∃ method base, t.derivation = some ⟨method, base⟩ ∧ s.typeNamed base = .ok (.complex b)

theorem BaseOf.unique {t b b' : ComplexType} (hb : s.BaseOf t b) (hb' : s.BaseOf t b') : b = b' := by
  obtain ⟨method, base, ht, hbase⟩ := hb
  obtain ⟨method', base', ht', hbase'⟩ := hb'
  rw [ht] at ht'
  cases ht'
  rw [hbase] at hbase'
  cases hbase'
  rfl

/-- The last use of a name in the list of attributes that a type has itself, its groups replaced by what they
hold, prohibits the attribute. -/
def Prohibits (s : Schema) (t : ComplexType) (n : Name) : Prop :=
  ∃ es m, (s.flatten [] t.attributes).mapM s.edit? = some es ∧ lastEdit n es = some (.remove m)

/-- The types that are derived from `a` one after another, the first of them last: each is the base of the one
before. -/
inductive DerivesThrough (s : Schema) : ComplexType → List ComplexType → ComplexType → Prop
  | self {t : ComplexType} : DerivesThrough s t [] t
  | step {t b a : ComplexType} {ts : List ComplexType} :
    s.BaseOf t b → DerivesThrough s b ts a → DerivesThrough s t (t :: ts) a

/-- What a type contains is the same when fewer types are being derived from it. -/
theorem keptBy_complexContent {within within' : List Name} (hw : ∀ n ∈ within', n ∈ within) (t : ComplexType) :
    Result.KeptBy (s.complexContent within t) (s.complexContent within' t) := by
  fun_induction complexContent s within t generalizing within' with
  | case1 within t ht =>
    rw [complexContent_of_plain ht]
    exact Result.keptBy_refl _
  | case2 within t method base ht hb =>
    rw [complexContent_of_builtin ht hb]
    exact Result.keptBy_refl _
  | case3 => exact Result.keptBy_fail _ _
  | case4 within t method base ht hb type htype =>
    rw [complexContent_of_simple ht hb htype]
    exact Result.keptBy_refl _
  | case5 => exact Result.keptBy_fail _ _
  | case6 within t method base ht hb baseType htype hn ih =>
    rw [complexContent_of_complex ht hb htype fun h => hn (hw base h)]
    have hbase : ∀ n ∈ base :: within', n ∈ base :: within := by
      intro n h
      rcases List.mem_cons.1 h with rfl | h
      · exact List.mem_cons_self ..
      · exact List.mem_cons_of_mem _ (hw n h)
    exact (ih hbase).bind fun _ => Result.keptBy_refl _

theorem content_eq_ok {t : ComplexType} {c : Content} :
    ResolvedType.content s (.complex t) = .ok (.complex c) ↔ s.complexContent t.name.toList t = .ok c := by
  show (s.complexContent t.name.toList t >>= fun content => .ok (ContentType.complex content)) = _ ↔ _
  rw [Result.bind_eq_ok]
  constructor
  · rintro ⟨content, hc, h⟩
    cases h
    exact hc
  · exact fun hc => ⟨c, hc, rfl⟩

/-- What a type contains it has by itself, or adds to what it takes over from a base that is not among the types
being derived from it. -/
theorem complexContent_cases {within : List Name} {t : ComplexType} {c : Content}
    (hc : s.complexContent within t = .ok c) :
    (∀ b, ¬ s.BaseOf t b) ∧ s.ownContent t .empty = .ok c ∨
    ∃ method base b inherited, t.derivation = some ⟨method, base⟩ ∧ s.typeNamed base = .ok (.complex b) ∧
      base ∉ within ∧ s.complexContent (base :: within) b = .ok inherited ∧
      s.ownContent t (inherited.inherited method t) = .ok c := by
  have hroot {method : DerivationMethod} {base : Name} (ht : t.derivation = some ⟨method, base⟩)
      (hb : ∀ b, s.typeNamed base ≠ .ok (.complex b)) (b : ComplexType) : ¬ s.BaseOf t b := by
    rintro ⟨method', base', ht', hbase⟩
    rw [ht] at ht'
    cases ht'
    exact hb b hbase
  revert hc
  fun_cases complexContent s within t with
  | case1 ht =>
    refine fun hc => .inl ⟨?_, hc⟩
    rintro b ⟨method, base, ht', -⟩
    rw [ht] at ht'
    cases ht'
  | case2 method base ht hb => exact fun hc => .inl ⟨hroot ht fun b h => (typeNamed_eq_complex.1 h).1 hb, hc⟩
  | case3 => exact fun hc => by cases hc
  | case4 method base ht hb type htype =>
    refine fun hc => .inl ⟨hroot ht fun b h => ?_, hc⟩
    have hget := (typeNamed_eq_complex.1 h).2
    rw [htype] at hget
    cases hget
  | case5 => exact fun hc => by cases hc
  | case6 method base ht hb baseType htype hn =>
    intro hc
    obtain ⟨inherited, hi, hc⟩ := Result.bind_eq_ok.1 hc
    exact .inr ⟨method, base, baseType, inherited, ht, typeNamed_eq_complex.2 ⟨hb, htype⟩, hn, hi, hc⟩

/-- A type that has a base applies its own attributes to those of the base. -/
theorem exists_content_of_base (hs : s.Named) {t b : ComplexType} (hb : s.BaseOf t b) {c : Content}
    (hc : ResolvedType.content s (.complex t) = .ok (.complex c)) :
    ∃ inherited, ResolvedType.content s (.complex b) = .ok (.complex inherited) ∧
      s.applyAttributes t.attributes inherited.attributes = .ok c.attributes := by
  rcases complexContent_cases (content_eq_ok.1 hc) with ⟨hroot, -⟩ | ⟨method, base, b', inherited, ht, hbase, -, hi, hown⟩
  · exact absurd hb (hroot b)
  obtain rfl : b' = b := BaseOf.unique ⟨method, base, ht, hbase⟩ hb
  obtain ⟨attributes, hattributes, h⟩ := Result.bind_eq_ok.1 hown
  cases h
  refine ⟨inherited, content_eq_ok.2 ?_, hattributes⟩
  -- the name of the base is the only one that its own derivation starts with
  have hname : b'.name.toList = [base] := by
    rw [hs.types base b' (typeNamed_eq_complex.1 hbase).2, Option.toList_some]
  refine keptBy_complexContent ?_ b' inherited hi
  rw [hname]
  intro n h
  rw [List.mem_singleton.1 h]
  exact List.mem_cons_self ..

/-! ## Attributes that are kept -/

/-- One step of derivation loses those attributes of the base that its own list prohibits last. -/
theorem mem_keys_of_base (hs : s.Named) {t b : ComplexType} (hb : s.BaseOf t b) {c : Content}
    (hc : ResolvedType.content s (.complex t) = .ok (.complex c)) :
    ∃ inherited, ResolvedType.content s (.complex b) = .ok (.complex inherited) ∧
      ∀ n ∈ inherited.attributes.keys, (n ∈ c.attributes.keys ↔ ¬ s.Prohibits t n) := by
  obtain ⟨inherited, hi, happly⟩ := exists_content_of_base hs hb hc
  obtain ⟨es, hflat, hedited⟩ := exists_edited happly
  refine ⟨inherited, hi, fun n hn => ?_⟩
  have hprohibits : s.Prohibits t n ↔ ∃ m, lastEdit n es = some (.remove m) := by
    constructor
    · rintro ⟨es', m, hflat', hlast⟩
      rw [hflat] at hflat'
      cases hflat'
      exact ⟨m, hlast⟩
    · rintro ⟨m, hlast⟩
      exact ⟨es, m, hflat, hlast⟩
  rw [hedited.mem_keys_iff, hprohibits]
  rcases lastEdit n es with _ | ⟨declaration⟩ | ⟨m⟩ <;> simp [hn]

/-- Some steps of derivation lose what one of them prohibits. -/
theorem exists_prohibits (hs : s.Named) {t a : ComplexType} {ts : List ComplexType}
    (hd : s.DerivesThrough t ts a) {c : Content} (hc : ResolvedType.content s (.complex t) = .ok (.complex c)) :
    ∃ inherited, ResolvedType.content s (.complex a) = .ok (.complex inherited) ∧
      ∀ n ∈ inherited.attributes.keys, n ∉ c.attributes.keys → ∃ u ∈ ts, s.Prohibits u n := by
  induction hd generalizing c with
  | self => exact ⟨c, hc, fun n hn hnot => absurd hn hnot⟩
  | step hb _ ih =>
    obtain ⟨between, hbetween, hstep⟩ := mem_keys_of_base hs hb hc
    obtain ⟨inherited, hi, hrest⟩ := ih hbetween
    refine ⟨inherited, hi, fun n hn hnot => ?_⟩
    by_cases hkept : n ∈ between.attributes.keys
    · exact ⟨_, List.mem_cons_self .., not_not.1 fun h => hnot ((hstep n hkept).2 h)⟩
    · obtain ⟨u, hu, hprohibits⟩ := hrest n hn hkept
      exact ⟨u, List.mem_cons_of_mem _ hu, hprohibits⟩

/-- In a compiled schema a type that is derived from another, by extension or by restriction, has the attributes
of its base except those that its own list of attributes, groups included, prohibits last, and the base has its
attributes whenever the type has its own. So along a chain of derivations an attribute is lost only if some
type on the way prohibits it. -/
theorem inherited_attributes (h : s.Compiled) {t : ComplexType} {c : Content}
    (hc : ResolvedType.content s (.complex t) = .ok (.complex c)) :
    (∀ b, s.BaseOf t b → ∃ inherited, ResolvedType.content s (.complex b) = .ok (.complex inherited) ∧
      ∀ n ∈ inherited.attributes.keys, (n ∈ c.attributes.keys ↔ ¬ s.Prohibits t n)) ∧
    ∀ ts a, s.DerivesThrough t ts a → ∃ inherited,
      ResolvedType.content s (.complex a) = .ok (.complex inherited) ∧
      ∀ n ∈ inherited.attributes.keys, n ∉ c.attributes.keys → ∃ u ∈ ts, s.Prohibits u n :=
  ⟨fun _ hb => mem_keys_of_base h.named hb hc, fun _ _ hd => exists_prohibits h.named hd hc⟩

/-! ## An extension that prohibits -/

/-- A type, and an extension of it that prohibits its attribute. -/
def prohibitingExtension : FileTree := .ofFiles [("main.xsd", documentBytes "" [
  "<xs:complexType name='base'>", "<xs:attribute name='id'/>", "</xs:complexType>",
  "<xs:complexType name='derived'><xs:complexContent>", "<xs:extension base='base'>",
  "<xs:attribute name='id' use='prohibited'/>", "</xs:extension></xs:complexContent></xs:complexType>"])]

/-- What a complex type says, but for its particle, when its attributes are all declared in place. -/
structure Outline where
  derivation : Option Derivation
  attributes : List (Option (Name × Bool))
  deriving DecidableEq

/-- The outline of a complex type. -/
def outline (s : Schema) (n : Name) : Option Outline :=
  match s.types.get? n with
  | some (.complex t) => some ⟨t.derivation, t.attributes.map fun
    | .declared declaration prohibited => some (declaration.name, prohibited)
    | _ => none⟩
  | _ => none

theorem exists_type_of_outline {n : Name} {derivation : Option Derivation} {name : Name} {prohibited : Bool}
    (h : s.outline n = some ⟨derivation, [some (name, prohibited)]⟩) :
    ∃ (t : ComplexType) (declaration : AttributeDecl), s.types.get? n = some (.complex t) ∧
      t.derivation = derivation ∧ t.attributes = [.declared declaration prohibited] ∧ declaration.name = name := by
  unfold outline at h
  split at h
  · rename_i t ht
    simp only [Option.some.injEq, Outline.mk.injEq] at h
    obtain ⟨hderivation, hattributes⟩ := h
    obtain ⟨item, hitem, hname⟩ := List.map_eq_singleton_iff.1 hattributes
    cases item with
    | declared declaration p =>
      cases hname
      exact ⟨t, declaration, ht, hderivation, hitem, rfl⟩
    | _ => cases hname
  · cases h

theorem applyAttributes_singleton (declaration : AttributeDecl) (prohibited : Bool)
    (table : Keyed Name AttributeDecl) : s.applyAttributes [.declared declaration prohibited] table =
      .ok (if prohibited then table.erase declaration.name else table.insert declaration.name declaration) := by
  unfold applyAttributes
  rw [edits, edits]
  cases prohibited <;> rfl

/-- A type that declares one attribute in place has it, or lacks it, whatever it takes over. -/
theorem exists_ownContent {t : ComplexType} {declaration : AttributeDecl} {prohibited : Bool}
    (ht : t.attributes = [.declared declaration prohibited]) (inherited : Content) :
    ∃ c, s.ownContent t inherited = .ok c ∧ (declaration.name ∈ c.attributes.keys ↔ prohibited = false) := by
  unfold ownContent
  rw [ht, applyAttributes_singleton]
  refine ⟨_, rfl, ?_⟩
  cases prohibited with
  | true => simp [Keyed.keys_erase]
  | false => simp [Keyed.keys_insert, Keyed.mem_keys_insertNew]

/-- In the schema of `prohibitingExtension` the extension lacks an attribute of its base. -/
theorem exists_prohibitingExtension : ∃ (s : Schema) (t b : ComplexType) (base n : Name) (c inherited : Content),
    s.Compiled ∧ t.derivation = some ⟨.extension, base⟩ ∧ s.typeNamed base = .ok (.complex b) ∧
    ResolvedType.content s (.complex t) = .ok (.complex c) ∧
    ResolvedType.content s (.complex b) = .ok (.complex inherited) ∧
    n ∈ inherited.attributes.keys ∧ n ∉ c.attributes.keys := by
  have hcomputed : (compiledWithin prohibitingExtension.toFiles .standard (.ofString "main.xsd") 0).map
      (fun s => (s.outline (.plain "base"), s.outline (.plain "derived"))) =
      some (some ⟨none, [some (.plain "id", false)]⟩,
        some ⟨some ⟨.extension, .plain "base"⟩, [some (.plain "id", true)]⟩) := by
    decide +kernel
  obtain ⟨s, hs, houtlines⟩ := exists_compileFile hcomputed
  have hcompiled : s.Compiled := .inl ⟨_, _, _, hs⟩
  obtain ⟨hbase, hderived⟩ := Prod.mk.inj houtlines
  obtain ⟨b, declaration, hb, hplain, hset, hname⟩ := exists_type_of_outline hbase
  obtain ⟨t, prohibition, ht, hextension, hremoved, hprohibited⟩ := exists_type_of_outline hderived
  have htname : t.name = some (.plain "derived") := hcompiled.named.types _ t ht
  have hspace : ¬ isSchemaNamespace (Name.plain "base").space = true := by decide
  -- the base has the attribute, under whatever types are derived from it
  obtain ⟨inherited, hi, hhas⟩ := exists_ownContent (s := s) hset .empty
  have hbcontent (within : List Name) : s.complexContent within b = .ok inherited := by
    rw [complexContent_of_plain hplain]
    exact hi
  obtain ⟨c, hc, hlacks⟩ := exists_ownContent (s := s) hremoved (inherited.inherited .extension t)
  have htcontent : s.complexContent t.name.toList t = .ok c := by
    rw [complexContent_of_complex hextension hspace hb (by rw [htname]; decide), hbcontent]
    exact hc
  refine ⟨s, t, b, .plain "base", .plain "id", c, inherited, hcompiled, hextension,
    typeNamed_eq_complex.2 ⟨hspace, hb⟩, content_eq_ok.2 htcontent, content_eq_ok.2 (hbcontent _), ?_, ?_⟩
  · rw [← hname]
    exact hhas.2 rfl
  · rw [← hprohibited, hlacks]
    exact Bool.noConfusion

/-- An extension may lose an attribute of its base: not every name in the attributes of the base is among
those of the extension. -/
theorem not_extension_keeps : ¬∀ (s : Schema), s.Compiled → ∀ (t b : ComplexType) (base : Name),
    t.derivation = some ⟨.extension, base⟩ → s.typeNamed base = .ok (.complex b) →
    ∀ c inherited, ResolvedType.content s (.complex t) = .ok (.complex c) →
      ResolvedType.content s (.complex b) = .ok (.complex inherited) →
      ∀ n ∈ inherited.attributes.keys, n ∈ c.attributes.keys := by
  intro hall
  obtain ⟨s, t, b, base, n, c, inherited, hs, ht, hb, hc, hi, hn, hlost⟩ := exists_prohibitingExtension
  exact hlost (hall s hs t b base ht hb c inherited hc hi n hn)

theorem inherited_attributes_prohibited : ∃ (s : Schema) (t b : ComplexType) (n : Name) (c inherited : Content),
    s.Compiled ∧ s.BaseOf t b ∧ ResolvedType.content s (.complex t) = .ok (.complex c) ∧
    ResolvedType.content s (.complex b) = .ok (.complex inherited) ∧
    n ∈ inherited.attributes.keys ∧ s.Prohibits t n := by
  obtain ⟨s, t, b, base, n, c, inherited, hs, ht, hb, hc, hi, hn, hlost⟩ := exists_prohibitingExtension
  have hbase : s.BaseOf t b := ⟨.extension, base, ht, hb⟩
  obtain ⟨inherited', hi', hiff⟩ := (inherited_attributes hs hc).1 b hbase
  rw [hi] at hi'
  cases hi'
  exact ⟨s, t, b, n, c, inherited, hs, hbase, hc, hi, hn, not_not.1 fun h => hlost ((hiff n hn).2 h)⟩

end SchemaHints.Schema
