/-
Circular derivations, and what else keeps a type from having content. From a type the names of bases lead on as
long as they are the names of complex types; a base that is built in, simple or not defined ends the way. The
content of the type is refused as circular exactly when a name comes again on that way, its own or any other, and
the name reported is the first that does.

The bases come first: attributes are applied only once the content of the base is known. So on a way that goes
round nothing else can be refused before, and on a way that ends nothing is refused but what a type on it needs and
the schema does not define.
-/
import SchemaHints.Proofs.Content.Derivation

namespace SchemaHints.Schema

open Result

variable {s : Schema}

/-! ## Ways from base to base -/

/-- The names of the bases that lead from a type to another. -/
inductive Passes (s : Schema) : ComplexType → List Name → ComplexType → Prop
  | start {t : ComplexType} : Passes s t [] t
  | step {t b a : ComplexType} {method : DerivationMethod} {n : Name} {ns : List Name} :
    t.derivation = some ⟨method, n⟩ → s.typeNamed n = .ok (.complex b) → Passes s b ns a → Passes s t (n :: ns) a

/-- On the way from `t` the name `n` is the first that has come before, as a base or within `within`. -/
def ComesAgain (s : Schema) (within : List Name) (t : ComplexType) (n : Name) : Prop :=
  ∃ ns a, s.Passes t (ns ++ [n]) a ∧ (within ++ ns).Nodup ∧ n ∈ within ++ ns

/-- Uses in a list of attributes that refer to what is not defined. -/
inductive MeetsUndefined (s : Schema) (within : List Name) (items : List AttributeItem) : Cause → Prop
  | group {n : Name} : s.Meets within items (.groupRef n) → s.attributeGroups.get? n = none →
    MeetsUndefined s within items (.undefined .attributeGroups n)
  | reference {n : Name} : s.Meets within items (.attributeRef n false) → s.attributes.get? n = none →
    MeetsUndefined s within items (.undefined .attributes n)

/-- What a type needs itself and the schema does not define: its base, or something in its list of attributes. -/
inductive Lacks (s : Schema) (t : ComplexType) : Cause → Prop
  | base {method : DerivationMethod} {n : Name} : t.derivation = some ⟨method, n⟩ →
    s.typeNamed n = fail (.undefined .types n) → Lacks s t (.undefined .types n)
  | attributes {cause : Cause} : s.MeetsUndefined [] t.attributes cause → Lacks s t cause

/-! ## Attributes -/

theorem MeetsUndefined.mono {within within' : List Name} {items items' : List AttributeItem} {cause : Cause}
    (hm : ∀ item, s.Meets within' items' item → s.Meets within items item)
    (h : s.MeetsUndefined within' items' cause) : s.MeetsUndefined within items cause := by
  cases h with
  | group h hn => exact .group (hm _ h) hn
  | reference h hn => exact .reference (hm _ h) hn

/-- A list of attributes is refused only for a use that refers to what is not defined. -/
theorem meetsUndefined_of_edits (within : List Name) (items : List AttributeItem) :
    FailsIn (fun f => s.MeetsUndefined within items f.cause) (s.edits within items) := by
  have hrest {within : List Name} {first : AttributeItem} {rest : List AttributeItem} (f : Fault)
      (h : s.MeetsUndefined within rest f.cause) : s.MeetsUndefined within (first :: rest) f.cause :=
    h.mono fun _ hm => meets_cons.2 (.inr (.inr hm))
  fun_induction edits s within items with
  | case1 => exact failsIn_ok _
  | case2 within declaration prohibited rest ih => exact (ih.mono hrest).bind fun _ _ => failsIn_ok _
  | case3 within n rest ih => exact (ih.mono hrest).bind fun _ _ => failsIn_ok _
  | case4 within n prohibited rest hp ih =>
    refine FailsIn.bind (fun f hf => ?_) fun _ _ => (ih.mono hrest).bind fun _ _ => failsIn_ok _
    have hfalse : prohibited = false := Bool.eq_false_iff.2 hp
    unfold globalAttribute find at hf
    split at hf
    · cases hf
    · rename_i hnone
      cases hf
      exact .reference (.here (by rw [hfalse]; exact List.mem_cons_self ..)) hnone
  | case5 within n rest hn ih => exact ih.mono hrest
  | case6 within n rest hn hnone => exact failsIn_fail (.group (.here (List.mem_cons_self ..)) hnone)
  | case7 within n rest hn inner hi ihInner ih =>
    have hinner (f : Fault) (h : s.MeetsUndefined (n :: within) inner f.cause) :
        s.MeetsUndefined within (.groupRef n :: rest) f.cause :=
      h.mono fun _ hm => .inside (List.mem_cons_self ..) hn hi hm
    exact (ihInner.mono hinner).bind fun _ _ => (ih.mono hrest).bind fun _ _ => failsIn_ok _

theorem lacks_of_ownContent (t : ComplexType) (inherited : Content) :
    FailsIn (fun f => s.Lacks t f.cause) (s.ownContent t inherited) := by
  have happly : FailsIn (fun f => s.Lacks t f.cause) (s.applyAttributes t.attributes inherited.attributes) :=
    ((meetsUndefined_of_edits [] t.attributes).mono fun _ => .attributes).bind fun _ _ => failsIn_ok _
  exact happly.bind fun _ _ => failsIn_ok _

/-- A list of attributes that is applied refers to nothing that is not defined. -/
theorem not_meetsUndefined_of_ownContent {t : ComplexType} {inherited c : Content}
    (h : s.ownContent t inherited = .ok c) (cause : Cause) : ¬ s.MeetsUndefined [] t.attributes cause := by
  obtain ⟨_, h, -⟩ := Result.bind_eq_ok.1 h
  obtain ⟨es, hes, -⟩ := Result.bind_eq_ok.1 h
  obtain ⟨hgroups, hattributes⟩ := exists_edits_iff.1 ⟨es, hes⟩
  rintro (⟨hm, hnone⟩ | ⟨hm, hnone⟩)
  · obtain ⟨inner, hinner⟩ := hgroups _ hm
    rw [hnone] at hinner
    cases hinner
  · obtain ⟨declaration, hd⟩ := hattributes _ hm
    rw [find_eq_ok_iff.1 hd] at hnone
    cases hnone

/-! ## Ways that go round, and ways that end -/

namespace ComesAgain

variable {within : List Name} {t b : ComplexType} {method : DerivationMethod} {m n : Name}

theorem here (hw : within.Nodup) (ht : t.derivation = some ⟨method, n⟩) (hbase : s.typeNamed n = .ok (.complex b))
    (hn : n ∈ within) : s.ComesAgain within t n := by
  refine ⟨[], b, .step ht hbase .start, ?_, List.mem_append_left _ hn⟩
  rw [List.append_nil]
  exact hw

theorem step (ht : t.derivation = some ⟨method, m⟩) (hbase : s.typeNamed m = .ok (.complex b))
    (h : s.ComesAgain (m :: within) b n) : s.ComesAgain within t n := by
  obtain ⟨ns, a, hp, hfresh, hmem⟩ := h
  exact ⟨m :: ns, a, .step ht hbase hp, List.perm_middle.nodup_iff.2 hfresh, List.perm_middle.mem_iff.2 hmem⟩

theorem not_nodup (h : s.ComesAgain within t n) : ∃ ns a, s.Passes t ns a ∧ ¬ (within ++ ns).Nodup := by
  obtain ⟨ns, a, hp, -, hmem⟩ := h
  refine ⟨ns ++ [n], a, hp, fun hnodup => ?_⟩
  rw [← List.append_assoc] at hnodup
  exact List.disjoint_of_nodup_append hnodup hmem (List.mem_singleton_self n)

end ComesAgain

/-- What a type lacks is never what it is called circular for. -/
theorem Lacks.ne_circular {t : ComplexType} {n : Name} : ¬ s.Lacks t (.circularDerivation n) := by
  intro h
  cases h with
  | attributes h => cases h

/-- What a type is refused for: a name that comes again on its way, or something that a type on the way lacks. -/
theorem failsIn_complexContent_way {within : List Name} (hw : within.Nodup) (t : ComplexType) :
    FailsIn (fun f => (∃ n, f.cause = .circularDerivation n ∧ s.ComesAgain within t n) ∨
      ∃ ns a, s.Passes t ns a ∧ s.Lacks a f.cause) (s.complexContent within t) := by
  have hown {within : List Name} {t : ComplexType} {inherited : Content} : FailsIn (fun f =>
      (∃ n, f.cause = .circularDerivation n ∧ s.ComesAgain within t n) ∨
        ∃ ns a, s.Passes t ns a ∧ s.Lacks a f.cause) (s.ownContent t inherited) :=
    (lacks_of_ownContent t inherited).mono fun _ h => .inr ⟨[], t, .start, h⟩
  fun_induction complexContent s within t with
  | case1 => exact hown
  | case2 => exact hown
  | case3 within t method base ht hb hnone =>
    exact failsIn_fail (.inr ⟨[], t, .start, .base ht (typeNamed_eq_undefined.2 ⟨hb, hnone⟩)⟩)
  | case4 => exact hown
  | case5 within t method base ht hb baseType htype hn =>
    exact failsIn_fail (.inl ⟨base, rfl, .here hw ht (typeNamed_eq_complex.2 ⟨hb, htype⟩) hn⟩)
  | case6 within t method base ht hb baseType htype hn ih =>
    have hbase : s.typeNamed base = .ok (.complex baseType) := typeNamed_eq_complex.2 ⟨hb, htype⟩
    refine ((ih (List.nodup_cons.2 ⟨hn, hw⟩)).mono fun f hf => ?_).bind fun _ _ => hown
    rcases hf with ⟨n, hcause, hagain⟩ | ⟨ns, a, hp, hlacks⟩
    · exact .inl ⟨n, hcause, hagain.step ht hbase⟩
    · exact .inr ⟨base :: ns, a, .step ht hbase hp, hlacks⟩

/-- A type on whose way a name comes again is refused for the first that does. -/
theorem complexContent_of_comesAgain {within : List Name} {t : ComplexType} {n : Name}
    (h : s.ComesAgain within t n) : s.complexContent within t = fail (.circularDerivation n) := by
  obtain ⟨ns, a, hp, hfresh, hmem⟩ := h
  induction ns generalizing within t with
  | nil =>
    cases hp with
    | step ht hbase _ =>
      obtain ⟨hspace, hget⟩ := typeNamed_eq_complex.1 hbase
      rw [List.append_nil] at hmem
      exact complexContent_of_circular ht hspace hget hmem
  | cons m ns ih =>
    cases hp with
    | step ht hbase hp =>
      obtain ⟨hspace, hget⟩ := typeNamed_eq_complex.1 hbase
      have hfresh' : (m :: within ++ ns).Nodup := List.perm_middle.nodup_iff.1 hfresh
      have hm : m ∉ within := fun h => (List.nodup_cons.1 hfresh').1 (List.mem_append_left _ h)
      rw [complexContent_of_complex ht hspace hget hm, ih hp hfresh' (List.perm_middle.mem_iff.1 hmem)]
      rfl

/-- On a way on which some name comes twice there is a first that comes again. -/
theorem exists_comesAgain {within : List Name} (hw : within.Nodup) {t a : ComplexType} {ns : List Name}
    (hp : s.Passes t ns a) (htwice : ¬ (within ++ ns).Nodup) : ∃ n, s.ComesAgain within t n := by
  induction hp generalizing within with
  | start => exact absurd (by rw [List.append_nil]; exact hw) htwice
  | @step t b a method m ns ht hbase _ ih =>
    by_cases hm : m ∈ within
    · exact ⟨m, .here hw ht hbase hm⟩
    · have htwice' : ¬ (m :: within ++ ns).Nodup := fun h => htwice (List.perm_middle.nodup_iff.2 h)
      obtain ⟨n, hagain⟩ := ih (List.nodup_cons.2 ⟨hm, hw⟩) htwice'
      exact ⟨n, hagain.step ht hbase⟩

/-- When the content of a type is known, no type on its way lacks anything. -/
theorem not_lacks_of_complexContent {within : List Name} {t a : ComplexType} {c : Content} {ns : List Name}
    (hp : s.Passes t ns a) (hc : s.complexContent within t = .ok c) (cause : Cause) : ¬ s.Lacks a cause := by
  induction hp generalizing within c with
  | start =>
    rintro (⟨ht, hnone⟩ | hattributes)
    · obtain ⟨hspace, hget⟩ := typeNamed_eq_undefined.1 hnone
      rw [complexContent_of_undefined ht hspace hget] at hc
      cases hc
    · rcases complexContent_cases hc with ⟨-, hown⟩ | ⟨_, _, _, _, -, -, -, -, hown⟩
      · exact not_meetsUndefined_of_ownContent hown cause hattributes
      · exact not_meetsUndefined_of_ownContent hown cause hattributes
  | @step t b a method n ns ht hbase _ ih =>
    rcases complexContent_cases hc with ⟨hroot, -⟩ | ⟨method', base, b', inherited, ht', hbase', -, hi, -⟩
    · exact absurd ⟨method, n, ht, hbase⟩ (hroot b)
    · obtain rfl : b' = b := BaseOf.unique ⟨method', base, ht', hbase'⟩ ⟨method, n, ht, hbase⟩
      exact ih hi

/-! ## The content of elements -/

section Element

variable {e : ElementDecl} {t : ComplexType} (ht : s.elementType e = .ok (.complex t))

include ht

theorem contentType_of_complex : s.contentType e = (do
    let content ← s.complexContent t.name.toList t
    .ok (.complex content)) := by
  rw [contentType, ht]
  rfl

theorem contentType_eq_error {f : Fault} :
    s.contentType e = .error f ↔ s.complexContent t.name.toList t = .error f := by
  rw [contentType_of_complex ht]
  cases s.complexContent t.name.toList t with
  | error f' =>
    show (Except.error f' : Result ContentType) = _ ↔ _
    rw [Except.error.injEq, Except.error.injEq]
  | ok c => exact ⟨nofun, nofun⟩

theorem exists_contentType_iff : (∃ c, s.contentType e = .ok c) ↔ ∃ c, s.complexContent t.name.toList t = .ok c := by
  rw [contentType_of_complex ht]
  constructor
  · rintro ⟨_, h⟩
    obtain ⟨c, hc, -⟩ := Result.bind_eq_ok.1 h
    exact ⟨c, hc⟩
  · rintro ⟨c, hc⟩
    rw [hc]
    exact ⟨_, rfl⟩

end Element

theorem nodup_name (t : ComplexType) : t.name.toList.Nodup := by
  cases t.name with
  | none => exact List.nodup_nil
  | some n => exact List.nodup_singleton n

/-- The content of a complex type is refused as circular for a name exactly when that is the first to come again. -/
theorem complexContent_eq_circular {t : ComplexType} {n : Name} :
    s.complexContent t.name.toList t = fail (.circularDerivation n) ↔ s.ComesAgain t.name.toList t n := by
  refine ⟨fun h => ?_, complexContent_of_comesAgain⟩
  rcases failsIn_complexContent_way (nodup_name t) t _ h with ⟨m, hm, hagain⟩ | ⟨_, _, -, hlacks⟩
  · cases hm
    exact hagain
  · exact absurd hlacks Lacks.ne_circular

/-- The content of an element of a complex type is refused as circular exactly when a name comes twice on the way of
that type, its own name included, and then the name reported is the first that comes again. When no name comes twice
the content is known exactly when no type on the way lacks anything, and a fault says what one of them lacks: its
base, a group of attributes or an attribute that is not prohibited. -/
theorem contentType_circular {e : ElementDecl} {t : ComplexType} (ht : s.elementType e = .ok (.complex t)) :
    ((∃ n, s.contentType e = fail (.circularDerivation n)) ↔
      ∃ ns a, s.Passes t ns a ∧ ¬ (t.name.toList ++ ns).Nodup) ∧
    (∀ n, s.contentType e = fail (.circularDerivation n) ↔ s.ComesAgain t.name.toList t n) ∧
    ((∀ ns a, s.Passes t ns a → (t.name.toList ++ ns).Nodup) →
      ((∃ c, s.contentType e = .ok c) ↔ ∀ ns a, s.Passes t ns a → ∀ cause, ¬ s.Lacks a cause) ∧
      ∀ f, s.contentType e = .error f → ∃ ns a, s.Passes t ns a ∧ s.Lacks a f.cause) := by
  have hcircular (n : Name) :
      s.contentType e = fail (.circularDerivation n) ↔ s.ComesAgain t.name.toList t n :=
    (contentType_eq_error ht).trans complexContent_eq_circular
  refine ⟨⟨?_, ?_⟩, hcircular, fun hfresh => ?_⟩
  · rintro ⟨n, h⟩
    exact ((hcircular n).1 h).not_nodup
  · rintro ⟨ns, a, hp, htwice⟩
    obtain ⟨n, hagain⟩ := exists_comesAgain (nodup_name t) hp htwice
    exact ⟨n, (hcircular n).2 hagain⟩
  have hlacks (f : Fault) (h : s.complexContent t.name.toList t = .error f) :
      ∃ ns a, s.Passes t ns a ∧ s.Lacks a f.cause := by
    rcases failsIn_complexContent_way (nodup_name t) t f h with ⟨n, -, hagain⟩ | h
    · obtain ⟨ns, a, hp, htwice⟩ := hagain.not_nodup
      exact absurd (hfresh ns a hp) htwice
    · exact h
  refine ⟨(exists_contentType_iff ht).trans ⟨?_, fun hnone => ?_⟩, fun f h => ?_⟩
  · rintro ⟨c, hc⟩ ns a hp
    exact not_lacks_of_complexContent hp hc
  · cases hc : s.complexContent t.name.toList t with
    | ok c => exact ⟨c, rfl⟩
    | error f =>
      obtain ⟨ns, a, hp, h⟩ := hlacks f hc
      exact absurd h (hnone ns a hp _)
  · exact hlacks f ((contentType_eq_error ht).1 h)

/-- A type that extends another, with no content model of its own. -/
def extending (name base : String) (attributes : List AttributeItem) : ComplexType :=
  ⟨some (.plain name), some ⟨.extension, .plain base⟩, false, .empty, attributes⟩

/-- A type that refers to an attribute. -/
def referring (name attr : String) : ComplexType :=
  ⟨some (.plain name), none, false, .empty, [.attributeRef (.plain attr) false]⟩

/-- Two types that extend each other, the first with a group of attributes that is not defined, a third that extends
the first, and one with an attribute that is not declared. -/
def spirals : Schema :=
  { Schema.empty with
    types := ⟨[(.plain "left", .complex (extending "left" "right" [.groupRef (.plain "lost")])),
      (.plain "right", .complex (extending "right" "left" [])), (.plain "tail", .complex (extending "tail" "left" [])),
      (.plain "alone", .complex (referring "alone" "lost"))], by decide⟩ }

theorem contentType_circular_spirals :
    spirals.contentType (.simple (.plain "item") (.named (.plain "tail"))) =
      fail (.circularDerivation (.plain "left")) ∧
    ¬ ∃ c, spirals.contentType (.simple (.plain "item") (.named (.plain "alone"))) = .ok c := by
  have htype {n : String} {t : ComplexType} (h : spirals.types.get? (.plain n) = some (.complex t)) :
      spirals.typeNamed (.plain n) = .ok (.complex t) := typeNamed_eq_complex.2 ⟨Bool.false_ne_true, h⟩
  constructor
  · have htail : spirals.elementType (.simple (.plain "item") (.named (.plain "tail"))) =
        .ok (.complex (extending "tail" "left" [])) := htype rfl
    have hway : spirals.Passes (extending "tail" "left" []) ([.plain "left", .plain "right"] ++ [.plain "left"])
        (extending "left" "right" [.groupRef (.plain "lost")]) :=
      .step rfl (htype rfl) (.step rfl (htype (n := "right") rfl) (.step rfl (htype rfl) .start))
    exact ((contentType_circular htail).2.1 _).2 ⟨_, _, hway, by decide, by decide⟩
  · have halone : spirals.elementType (.simple (.plain "item") (.named (.plain "alone"))) =
        .ok (.complex (referring "alone" "lost")) := htype rfl
    have hfresh (ns : List Name) (a : ComplexType) (hp : spirals.Passes (referring "alone" "lost") ns a) :
        ((referring "alone" "lost").name.toList ++ ns).Nodup := by
      cases hp with
      | start => exact List.nodup_singleton _
      | step h => cases h
    rw [((contentType_circular halone).2.2 hfresh).1]
    exact fun hnone => hnone _ _ .start _ (.attributes (.reference (.here (List.mem_singleton_self _)) rfl))

end SchemaHints.Schema
