/-
Types and contents within bounds. Each function that follows references is written once more with a bound beside
it: the same steps, but given up where they would go beyond the bound. That it ends is seen from the bound
alone, not from its guard against cycles; and that it comes to the same as the function shows that the guard
keeps the function within the bound, whatever the references are.

An inherited type is found after at most as many heads as there are elements. Attribute groups are expanded
inside each other, and types derived from each other, to a depth of at most the number of those that the schema
defines: the names on a stack are different, and all are names of one table.
-/
import SchemaHints.Proofs.Document.Naming
import SchemaHints.Proofs.Graph.Extension
import Mathlib.Tactic

namespace SchemaHints

/-! ## Computations within bounds -/

/-- A computation that may fail, and is given up when it would go beyond a bound. -/
abbrev Bounded (α : Type) := ExceptT Fault Option α

namespace Bounded

variable {α β : Type}

/-- The computation that is given up. -/
def giveUp : Bounded α := ExceptT.mk none

/-- A computation that has no bound to keep. -/
def of (r : Result α) : Bounded α := ExceptT.mk (some r)

/-- A computation is not given up and comes to `r`. -/
def ComesTo (x : Bounded α) (r : Result α) : Prop := x.run = some r

theorem comesTo_of (r : Result α) : (of r).ComesTo r := rfl

/-- Steps that keep their bounds make up a computation that keeps them. -/
theorem ComesTo.bind {x : Bounded α} {r : Result α} {f : α → Bounded β} {g : α → Result β} (hx : x.ComesTo r)
    (hf : ∀ a, r = .ok a → (f a).ComesTo (g a)) : (x >>= f).ComesTo (r >>= g) := by
  unfold ComesTo at *
  rw [ExceptT.run_bind, hx]
  cases r with
  | error reason => rfl
  | ok a => exact hf a rfl

/-- A step that cannot fail leaves the rest of the computation to what it gives. -/
theorem ComesTo.ok_bind {x : Bounded α} {a : α} {f : α → Bounded β} {r : Result β} (hx : x.ComesTo (.ok a))
    (hf : (f a).ComesTo r) : (x >>= f).ComesTo r := by
  unfold ComesTo at *
  rw [ExceptT.run_bind, hx]
  exact hf

theorem ComesTo.error_bind {x : Bounded α} {reason : Fault} (f : α → Bounded β) (hx : x.ComesTo (.error reason)) :
    (x >>= f).ComesTo (.error reason) := by
  unfold ComesTo at *
  rw [ExceptT.run_bind, hx]
  rfl

end Bounded

namespace Schema

open Bounded

/-! ## Types of elements -/

/-- The type that an untyped element takes from the substitution groups above it, passing at most `heads` heads
without a type. -/
def boundedInheritedType (s : Schema) (heads : Nat) (seen : List Name) (head : Option Name) :
    Bounded ResolvedType :=
  match head with
  | none => of (.ok .any)
  | some n =>
    if n ∈ seen then of (.ok .any)
    else match s.elements.get? n with
      | none => of (fail (.undefined .substitutionHeads n))
      | some declaration => match declaration.type with
        | .any => match heads with
          | 0 => giveUp
          | heads + 1 => s.boundedInheritedType heads (n :: seen) declaration.head
        | type => of (s.resolve type)

/-- The type of an element, passing at most as many heads as there are elements. -/
def boundedElementType (s : Schema) (e : ElementDecl) : Bounded ResolvedType :=
  match e.type with
  | .any => s.boundedInheritedType s.elements.size [e.name] e.head
  | type => of (s.resolve type)

/-! ## Attributes -/

/-- The edits of a list of attributes, expanding groups inside each other to a depth of at most the number of
attribute groups. -/
def boundedEdits (s : Schema) (within : List Name) (items : List AttributeItem) : Bounded (List Edit) :=
  if _h : s.attributeGroups.size < within.length then giveUp
  else match items with
    | [] => of (.ok [])
    | .declared declaration prohibited :: rest => do
      let more ← s.boundedEdits within rest
      of (.ok ((if prohibited then .remove declaration.name else .set declaration) :: more))
    | .attributeRef n prohibited :: rest =>
      if prohibited then do
        let more ← s.boundedEdits within rest
        of (.ok (.remove n :: more))
      else do
        let declaration ← of (s.globalAttribute n)
        let more ← s.boundedEdits within rest
        of (.ok (.set declaration :: more))
    | .groupRef n :: rest =>
      if n ∈ within then s.boundedEdits within rest
      else match s.attributeGroups.get? n with
        | none => of (fail (.undefined .attributeGroups n))
        | some items => do
          let inner ← s.boundedEdits (n :: within) items
          let more ← s.boundedEdits within rest
          of (.ok (inner ++ more))
termination_by (s.attributeGroups.size + 1 - within.length, items.length)
decreasing_by
  all_goals simp_wf
  all_goals first
    | exact Prod.Lex.left _ _ (by omega)
    | exact Prod.Lex.right _ (Nat.lt_succ_self _)

/-- Applies a list of attributes to a table of attributes. -/
def boundedApply (s : Schema) (items : List AttributeItem) (attributes : Keyed Name AttributeDecl) :
    Bounded (Keyed Name AttributeDecl) := do
  let edits ← s.boundedEdits [] items
  of (.ok (edits.foldl Edit.apply attributes))

/-! ## Contents -/

/-- The content that a complex type adds to what it takes over. -/
def boundedOwnContent (s : Schema) (t : ComplexType) (inherited : Content) : Bounded Content := do
  let attributes ← s.boundedApply t.attributes inherited.attributes
  of (.ok ⟨attributes,
    if t.hasSimpleContent then inherited.particle else .sequenceOf inherited.particle t.particle⟩)

/-- The content of a complex type, deriving types from each other to a depth of at most the number of types. -/
def boundedComplexContent (s : Schema) (within : List Name) (t : ComplexType) : Bounded Content :=
  if _h : s.types.size < within.length then giveUp
  else match t.derivation with
    | none => s.boundedOwnContent t .empty
    | some ⟨method, base⟩ =>
      if isSchemaNamespace base.space then s.boundedOwnContent t .empty
      else match s.types.get? base with
        | none => of (fail (.undefined .types base))
        | some (.simple _) => s.boundedOwnContent t .empty
        | some (.complex baseType) =>
          if base ∈ within then of (fail (.circularDerivation base))
          else do
            let content ← s.boundedComplexContent (base :: within) baseType
            s.boundedOwnContent t (content.inherited method t)
termination_by s.types.size + 1 - within.length
decreasing_by
  simp_wf
  omega

/-- The content of a resolved type. -/
def ResolvedType.boundedContent (s : Schema) : ResolvedType → Bounded ContentType
  | .builtin | .simple _ => of (.ok .simple)
  | .any => of (.ok (.complex .empty))
  | .complex t => do
    let content ← s.boundedComplexContent t.name.toList t
    of (.ok (.complex content))

/-- The content of an element. -/
def boundedContentType (s : Schema) (e : ElementDecl) : Bounded ContentType := do
  let type ← s.boundedElementType e
  type.boundedContent s

variable {s : Schema}

/-! ## The bounds are kept -/

theorem comesTo_inheritedType {heads : Nat} {seen : List Name} (head : Option Name)
    (h : unvisited s.elements seen ≤ heads) :
    (s.boundedInheritedType heads seen head).ComesTo (s.inheritedType seen head) := by
  fun_induction inheritedType s seen head generalizing heads with
  | case1 seen =>
    rw [boundedInheritedType]
    exact comesTo_of _
  | case2 seen n hn =>
    rw [boundedInheritedType, if_pos hn]
    exact comesTo_of _
  | case3 seen n hn hd =>
    simp only [boundedInheritedType, if_neg hn, hd]
    exact comesTo_of _
  -- a head without a type is one of the elements that have not been seen
  | case4 seen n hn declaration hd htype ih =>
    have hless : unvisited s.elements (n :: seen) < unvisited s.elements seen := unvisited_lt hd hn
    obtain ⟨rest, rfl⟩ : ∃ rest, heads = rest + 1 := ⟨heads - 1, by omega⟩
    simp only [boundedInheritedType, if_neg hn, hd, htype]
    exact ih (by omega)
  | case5 seen n hn declaration hd htype =>
    simp only [boundedInheritedType, if_neg hn, hd]
    exact comesTo_of _

theorem unvisited_le {α : Type} (entries : Keyed Name α) (seen : List Name) :
    unvisited entries seen ≤ entries.size := by
  unfold unvisited Keyed.size
  rw [← List.length_map Prod.fst]
  exact List.length_filter_le ..

theorem comesTo_elementType (e : ElementDecl) : (s.boundedElementType e).ComesTo (s.elementType e) := by
  obtain ⟨name, type, head, blocks⟩ := e
  cases type with
  | any => exact comesTo_inheritedType head (unvisited_le s.elements [name])
  | _ => exact comesTo_of _

/-- The names on a stack are different, and all are names of a table. -/
structure Stacked {α : Type} (entries : Keyed Name α) (within : List Name) : Prop where
  nodup : within.Nodup
  defined : ∀ n ∈ within, n ∈ entries.keys

namespace Stacked

variable {α : Type} {entries : Keyed Name α} {within : List Name}

theorem nil : Stacked entries [] := ⟨.nil, fun _ => nofun⟩

theorem push (h : Stacked entries within) {n : Name} {a : α} (hn : n ∉ within) (ha : entries.get? n = some a) :
    Stacked entries (n :: within) :=
  ⟨List.nodup_cons.2 ⟨hn, h.nodup⟩, List.forall_mem_cons.2 ⟨Keyed.mem_keys_of_get? ha, h.defined⟩⟩

theorem length_le (h : Stacked entries within) : within.length ≤ entries.size := by
  have hsub : within.Subperm entries.keys := List.subperm_of_subset h.nodup h.defined
  have hlength : entries.keys.length = entries.size := List.length_map ..
  rw [← hlength]
  exact hsub.length_le

theorem not_lt (h : Stacked entries within) : ¬ entries.size < within.length := Nat.not_lt.2 h.length_le

end Stacked

theorem comesTo_edits {within : List Name} (hw : Stacked s.attributeGroups within) (items : List AttributeItem) :
    (s.boundedEdits within items).ComesTo (s.edits within items) := by
  fun_induction edits s within items with
  | case1 within =>
    rw [boundedEdits, dif_neg hw.not_lt]
    exact comesTo_of _
  | case2 within declaration prohibited rest ih =>
    rw [boundedEdits, dif_neg hw.not_lt]
    exact (ih hw).bind fun _ _ => comesTo_of _
  | case3 within n rest ih =>
    rw [boundedEdits, dif_neg hw.not_lt]
    exact (ih hw).bind fun _ _ => comesTo_of _
  | case4 within n prohibited rest hp ih =>
    rw [boundedEdits, dif_neg hw.not_lt]
    simp only [if_neg hp]
    exact (comesTo_of _).bind fun _ _ => (ih hw).bind fun _ _ => comesTo_of _
  | case5 within n rest hn ih =>
    rw [boundedEdits, dif_neg hw.not_lt]
    simp only [if_pos hn]
    exact ih hw
  | case6 within n rest hn hi =>
    rw [boundedEdits, dif_neg hw.not_lt]
    simp only [if_neg hn, hi]
    exact comesTo_of _
  | case7 within n rest hn items hi ihItems ih =>
    rw [boundedEdits, dif_neg hw.not_lt]
    simp only [if_neg hn, hi]
    exact (ihItems (hw.push hn hi)).bind fun _ _ => (ih hw).bind fun _ _ => comesTo_of _

theorem comesTo_ownContent (t : ComplexType) (inherited : Content) :
    (s.boundedOwnContent t inherited).ComesTo (s.ownContent t inherited) := by
  have happly : (s.boundedApply t.attributes inherited.attributes).ComesTo
      (s.applyAttributes t.attributes inherited.attributes) :=
    (comesTo_edits .nil t.attributes).bind fun _ _ => comesTo_of _
  exact happly.bind fun _ _ => comesTo_of _

theorem comesTo_complexContent {within : List Name} (hw : Stacked s.types within) (t : ComplexType) :
    (s.boundedComplexContent within t).ComesTo (s.complexContent within t) := by
  fun_induction complexContent s within t with
  | case1 within t ht =>
    rw [boundedComplexContent, dif_neg hw.not_lt, ht]
    exact comesTo_ownContent t _
  | case2 within t method base ht hb =>
    rw [boundedComplexContent, dif_neg hw.not_lt, ht]
    simp only [if_pos hb]
    exact comesTo_ownContent t _
  | case3 within t method base ht hb hd =>
    rw [boundedComplexContent, dif_neg hw.not_lt, ht]
    simp only [if_neg hb, hd]
    exact comesTo_of _
  | case4 within t method base ht hb type hd =>
    rw [boundedComplexContent, dif_neg hw.not_lt, ht]
    simp only [if_neg hb, hd]
    exact comesTo_ownContent t _
  | case5 within t method base ht hb baseType hd hn =>
    rw [boundedComplexContent, dif_neg hw.not_lt, ht]
    simp only [if_neg hb, hd, if_pos hn]
    exact comesTo_of _
  | case6 within t method base ht hb baseType hd hn ih =>
    rw [boundedComplexContent, dif_neg hw.not_lt, ht]
    simp only [if_neg hb, hd, if_neg hn]
    exact (ih (hw.push hn hd)).bind fun content _ => comesTo_ownContent t _

/-! ### The stack that a derivation starts with -/

theorem stacked_of_resolve (hs : s.Named) {r : TypeRef} {t : ComplexType}
    (hr : ∀ t, r = .inline (.complex t) → t.name = none) (h : s.resolve r = .ok (.complex t)) :
    Stacked s.types t.name.toList := by
  cases r with
  | any => cases h
  | inline definition =>
    cases definition with
    | simple type => cases h
    | complex type =>
      cases h
      rw [hr _ rfl]
      exact .nil
  | named n =>
    obtain ⟨-, hn⟩ := typeNamed_eq_complex.1 h
    rw [hs.types n t hn]
    exact Stacked.nil.push List.not_mem_nil hn

theorem stacked_of_inheritedType (hs : s.Named) {seen : List Name} {head : Option Name} {t : ComplexType}
    (h : s.inheritedType seen head = .ok (.complex t)) : Stacked s.types t.name.toList := by
  fun_induction inheritedType s seen head with
  | case1 => cases h
  | case2 => cases h
  | case3 => cases h
  | case4 _ _ _ _ _ _ ih => exact ih h
  | case5 _ _ _ declaration hd =>
    have hdeclared : declaration ∈ s.declarations :=
      forall_of_mem_elements (fun _ h => h) (Keyed.mem_values_of_get? hd) _ declaration.mem_declarations
    exact stacked_of_resolve hs (hs.inlines _ hdeclared) h

/-- The type of a declaration starts a derivation with its own name, if it has one, and it has one if it stands
in the table of types. -/
theorem stacked_of_elementType (hs : s.Named) {e : ElementDecl} (he : e ∈ s.declarations) {t : ComplexType}
    (h : s.elementType e = .ok (.complex t)) : Stacked s.types t.name.toList := by
  unfold elementType at h
  split at h
  · exact stacked_of_inheritedType hs h
  · exact stacked_of_resolve hs (hs.inlines e he) h

theorem comesTo_contentType (hs : s.Named) {e : ElementDecl} (he : e ∈ s.declarations) :
    (s.boundedContentType e).ComesTo (s.contentType e) := by
  refine (comesTo_elementType e).bind fun type htype => ?_
  cases type with
  | complex t => exact (comesTo_complexContent (stacked_of_elementType hs he htype) t).bind fun _ _ => comesTo_of _
  | _ => exact comesTo_of _

end Schema

end SchemaHints
