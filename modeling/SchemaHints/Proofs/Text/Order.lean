/-
The orders of texts and what a sort by them gives. Both orders are total, and texts that they do not tell
apart are equal, whatever lower case means: so a sort by texts that are all different is strictly
increasing, and its result does not depend on the order in which the members came.
-/
import SchemaHints.Text.Order

namespace SchemaHints.Text

/-! ## Comparison -/

theorem compareChars_eq_compareLex : compareChars = List.compareLex (compareOn Char.toNat) := by
  funext as bs
  induction as generalizing bs with
  | nil => cases bs <;> rfl
  | cons a as ih =>
    cases bs with
    | nil => rfl
    | cons b bs =>
      rw [compareChars, ih, List.compareLex_cons_cons]
      rfl

instance : Std.TransCmp compareChars := by
  rw [compareChars_eq_compareLex]
  infer_instance

instance : Std.LawfulEqCmp compareChars := by
  have hchar : Std.LawfulEqCmp (compareOn Char.toNat) :=
    ⟨fun {_ _} h => Char.toNat_inj.1 (Std.LawfulEqCmp.eq_of_compare h)⟩
  rw [compareChars_eq_compareLex]
  infer_instance

/-- An order of texts by their images. -/
theorem transCmp_of_image {α β : Type} (cmp : β → β → Ordering) [Std.TransCmp cmp] (f : α → β) :
    Std.TransCmp fun a b => cmp (f a) (f b) where
  eq_swap := Std.OrientedCmp.eq_swap
  isLE_trans := Std.TransCmp.isLE_trans

instance : Std.TransCmp compareText := transCmp_of_image compareChars String.toList

instance : Std.LawfulEqCmp compareText where
  compare_self := by
    intro a
    have hchars : compareChars a.toList a.toList = .eq := Std.ReflCmp.compare_self
    exact hchars
  eq_of_compare := by
    intro a b h
    have hchars : compareChars a.toList b.toList = .eq := h
    exact String.toList_inj.1 (Std.LawfulEqCmp.eq_of_compare hchars)

variable (low : Char → List Char)

instance : Std.TransCmp (compareFolded low) := by
  have hfolded : Std.TransCmp fun a b : String => compareChars (a.toList.flatMap low) (b.toList.flatMap low) :=
    transCmp_of_image compareChars fun a : String => a.toList.flatMap low
  exact inferInstanceAs (Std.TransCmp (compareLex _ compareText))

/-- The code points have the last word, so no two texts are the same to the order. -/
instance : Std.LawfulEqCmp (compareFolded low) where
  compare_self := by
    intro a
    have hfolded : compareChars (a.toList.flatMap low) (a.toList.flatMap low) = .eq := Std.ReflCmp.compare_self
    have htext : compareText a a = .eq := Std.ReflCmp.compare_self
    rw [compareFolded, hfolded, htext]
    rfl
  eq_of_compare := by
    intro a b h
    obtain ⟨-, htext⟩ := Ordering.then_eq_eq.1 h
    exact Std.LawfulEqCmp.eq_of_compare htext

instance : Std.TransCmp compareIgnoringCase := inferInstanceAs (Std.TransCmp (compareFolded lower))

instance : Std.LawfulEqCmp compareIgnoringCase := inferInstanceAs (Std.LawfulEqCmp (compareFolded lower))

/-! ## Lower case and code points -/

/-- A text in lower case under the mapping `low`; one character may become several, or none. -/
def folded (a : String) : List Char := a.toList.flatMap low

variable {low}

/-- Texts that differ in lower case are told apart by that alone. -/
theorem compareFolded_of_ne {a b : String} (h : folded low a ≠ folded low b) :
    compareFolded low a b = compareChars (folded low a) (folded low b) := by
  have hne : compareChars (folded low a) (folded low b) ≠ .eq := fun heq => h (Std.LawfulEqCmp.eq_of_compare heq)
  show (compareChars (folded low a) (folded low b)).then _ = _
  cases hlevel : compareChars (folded low a) (folded low b) with
  | lt => rfl
  | eq => exact absurd hlevel hne
  | gt => rfl

/-- Texts that are the same in lower case are told apart by their code points. -/
theorem compareFolded_of_eq {a b : String} (h : folded low a = folded low b) :
    compareFolded low a b = compareText a b := by
  have heq : compareChars (folded low a) (folded low b) = .eq := by
    rw [h]
    exact Std.ReflCmp.compare_self
  show (compareChars (folded low a) (folded low b)).then _ = _
  rw [heq]
  rfl

/-! ## Sorting -/

section

variable {α β : Type} {cmp : String → String → Ordering} {key : α → String} {xs ys : List α}

theorem perm_sortBy : (sortBy cmp key xs).Perm xs := List.mergeSort_perm ..

theorem sortBy_eq_nil_iff : sortBy cmp key xs = [] ↔ xs = [] := by
  rw [← List.length_eq_zero_iff, ← List.length_eq_zero_iff, perm_sortBy.length_eq]

/-- A sort looks at the keys only. -/
theorem map_sortBy (f : α → β) {key' : β → String} (h : ∀ x, key x = key' (f x)) :
    (sortBy cmp key xs).map f = sortBy cmp key' (xs.map f) :=
  List.map_mergeSort fun x _ y _ => by rw [h x, h y]

theorem ascending_sortBy [Std.TransCmp cmp] : ((sortBy cmp key xs).map key).Pairwise fun a b => (cmp a b).isLE = true := by
  rw [List.pairwise_map]
  refine List.pairwise_mergeSort (fun x y z => Std.TransCmp.isLE_trans) (fun x y => ?_) xs
  have hswap : cmp (key x) (key y) = (cmp (key y) (key x)).swap := Std.OrientedCmp.eq_swap
  rw [hswap]
  cases cmp (key y) (key x) <;> rfl

variable [Std.LawfulEqCmp cmp]

/-- Texts that ascend and are all different are strictly increasing. -/
theorem increasing_of_ascending {texts : List String} (h : texts.Pairwise fun a b => (cmp a b).isLE = true)
    (hn : texts.Nodup) : texts.Pairwise fun a b => cmp a b = .lt := by
  refine h.imp₂ (fun a b hle hne => ?_) hn
  cases hab : cmp a b with
  | lt => rfl
  | eq => exact absurd (Std.LawfulEqCmp.eq_of_compare hab) hne
  | gt =>
    rw [hab] at hle
    cases hle

variable [Std.TransCmp cmp]

/-- A sort by different texts is strictly increasing. -/
theorem increasing_sortBy (hn : (xs.map key).Nodup) :
    ((sortBy cmp key xs).map key).Pairwise fun a b => cmp a b = .lt :=
  increasing_of_ascending ascending_sortBy ((perm_sortBy.map key).nodup_iff.2 hn)

/-- A sort by different texts forgets the order in which the members came, and nothing else. -/
theorem sortBy_eq_iff (hn : (xs.map key).Nodup) : sortBy cmp key xs = sortBy cmp key ys ↔ xs.Perm ys := by
  constructor
  · intro h
    have hx : (sortBy cmp key xs).Perm xs := perm_sortBy
    rw [h] at hx
    exact hx.symm.trans perm_sortBy
  · intro h
    have hx : ((sortBy cmp key xs).map key).Pairwise fun a b => cmp a b = .lt := increasing_sortBy hn
    have hy : ((sortBy cmp key ys).map key).Pairwise fun a b => cmp a b = .lt :=
      increasing_sortBy ((h.map key).nodup_iff.1 hn)
    rw [List.pairwise_map] at hx hy
    refine List.Perm.eq_of_pairwise (fun x y _ _ hxy hyx => ?_) hx hy (perm_sortBy.trans (h.trans perm_sortBy.symm))
    have hswap : cmp (key x) (key y) = (cmp (key y) (key x)).swap := Std.OrientedCmp.eq_swap
    rw [hxy, hyx] at hswap
    cases hswap

/-- There is one way to put texts in ascending order. -/
theorem eq_sortBy_iff {texts sorted : List String} :
    sorted = sortBy cmp id texts ↔ sorted.Perm texts ∧ sorted.Pairwise fun a b => (cmp a b).isLE = true := by
  have hsort : (sortBy cmp id texts).Pairwise fun a b => (cmp a b).isLE = true := by
    have hascending : ((sortBy cmp id texts).map id).Pairwise fun a b => (cmp a b).isLE = true := ascending_sortBy
    rwa [List.map_id] at hascending
  constructor
  · rintro rfl
    exact ⟨perm_sortBy, hsort⟩
  · rintro ⟨hperm, hascending⟩
    refine List.Perm.eq_of_pairwise (fun a b _ _ hab hba => ?_) hascending hsort (hperm.trans perm_sortBy.symm)
    exact Std.LawfulEqCmp.eq_of_compare (Std.OrientedCmp.isLE_antisymm hab hba)

end

/-! ## Listings -/

/-- A list in strictly increasing order with exactly these texts. -/
structure Listing (cmp : String → String → Ordering) (texts listed : List String) : Prop where
  increasing : listed.Pairwise fun a b => cmp a b = .lt
  perm : listed.Perm texts

theorem Listing.nodup {cmp : String → String → Ordering} [Std.LawfulEqCmp cmp] {texts listed : List String}
    (h : Listing cmp texts listed) : listed.Nodup := by
  refine h.increasing.imp fun {a b} hlt heq => ?_
  have hself : cmp b b = .eq := Std.ReflCmp.compare_self
  rw [heq, hself] at hlt
  cases hlt

theorem listing_sortBy {α : Type} {cmp : String → String → Ordering} [Std.TransCmp cmp] [Std.LawfulEqCmp cmp]
    {key : α → String} {xs : List α} (hn : (xs.map key).Nodup) :
    Listing cmp (xs.map key) ((sortBy cmp key xs).map key) :=
  ⟨increasing_sortBy hn, perm_sortBy.map key⟩

/-! ## The order that ignores case -/

/-- Comparison by lower case and then by code point is a total order of all texts, whatever lower case means.
Texts compare as equal only to themselves; the order is reversed when they are swapped; and it is transitive,
whichever level tells the texts apart, since texts that differ in lower case are in the order of that and all
others in the order of their code points. So texts can be sorted in one way only, and it makes no difference in
which order they came. -/
theorem compareFolded_totalOrder (low : Char → List Char) :
    (∀ a b, compareFolded low a b = .eq ↔ a = b) ∧
      (∀ a b, compareFolded low b a = (compareFolded low a b).swap) ∧
      (∀ a b c, compareFolded low a b = .lt → compareFolded low b c = .lt → compareFolded low a c = .lt) ∧
      (∀ a b, folded low a ≠ folded low b → compareFolded low a b = compareChars (folded low a) (folded low b)) ∧
      (∀ a b, folded low a = folded low b → compareFolded low a b = compareText a b) ∧
      (∀ texts sorted : List String, sorted = sortBy (compareFolded low) id texts ↔
        sorted.Perm texts ∧ sorted.Pairwise fun a b => (compareFolded low a b).isLE = true) ∧
      ∀ texts texts' : List String, texts.Perm texts' →
        sortBy (compareFolded low) id texts = sortBy (compareFolded low) id texts' := by
  refine ⟨fun a b => ⟨Std.LawfulEqCmp.eq_of_compare, ?_⟩, fun a b => Std.OrientedCmp.eq_swap,
    fun a b c => Std.TransCmp.lt_trans, fun a b => compareFolded_of_ne, fun a b => compareFolded_of_eq,
    fun texts sorted => eq_sortBy_iff, fun texts texts' h => ?_⟩
  · rintro rfl
    exact Std.ReflCmp.compare_self
  · obtain ⟨hperm, hascending⟩ := eq_sortBy_iff.1 (Eq.refl (sortBy (compareFolded low) id texts))
    exact eq_sortBy_iff.2 ⟨hperm.trans h, hascending⟩

/-- A capital letter comes before the small one, and both before the next letter of either case. -/
example : ["A", "a", "B", "b"] = sortBy compareIgnoringCase id ["b", "a", "B", "A"] :=
  eq_sortBy_iff.2 (by decide +kernel)

end SchemaHints.Text
