/-
The names in a tag. A name with a colon is a prefix and a local name, and stands for the local name in the
namespace that the prefix means; what a name without a colon stands for is a matter of where it is written.
The attributes of a tag are namespace declarations or ordinary ones, and this can be told from their keys. The
ordinary ones are expanded in order; where two come to the same name, the later takes the place of the earlier.
-/
import SchemaHints.Xml.Document
import Mathlib.Data.List.Forall2
import Mathlib.Data.List.Induction
import Mathlib.Data.List.TakeWhile

namespace SchemaHints

/-! ## Colons -/

namespace Text

theorem splitAtColon_append {before : List Char} (h : ':' ∉ before) (rest : List Char) :
    splitAtColon (String.ofList (before ++ ':' :: rest)) = some (String.ofList before, String.ofList rest) := by
  have hbefore : ∀ c ∈ before, decide (c ≠ ':') = true := fun c hc =>
    decide_eq_true fun heq => h (heq ▸ hc)
  unfold splitAtColon
  rw [String.toList_ofList, List.dropWhile_append_of_pos hbefore, List.takeWhile_append_of_pos hbefore]
  simp

theorem splitAtColon_of_not_mem {s : String} (h : ':' ∉ s.toList) : splitAtColon s = none := by
  have hall : ∀ c ∈ s.toList, decide (c ≠ ':') = true := fun c hc => decide_eq_true fun heq => h (heq ▸ hc)
  unfold splitAtColon
  rw [List.dropWhile_eq_nil_iff.2 hall]

/-- A text is split at its first colon. -/
theorem splitAtColon_eq_some_iff {s pfx localName : String} :
    splitAtColon s = some (pfx, localName) ↔ s = pfx ++ ":" ++ localName ∧ ':' ∉ pfx.toList := by
  constructor
  · intro h
    by_cases hcolon : ':' ∈ s.toList
    · obtain ⟨before, rest, hs, hbefore⟩ := List.eq_append_cons_of_mem hcolon
      have hsplit := splitAtColon_append hbefore rest
      rw [← hs, String.ofList_toList, h] at hsplit
      cases hsplit
      refine ⟨String.toList_inj.1 ?_, by rwa [String.toList_ofList]⟩
      simp [hs]
    · rw [splitAtColon_of_not_mem hcolon] at h
      cases h
  · rintro ⟨rfl, hpfx⟩
    have hsplit := splitAtColon_append hpfx localName.toList
    rw [String.ofList_toList, String.ofList_toList] at hsplit
    rw [← hsplit]
    refine congrArg splitAtColon (String.toList_inj.1 ?_)
    simp

theorem splitAtColon_eq_none_iff {s : String} : splitAtColon s = none ↔ ':' ∉ s.toList := by
  refine ⟨fun h hcolon => ?_, splitAtColon_of_not_mem⟩
  obtain ⟨before, rest, hs, hbefore⟩ := List.eq_append_cons_of_mem hcolon
  have hsplit := splitAtColon_append hbefore rest
  rw [← hs, String.ofList_toList, h] at hsplit
  cases hsplit

end Text

namespace Xml

/-- Without the entries under one key, what is under the others is the same. -/
theorem lookup_filter_ne {κ α : Type} [DecidableEq κ] {k k' : κ} (h : k' ≠ k) (es : List (κ × α)) :
    (es.filter (·.1 ≠ k)).lookup k' = es.lookup k' := by
  induction es with
  | nil => rfl
  | cons e es ih =>
    by_cases he : e.1 = k
    · rw [List.filter_cons_of_neg (by simpa using he), ih, List.lookup_cons, he, beq_false_of_ne h]
    · rw [List.filter_cons_of_pos (by simpa using he), List.lookup_cons, List.lookup_cons, ih]

/-! ## Expanded names -/

/-- Under prefixes that mean what `means` says, a text stands for a name; without a prefix it stands for one in
the namespace `unprefixed`. -/
inductive StandsFor (means : String → String → Prop) (unprefixed : String) : String → Name → Prop
  | plain {text : String} : ':' ∉ text.toList → StandsFor means unprefixed text ⟨unprefixed, text⟩
  | prefixed {pfx localName space : String} : ':' ∉ pfx.toList → means pfx space →
      StandsFor means unprefixed (pfx ++ ":" ++ localName) ⟨space, localName⟩

theorem StandsFor.mono {means means' : String → String → Prop} {unprefixed text : String} {n : Name}
    (h : StandsFor means unprefixed text n) (hm : ∀ pfx space, means pfx space → means' pfx space) :
    StandsFor means' unprefixed text n := by
  cases h with
  | plain hcolon => exact .plain hcolon
  | prefixed hcolon hspace => exact .prefixed hcolon (hm _ _ hspace)

/-- A name with a prefix is in the namespace that the prefix means. -/
theorem StandsFor.means {means : String → String → Prop} {unprefixed pfx localName : String} {n : Name}
    (h : StandsFor means unprefixed (pfx ++ ":" ++ localName) n) (hcolon : ':' ∉ pfx.toList) : means pfx n.space := by
  have hsplit : Text.splitAtColon (pfx ++ ":" ++ localName) = some (pfx, localName) :=
    Text.splitAtColon_eq_some_iff.2 ⟨rfl, hcolon⟩
  generalize htext : pfx ++ ":" ++ localName = text at h hsplit
  cases h with
  | plain hplain =>
    rw [Text.splitAtColon_eq_none_iff.2 hplain] at hsplit
    cases hsplit
  | prefixed hcolon' hmeans =>
    rw [Text.splitAtColon_eq_some_iff.2 ⟨rfl, hcolon'⟩] at hsplit
    cases hsplit
    exact hmeans

/-- What a prefix means under some bindings. -/
def Bindings.Means (b : Bindings) (pfx space : String) : Prop := b.space? pfx = some space

theorem standsFor_of_expandTagName {b : Bindings} {text : String} {n : Name} (h : expandTagName b text = .ok n) :
    StandsFor b.Means b.default text n := by
  unfold expandTagName at h
  split at h
  · rename_i hsplit
    cases h
    exact .plain (Text.splitAtColon_eq_none_iff.1 hsplit)
  · rename_i hsplit
    obtain ⟨rfl, hcolon⟩ := Text.splitAtColon_eq_some_iff.1 hsplit
    split at h
    · rename_i space hspace
      cases h
      exact .prefixed hcolon hspace
    · cases h

theorem standsFor_of_resolve {b : Bindings} {text pfx localName : String} {n : Name}
    (hsplit : Text.splitAtColon text = some (pfx, localName)) (h : b.resolve text = .ok n) (unprefixed : String) :
    StandsFor b.Means unprefixed text n := by
  obtain ⟨rfl, hcolon⟩ := Text.splitAtColon_eq_some_iff.1 hsplit
  unfold Bindings.resolve at h
  rw [hsplit] at h
  simp only at h
  split at h
  · rename_i space hspace
    cases h
    exact .prefixed hcolon hspace
  · cases h

/-! ## Namespace declarations -/

/-- The key of the attribute that declares a prefix. -/
def prefixKey (pfx : String) : String := "xmlns:" ++ pfx

theorem prefixKey_inj {pfx pfx' : String} : prefixKey pfx = prefixKey pfx' ↔ pfx = pfx' := String.append_right_inj _

theorem splitAtColon_prefixKey (pfx : String) : Text.splitAtColon (prefixKey pfx) = some ("xmlns", pfx) :=
  Text.splitAtColon_eq_some_iff.2 ⟨rfl, by decide⟩

theorem prefixKey_ne (pfx : String) : prefixKey pfx ≠ "xmlns" := by
  intro heq
  have hsplit := splitAtColon_prefixKey pfx
  rw [heq] at hsplit
  cases hsplit

/-- Whether an attribute with this key is a namespace declaration. -/
def isDeclaration (key : String) : Bool :=
  key = "xmlns" || (Text.splitAtColon key).any (·.1 = "xmlns")

theorem isDeclaration_iff {key : String} : isDeclaration key = true ↔ key = "xmlns" ∨ ∃ pfx, key = prefixKey pfx := by
  unfold isDeclaration
  rw [Bool.or_eq_true, decide_eq_true_eq, Option.any_eq_true]
  refine or_congr_right ⟨?_, ?_⟩
  · rintro ⟨⟨first, pfx⟩, hsplit, hfirst⟩
    obtain rfl := of_decide_eq_true hfirst
    exact ⟨pfx, (Text.splitAtColon_eq_some_iff.1 hsplit).1⟩
  · rintro ⟨pfx, rfl⟩
    exact ⟨("xmlns", pfx), splitAtColon_prefixKey pfx, decide_eq_true rfl⟩

namespace Bindings

theorem declare?_default (b : Bindings) (value : String) : b.declare? "xmlns" value = some (b.setDefault value) :=
  if_pos rfl

theorem declare?_prefixKey (b : Bindings) (pfx value : String) :
    b.declare? (prefixKey pfx) value = some (b.bind pfx value) := by
  unfold declare?
  rw [if_neg (prefixKey_ne pfx), splitAtColon_prefixKey]
  rfl

theorem declare?_ordinary {key : String} (h : isDeclaration key = false) (b : Bindings) (value : String) :
    b.declare? key value = none := by
  simp only [isDeclaration, Bool.or_eq_false_iff, decide_eq_false_iff_not] at h
  unfold declare?
  rw [if_neg h.1]
  split
  · rename_i hsplit
    rw [hsplit] at h
    simp at h
  · rfl

theorem isSome_declare? (b : Bindings) (key value : String) : (b.declare? key value).isSome = isDeclaration key := by
  cases hkey : isDeclaration key with
  | false => rw [declare?_ordinary hkey, Option.isSome_none]
  | true =>
    obtain rfl | ⟨pfx, rfl⟩ := isDeclaration_iff.1 hkey
    · rw [declare?_default, Option.isSome_some]
    · rw [declare?_prefixKey, Option.isSome_some]

end Bindings

/-! ## Ordinary attributes -/

/-- The attributes of a tag that are no namespace declarations. -/
def Tag.ordinary (tag : Tag) : List (String × String) := tag.attributes.filter fun a => !isDeclaration a.1

/-- Entries with one for each name, which has the value that comes last under it. -/
def latest (written : List (Name × String)) : List (Name × String) :=
  written.foldl (fun done w => expandAttributes.put w.1 w.2 done) []

theorem latest_concat (written : List (Name × String)) (w : Name × String) :
    latest (written ++ [w]) = expandAttributes.put w.1 w.2 (latest written) := List.foldl_concat ..

theorem lookup_put (name : Name) (value : String) (done : List (Name × String)) (n : Name) :
    (expandAttributes.put name value done).lookup n = if n = name then some value else done.lookup n := by
  unfold expandAttributes.put
  rw [List.lookup_append]
  by_cases hn : n = name
  · subst hn
    have hnone : (done.filter (·.1 ≠ n)).lookup n = none := by
      rw [List.lookup_eq_none_iff]
      intro e he
      exact bne_iff_ne.2 (Ne.symm (of_decide_eq_true (List.mem_filter.1 he).2))
    rw [hnone, if_pos rfl, Option.none_or, List.lookup_cons_self]
  · rw [if_neg hn]
    rw [lookup_filter_ne hn, List.lookup_cons, beq_false_of_ne hn, List.lookup_nil, Option.or_none]

theorem keys_put (name : Name) (value : String) (done : List (Name × String)) :
    (expandAttributes.put name value done).map Prod.fst = (done.map Prod.fst).filter (· ≠ name) ++ [name] := by
  unfold expandAttributes.put
  rw [List.map_append, List.filter_map]
  rfl

theorem nodup_latest (written : List (Name × String)) : ((latest written).map Prod.fst).Nodup := by
  induction written using List.reverseRecOn with
  | nil => exact List.nodup_nil
  | append_singleton written w ih =>
    rw [latest_concat, keys_put]
    refine List.nodup_append.2 ⟨ih.filter _, by simp, ?_⟩
    intro n hn m hm
    rw [List.mem_singleton.1 hm]
    simpa using (List.mem_filter.1 hn).2

/-- Of the values under a name the last one stays. -/
theorem lookup_latest (written : List (Name × String)) (n : Name) :
    (latest written).lookup n = written.reverse.lookup n := by
  induction written using List.reverseRecOn with
  | nil => rfl
  | append_singleton written w ih =>
    rw [latest_concat, lookup_put, ih, List.reverse_concat, List.lookup_cons]
    by_cases hn : n = w.1
    · rw [if_pos hn, hn, beq_self_eq_true]
    · rw [if_neg hn, beq_false_of_ne hn]

/-- Nothing is lost exactly when the names are different. -/
theorem latest_eq_self_iff {written : List (Name × String)} :
    latest written = written ↔ (written.map Prod.fst).Nodup := by
  refine ⟨fun h => h ▸ nodup_latest written, fun h => ?_⟩
  induction written using List.reverseRecOn with
  | nil => rfl
  | append_singleton written w ih =>
    rw [List.map_append, List.nodup_append] at h
    obtain ⟨hwritten, -, hnew⟩ := h
    rw [latest_concat, ih hwritten, expandAttributes.put, List.filter_eq_self.2]
    intro e he
    simpa using hnew e.1 (List.mem_map_of_mem he) w.1 (List.mem_map_of_mem (List.mem_singleton_self w))

/-- An ordinary attribute with its expanded name. -/
def Expands (means : String → String → Prop) (a : String × String) (w : Name × String) : Prop :=
  StandsFor means "" a.1 w.1 ∧ w.2 = a.2

theorem written_of_expandAttributes {b : Bindings} {as : List (String × String)} {done entries : List (Name × String)}
    (h : expandAttributes b as done = .ok entries) :
    ∃ written, List.Forall₂ (Expands b.Means) (as.filter fun a => !isDeclaration a.1) written ∧
      entries = written.foldl (fun done w => expandAttributes.put w.1 w.2 done) done := by
  fun_induction expandAttributes b as done with
  | case1 done =>
    cases h
    exact ⟨[], .nil, rfl⟩
  | case2 key value rest done hdeclares ih =>
    rw [Bindings.isSome_declare?] at hdeclares
    rw [List.filter_cons_of_neg (by simp [hdeclares])]
    exact ih h
  | case3 key value rest done hdeclares hsplit ih =>
    rw [Bindings.isSome_declare?, Bool.not_eq_true] at hdeclares
    rw [List.filter_cons_of_pos (by simp [hdeclares])]
    obtain ⟨written, hwritten, rfl⟩ := ih h
    exact ⟨(.plain key, value) :: written,
      .cons ⟨.plain (Text.splitAtColon_eq_none_iff.1 hsplit), rfl⟩ hwritten, rfl⟩
  | case4 key value rest done hdeclares split hsplit name hname ih =>
    rw [Bindings.isSome_declare?, Bool.not_eq_true] at hdeclares
    rw [List.filter_cons_of_pos (by simp [hdeclares])]
    obtain ⟨written, hwritten, rfl⟩ := ih h
    exact ⟨(name, value) :: written, .cons ⟨standsFor_of_resolve hsplit hname "", rfl⟩ hwritten, rfl⟩
  | case5 => cases h

end Xml

end SchemaHints
