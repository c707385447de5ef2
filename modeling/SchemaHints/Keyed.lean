/-
Lists without repetition, as the tables of this library use them: `Keyed` pairs each key with one
value, `Distinct` holds keys alone. Both keep the order of insertion, and both carry the proof that
no key occurs twice, so "first declaration wins" and "last use wins" are the two ways to insert.
-/

namespace SchemaHints

/-- Values under distinct keys, in the order in which the keys were inserted. -/
structure Keyed (κ α : Type) where
  entries : List (κ × α)
  nodup : (entries.map Prod.fst).Nodup
  deriving DecidableEq

namespace Keyed

variable {κ α : Type}

/-- The keys in order. -/
def keys (t : Keyed κ α) : List κ := t.entries.map Prod.fst

/-- The values in order. -/
def values (t : Keyed κ α) : List α := t.entries.map Prod.snd

/-- The number of entries. -/
def size (t : Keyed κ α) : Nat := t.entries.length

/-- The table without entries. -/
def empty : Keyed κ α := ⟨[], List.nodup_nil⟩

instance : EmptyCollection (Keyed κ α) := ⟨empty⟩

instance : Inhabited (Keyed κ α) := ⟨empty⟩

theorem nodup_append_new {k : κ} {a : α} {es : List (κ × α)} (hn : (es.map Prod.fst).Nodup)
    (hk : k ∉ es.map Prod.fst) : ((es ++ [(k, a)]).map Prod.fst).Nodup := by
  rw [List.map_append, List.nodup_append]
  refine ⟨hn, by simp, ?_⟩
  rintro x hx y hy rfl
  simp only [List.map_cons, List.map_nil, List.mem_singleton] at hy
  exact hk (hy ▸ hx)

variable [DecidableEq κ]

/-- The value under a key. -/
def get? (t : Keyed κ α) (k : κ) : Option α := t.entries.lookup k

/-- Whether a key has a value. -/
def contains (t : Keyed κ α) (k : κ) : Bool := decide (k ∈ t.keys)

/-- The entries with the value under `k` replaced. -/
def replaced (k : κ) (a : α) (es : List (κ × α)) : List (κ × α) :=
  es.map fun e => if e.1 = k then (e.1, a) else e

theorem map_fst_replaced (k : κ) (a : α) (es : List (κ × α)) :
    (replaced k a es).map Prod.fst = es.map Prod.fst := by
  rw [replaced, List.map_map]
  refine List.map_congr_left fun e _ => ?_
  by_cases h : e.1 = k <;> simp [h]

/-- Adds an entry at the end unless the key is taken: the first declaration wins. -/
def insertNew (t : Keyed κ α) (k : κ) (a : α) : Keyed κ α :=
  if h : k ∈ t.keys then t else ⟨t.entries ++ [(k, a)], nodup_append_new t.nodup h⟩

/-- Sets the value of a key, in place when the key is present and at the end otherwise. -/
def insert (t : Keyed κ α) (k : κ) (a : α) : Keyed κ α :=
  if h : k ∈ t.keys then ⟨replaced k a t.entries, by rw [map_fst_replaced]; exact t.nodup⟩
  else ⟨t.entries ++ [(k, a)], nodup_append_new t.nodup h⟩

/-- Removes a key; the entries after it move up. -/
def erase (t : Keyed κ α) (k : κ) : Keyed κ α :=
  ⟨t.entries.filter fun e => e.1 ≠ k, (List.filter_sublist.map Prod.fst).nodup t.nodup⟩

/-- Adds entries in order, each only if its key is still free. -/
def insertAllNew (t : Keyed κ α) (es : List (κ × α)) : Keyed κ α :=
  es.foldl (fun t e => t.insertNew e.1 e.2) t

/-- The table of a list in which a later entry overwrites an earlier one in place. -/
def ofList (es : List (κ × α)) : Keyed κ α :=
  es.foldl (fun t e => t.insert e.1 e.2) empty

/-- Whether two tables have the same keys, in whatever order, with the same values as far as `eq` tells. -/
def same (eq : α → α → Bool) (t u : Keyed κ α) : Bool :=
  t.size = u.size && t.entries.all fun (k, a) => (u.get? k).any (eq a)

/-- A key has a value exactly when the pair is an entry, since no other entry has the key. -/
theorem get?_eq_some_iff {t : Keyed κ α} {k : κ} {a : α} : t.get? k = some a ↔ (k, a) ∈ t.entries := by
  obtain ⟨es, hn⟩ := t
  simp only [get?]
  induction es with
  | nil => simp
  | cons e es ih =>
    obtain ⟨k', a'⟩ := e
    rw [List.map_cons, List.nodup_cons] at hn
    have hfirst : ∀ b, (k', b) ∉ es := fun b hb => hn.1 (List.mem_map.2 ⟨_, hb, rfl⟩)
    rw [List.lookup_cons]
    by_cases hk : k = k'
    · subst hk
      simp [hfirst, eq_comm]
    · rw [beq_false_of_ne hk]
      simp [hk, ih hn.2]

theorem mem_keys_iff {t : Keyed κ α} {k : κ} : k ∈ t.keys ↔ ∃ a, t.get? k = some a := by
  simp only [get?_eq_some_iff, keys, List.mem_map]
  constructor
  · rintro ⟨⟨k', a⟩, he, rfl⟩
    exact ⟨a, he⟩
  · rintro ⟨a, he⟩
    exact ⟨(k, a), he, rfl⟩

theorem mem_keys_of_get? {t : Keyed κ α} {k : κ} {a : α} (h : t.get? k = some a) : k ∈ t.keys :=
  mem_keys_iff.2 ⟨a, h⟩

theorem get?_eq_none_iff {t : Keyed κ α} {k : κ} : t.get? k = none ↔ k ∉ t.keys := by
  rw [mem_keys_iff, Option.eq_none_iff_forall_ne_some, not_exists]

theorem mem_values_of_get? {t : Keyed κ α} {k : κ} {a : α} (h : t.get? k = some a) : a ∈ t.values :=
  List.mem_map.2 ⟨(k, a), get?_eq_some_iff.1 h, rfl⟩

theorem entries_insert_of_not_mem {t : Keyed κ α} {k : κ} (hk : k ∉ t.keys) (a : α) :
    (t.insert k a).entries = t.entries ++ [(k, a)] := by
  unfold insert
  rw [dif_neg hk]

theorem forall_insertNew {P : κ × α → Prop} {t : Keyed κ α} {k : κ} {a : α} (ht : ∀ e ∈ t.entries, P e)
    (ha : P (k, a)) : ∀ e ∈ (t.insertNew k a).entries, P e := by
  unfold insertNew
  split
  · exact ht
  · intro e he
    rcases List.mem_append.1 he with he | he
    · exact ht e he
    · rw [List.mem_singleton.1 he]
      exact ha

/-- What holds of the entries of a table and of new ones holds once these are added. -/
theorem forall_insertAllNew {P : κ × α → Prop} {t : Keyed κ α} {es : List (κ × α)}
    (ht : ∀ e ∈ t.entries, P e) (hes : ∀ e ∈ es, P e) : ∀ e ∈ (t.insertAllNew es).entries, P e := by
  induction es generalizing t with
  | nil => exact ht
  | cons e es ih =>
    exact ih (forall_insertNew ht (hes e (List.mem_cons_self ..))) fun e' h => hes e' (List.mem_cons_of_mem _ h)

theorem forall_insert {P : κ × α → Prop} {t : Keyed κ α} {k : κ} {a : α} (ht : ∀ e ∈ t.entries, P e)
    (ha : P (k, a)) : ∀ e ∈ (t.insert k a).entries, P e := by
  intro e he
  by_cases hk : k ∈ t.keys
  · rw [insert, dif_pos hk] at he
    obtain ⟨e', he', rfl⟩ := List.mem_map.1 he
    split
    · rename_i hk'
      rw [hk']
      exact ha
    · exact ht e' he'
  · rw [entries_insert_of_not_mem hk] at he
    rcases List.mem_append.1 he with he | he
    · exact ht e he
    · rw [List.mem_singleton.1 he]
      exact ha

/-- What holds of all entries of a list holds of those of its table. -/
theorem forall_ofList {P : κ × α → Prop} {es : List (κ × α)} (h : ∀ e ∈ es, P e) :
    ∀ e ∈ (ofList es).entries, P e := by
  have hfold : ∀ t : Keyed κ α, (∀ e ∈ t.entries, P e) →
      ∀ e ∈ (es.foldl (fun t e => t.insert e.1 e.2) t).entries, P e := by
    induction es with
    | nil => exact fun t ht => ht
    | cons e es ih =>
      intro t ht
      exact ih (fun e' he => h e' (List.mem_cons_of_mem _ he)) _ (forall_insert ht (h e (List.mem_cons_self ..)))
  exact hfold empty fun e he => (List.not_mem_nil he).elim

/-! ### Adding entries in order -/

theorem get?_insertNew (t : Keyed κ α) (k k' : κ) (a : α) :
    (t.insertNew k a).get? k' = (t.get? k').or (if k' == k then some a else none) := by
  unfold insertNew
  split
  · rename_i hk
    by_cases hk' : k' = k
    · obtain ⟨b, hb⟩ := mem_keys_iff.1 hk
      rw [hk', hb]
      rfl
    · rw [beq_false_of_ne hk']
      exact Option.or_none.symm
  · simp only [get?, List.lookup_append, List.lookup_cons, List.lookup_nil]
    cases k' == k <;> rfl

/-- What is found under a key is its first entry, those of the table coming before the new ones. -/
theorem get?_insertAllNew (t : Keyed κ α) (es : List (κ × α)) (k : κ) :
    (t.insertAllNew es).get? k = (t.get? k).or (es.lookup k) := by
  induction es generalizing t with
  | nil => exact Option.or_none.symm
  | cons e es ih =>
    have hcons : t.insertAllNew (e :: es) = (t.insertNew e.1 e.2).insertAllNew es := rfl
    rw [hcons, ih, get?_insertNew, Option.or_assoc, List.lookup_cons]
    cases k == e.1 <;> rfl

theorem eraseDups_concat (ks : List κ) (k : κ) :
    (ks ++ [k]).eraseDups = if k ∈ ks then ks.eraseDups else ks.eraseDups ++ [k] := by
  rw [List.eraseDups_append]
  by_cases hk : k ∈ ks <;> simp [List.removeAll, List.eraseDups_cons, hk]

theorem keys_insertNew (t : Keyed κ α) (k : κ) (a : α) :
    (t.insertNew k a).keys = if k ∈ t.keys then t.keys else t.keys ++ [k] := by
  unfold insertNew
  split
  · rfl
  · exact List.map_append

theorem mem_keys_insertNew {t : Keyed κ α} {k : κ} {a : α} {k' : κ} :
    k' ∈ (t.insertNew k a).keys ↔ k' ∈ t.keys ∨ k' = k := by
  rw [keys_insertNew]
  split
  · rename_i hk
    exact ⟨.inl, fun h => h.elim id fun h => h ▸ hk⟩
  · rw [List.mem_append, List.mem_singleton]

/-- The keys are those of the table and after them the new ones, each where it occurs first. -/
theorem keys_insertAllNew {t : Keyed κ α} {ks : List κ} (h : t.keys = ks.eraseDups) (es : List (κ × α)) :
    (t.insertAllNew es).keys = (ks ++ es.map Prod.fst).eraseDups := by
  induction es generalizing t ks with
  | nil =>
    rw [List.map_nil, List.append_nil]
    exact h
  | cons e es ih =>
    have hnew : (t.insertNew e.1 e.2).keys = (ks ++ [e.1]).eraseDups := by
      rw [keys_insertNew, eraseDups_concat, h]
      simp only [List.mem_eraseDups]
    rw [show t.insertAllNew (e :: es) = (t.insertNew e.1 e.2).insertAllNew es from rfl, ih hnew,
      List.append_assoc]
    rfl

/-- Both ways to insert give the same keys. -/
theorem keys_insert (t : Keyed κ α) (k : κ) (a : α) : (t.insert k a).keys = (t.insertNew k a).keys := by
  unfold insert insertNew
  split
  · exact map_fst_replaced k a t.entries
  · rfl

/-- The keys of the table of a list are those of the list, each where it occurs first. -/
theorem keys_ofList (es : List (κ × α)) : (ofList es).keys = (es.map Prod.fst).eraseDups := by
  have hfold : ∀ t u : Keyed κ α, t.keys = u.keys →
      (es.foldl (fun t e => t.insert e.1 e.2) t).keys = (u.insertAllNew es).keys := by
    induction es with
    | nil => exact fun t u h => h
    | cons e es ih =>
      intro t u h
      refine ih _ _ ?_
      rw [keys_insert, keys_insertNew, keys_insertNew, h]
  have hnew : (empty.insertAllNew es).keys = ([] ++ es.map Prod.fst).eraseDups := keys_insertAllNew rfl es
  rw [List.nil_append] at hnew
  exact (hfold empty empty rfl).trans hnew

/-- The table of a list that repeats no key has the entries of the list. -/
theorem entries_ofList {es : List (κ × α)} (h : (es.map Prod.fst).Nodup) : (ofList es).entries = es := by
  have hfold : ∀ t : Keyed κ α, (t.keys ++ es.map Prod.fst).Nodup →
      (es.foldl (fun t e => t.insert e.1 e.2) t).entries = t.entries ++ es := by
    clear h
    induction es with
    | nil => exact fun t _ => (List.append_nil _).symm
    | cons e es ih =>
      intro t ht
      have he : e.1 ∉ t.keys := fun hk => (List.nodup_append.1 ht).2.2 e.1 hk e.1 (List.mem_cons_self ..) rfl
      have hentries := entries_insert_of_not_mem he e.2
      have hkeys : (t.insert e.1 e.2).keys = t.keys ++ [e.1] := by
        rw [keys, hentries, List.map_append]
        rfl
      rw [List.foldl_cons, ih _ (by rw [hkeys]; simpa using ht), hentries, List.append_assoc]
      rfl
  exact hfold empty h

theorem nodup_eraseDups (ks : List κ) : ks.eraseDups.Nodup := by
  have hkeys : (empty.insertAllNew (ks.map fun k => (k, ()))).keys =
      ([] ++ (ks.map fun k => (k, ())).map Prod.fst).eraseDups := keys_insertAllNew rfl _
  rw [List.nil_append, List.map_map] at hkeys
  simp only [Function.comp_def, List.map_id'] at hkeys
  exact hkeys ▸ nodup _

/-! ### Setting and removing -/

theorem lookup_replaced (k : κ) (a : α) (es : List (κ × α)) (k' : κ) :
    (replaced k a es).lookup k' = (es.lookup k').map fun b => if k' = k then a else b := by
  induction es with
  | nil => rfl
  | cons e es ih =>
    show ((if e.1 = k then (e.1, a) else e) :: replaced k a es).lookup k' = _
    rw [List.lookup_cons, List.lookup_cons]
    by_cases hk' : k' = e.1
    · subst hk'
      by_cases hk : e.1 = k <;> simp [hk]
    · have hfirst : (if e.1 = k then (e.1, a) else e).1 = e.1 := by split <;> rfl
      rw [hfirst, beq_false_of_ne hk', ih]

theorem get?_insert (t : Keyed κ α) (k : κ) (a : α) (k' : κ) :
    (t.insert k a).get? k' = if k' = k then some a else t.get? k' := by
  by_cases hk : k ∈ t.keys
  · obtain ⟨b, hb⟩ := mem_keys_iff.1 hk
    rw [insert, dif_pos hk]
    show (replaced k a t.entries).lookup k' = _
    rw [lookup_replaced]
    by_cases hk' : k' = k
    · subst hk'
      rw [show t.entries.lookup k' = some b from hb, if_pos rfl]
      simp
    · simp [hk', get?]
  · rw [get?, entries_insert_of_not_mem hk, List.lookup_append]
    by_cases hk' : k' = k
    · subst hk'
      rw [show t.entries.lookup k' = none from get?_eq_none_iff.2 hk]
      simp
    · simp [hk', List.lookup_cons, beq_false_of_ne hk', get?]

theorem get?_erase (t : Keyed κ α) (k k' : κ) :
    (t.erase k).get? k' = if k' = k then none else t.get? k' := by
  by_cases hk' : k' = k
  · rw [if_pos hk', get?_eq_none_iff, hk']
    intro hk
    obtain ⟨e, he, rfl⟩ := List.mem_map.1 hk
    exact (of_decide_eq_true (List.mem_filter.1 he).2) rfl
  · rw [if_neg hk']
    refine Option.ext fun a => ?_
    rw [get?_eq_some_iff, get?_eq_some_iff]
    simp [erase, hk']

theorem keys_erase (t : Keyed κ α) (k : κ) : (t.erase k).keys = t.keys.filter (· ≠ k) := by
  rw [keys, keys, List.filter_map]
  rfl

/-- The table that holds the first of some entries under each key, the keys in the order of the entries. -/
structure HoldsFirst (t : Keyed κ α) (es : List (κ × α)) : Prop where
  keys : t.keys = (es.map Prod.fst).eraseDups
  get? : ∀ k, t.get? k = es.lookup k

namespace HoldsFirst

variable {t : Keyed κ α} {es : List (κ × α)}

theorem empty : (empty : Keyed κ α).HoldsFirst [] := ⟨rfl, fun _ => rfl⟩

theorem insertAllNew (h : t.HoldsFirst es) (es' : List (κ × α)) : (t.insertAllNew es').HoldsFirst (es ++ es') where
  keys := by rw [keys_insertAllNew h.keys, List.map_append]
  get? := by
    intro k
    rw [get?_insertAllNew, h.get?, List.lookup_append]

theorem mem_keys (h : t.HoldsFirst es) {k : κ} : k ∈ t.keys ↔ k ∈ es.map Prod.fst := by
  rw [h.keys, List.mem_eraseDups]

end HoldsFirst

end Keyed

/-- A list without repetition, in the order in which its members were inserted. -/
structure Distinct (α : Type) where
  toList : List α
  nodup : toList.Nodup
  deriving DecidableEq

namespace Distinct

variable {α : Type}

/-- The list without members. -/
def empty : Distinct α := ⟨[], List.nodup_nil⟩

instance : EmptyCollection (Distinct α) := ⟨empty⟩

instance : Inhabited (Distinct α) := ⟨empty⟩

/-- The number of members. -/
def size (s : Distinct α) : Nat := s.toList.length

variable [DecidableEq α]

/-- Whether `a` is a member. -/
def contains (s : Distinct α) (a : α) : Bool := decide (a ∈ s.toList)

/-- Adds a member at the end unless it is there already. -/
def insert (s : Distinct α) (a : α) : Distinct α :=
  if h : a ∈ s.toList then s
  else ⟨s.toList ++ [a], List.nodup_append.2 ⟨s.nodup, by simp, by
    rintro x hx y hy rfl; rw [List.mem_singleton] at hy; exact h (hy ▸ hx)⟩⟩

/-- The distinct members of a list, each where it occurs first. -/
def ofList (as : List α) : Distinct α := as.foldl insert empty

theorem toList_foldl_insert {as : List α} {s : Distinct α} (h : (s.toList ++ as).Nodup) :
    (as.foldl insert s).toList = s.toList ++ as := by
  induction as generalizing s with
  | nil => simp
  | cons a as ih =>
    have ha : a ∉ s.toList := fun hs => (List.nodup_append.1 h).2.2 a hs a (List.mem_cons_self ..) rfl
    have hs : (s.insert a).toList = s.toList ++ [a] := by unfold insert; rw [dif_neg ha]
    rw [List.foldl_cons, ih (by rw [hs]; simpa using h), hs]
    simp

/-- A list that repeats nothing is taken over as it is. -/
theorem toList_ofList {as : List α} (h : as.Nodup) : (ofList as).toList = as :=
  toList_foldl_insert (s := empty) (by simpa [empty] using h)

/-- Whether two lists have the same members, in whatever order. -/
def sameMembers (s t : Distinct α) : Bool :=
  s.toList.all t.contains && t.toList.all s.contains

end Distinct

end SchemaHints
