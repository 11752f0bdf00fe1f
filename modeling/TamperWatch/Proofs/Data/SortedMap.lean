import Mathlib.Algebra.GroupWithZero.Nat
import Mathlib.Data.List.Basic
import Mathlib.Data.List.Induction
import Mathlib.Data.List.Nodup
import TamperWatch.Data.SortedMap

/-!
# Sorted maps as sets of entries

What a look-up says about the list of entries behind it. Main statements: looking up finds exactly
the entries (`SortedMap.find?_eq_some_iff`), the values are exactly what look-ups give
(`SortedMap.mem_values_iff`), insertions at different keys commute (`SortedMap.insert_comm`), the
entries of a map make up that map again (`SortedMap.ofList_entries`), and the sizes of the maps in a
map count its pairs of keys (`SortedMap.foldr_size_values`).
-/

namespace TamperWatch

section Order

variable {κ : Type u} {α : Type v} {β : Type w} [Ord κ] [Std.TransOrd κ]

/-- A key above all others takes the last place. -/
lemma insertEntry_eq_append {key : κ} {a : α} {entries : List (κ × α)}
    (h : ∀ e ∈ entries, compare e.1 key = .lt) :
    insertEntry key a entries = entries ++ [(key, a)] := by
  induction entries with
  | nil => rfl
  | cons hd tl ih =>
    have hgt : compare key hd.1 = .gt := Std.OrientedCmp.gt_of_lt (h hd List.mem_cons_self)
    have htl : insertEntry key a tl = tl ++ [(key, a)] :=
      ih fun e he => h e (List.mem_cons_of_mem hd he)
    simp [insertEntry, hgt, htl]

omit [Std.TransOrd κ] in
/-- An inserted entry is there. -/
lemma mem_insertEntry_self {key : κ} {a : α} {entries : List (κ × α)} :
    (key, a) ∈ insertEntry key a entries := by
  induction entries with
  | nil => exact List.mem_cons_self
  | cons hd tl ih =>
    unfold insertEntry
    split
    · exact List.mem_cons_self
    · exact List.mem_cons_self
    · exact List.mem_cons_of_mem hd ih

namespace SortedMap

/-- A map made of a list with one more entry is the map of the list with that entry inserted. -/
lemma ofList_concat (entries : List (κ × α)) (e : κ × α) :
    ofList (entries ++ [e]) = (ofList entries).insert e.1 e.2 := by
  simp [ofList, List.foldl_append]

/-- A map made of a list is empty exactly if the list is. -/
lemma isEmpty_ofList (entries : List (κ × α)) : (ofList entries).isEmpty = entries.isEmpty := by
  induction entries using List.reverseRecOn with
  | nil => rfl
  | append_singleton entries last _ =>
    have hne : insertEntry last.1 last.2 (ofList entries).entries ≠ [] :=
      List.ne_nil_of_mem mem_insertEntry_self
    rw [ofList_concat, List.isEmpty_eq_false_iff.2 (List.concat_ne_nil last entries)]
    exact List.isEmpty_eq_false_iff.2 hne

/-- A map made of a list has entries of the list only. -/
lemma mem_of_mem_ofList {entries : List (κ × α)} {e : κ × α} (h : e ∈ (ofList entries).entries) :
    e ∈ entries := by
  induction entries using List.reverseRecOn with
  | nil => exact h
  | append_singleton entries last ih =>
    rw [ofList_concat] at h
    rcases mem_insertEntry h with rfl | hold
    · exact List.mem_concat_self
    · exact List.mem_append_left _ (ih hold)

/-- A map made of ascending entries has just these entries. -/
lemma entries_ofList {entries : List (κ × α)} (h : Ascending entries) :
    (ofList entries).entries = entries := by
  induction entries using List.reverseRecOn with
  | nil => rfl
  | append_singleton entries last ih =>
    obtain ⟨hfront, _, hlast⟩ := List.pairwise_append.1 h
    have hlt : ∀ e ∈ entries, compare e.1 last.1 = .lt :=
      fun e he => hlast e he last List.mem_cons_self
    rw [ofList_concat]
    show insertEntry last.1 last.2 (ofList entries).entries = entries ++ [last]
    rw [ih hfront, insertEntry_eq_append hlt]

/-- A map is made of its own entries. -/
lemma ofList_entries (m : SortedMap κ α) : ofList m.entries = m := by
  have h : (ofList m.entries).entries = m.entries := entries_ofList m.ascending
  rw [mk.injEq]
  exact h

/-- A map with every value replaced by its image. -/
def mapValues (f : α → β) (m : SortedMap κ α) : SortedMap κ β where
  entries := m.entries.map fun e => (e.1, f e.2)
  ascending := by
    rw [Ascending, List.pairwise_map]
    exact m.ascending

omit [Std.TransOrd κ] in
/-- What is found in a map with its values replaced is the image of what was found. -/
lemma find?_mapValues [BEq κ] (f : α → β) (m : SortedMap κ α) (k : κ) :
    (m.mapValues f).find? k = (m.find? k).map f := by
  show (m.entries.map fun e => (e.1, f e.2)).lookup k = (m.entries.lookup k).map f
  induction m.entries with
  | nil => rfl
  | cons hd tl ih =>
    obtain ⟨key, a⟩ := hd
    cases hk : k == key <;> simp [List.lookup_cons, hk, ih]

end SortedMap

end Order

section Keys

variable {κ : Type u} {α : Type v} [Ord κ] [Std.LawfulEqOrd κ]

namespace SortedMap

/-- Ascending keys are distinct. -/
lemma nodup_of_ascending {ks : List κ} (h : ks.Pairwise fun a b => compare a b = .lt) :
    ks.Nodup := by
  refine h.imp ?_
  rintro a _ hlt rfl
  simp at hlt

/-- The keys of a map are distinct. -/
lemma nodup_keys (m : SortedMap κ α) : m.keys.Nodup :=
  nodup_of_ascending m.keys_ascending

/-- The keys are the one ascending list of what is a key. -/
lemma keys_eq_of_ascending [Std.TransOrd κ] {m : SortedMap κ α} {ks : List κ}
    (hks : ks.Pairwise fun a b => compare a b = .lt) (hmem : ∀ k, k ∈ m.keys ↔ k ∈ ks) :
    m.keys = ks := by
  have hperm : m.keys.Perm ks :=
    (List.perm_ext_iff_of_nodup m.nodup_keys (nodup_of_ascending hks)).2 hmem
  refine hperm.eq_of_pairwise (fun a b _ _ hab hba => ?_) m.keys_ascending hks
  rw [Std.OrientedCmp.gt_of_lt hab] at hba
  cases hba

end SortedMap

end Keys

section Lookup

variable {κ : Type u} {α : Type v} [Ord κ] [Std.TransOrd κ] [BEq κ] [LawfulBEq κ]
  [Std.LawfulEqOrd κ]

/-- In ascending entries a key looks up exactly the item that stands with it. -/
lemma Ascending.lookup_eq_some_iff {entries : List (κ × α)} (h : Ascending entries) {k : κ}
    {a : α} : entries.lookup k = some a ↔ (k, a) ∈ entries := by
  induction entries with
  | nil => simp
  | cons hd tl ih =>
    obtain ⟨k', b⟩ := hd
    have hlt : ∀ {e}, e ∈ tl → compare k' e.1 = .lt := List.rel_of_pairwise_cons h
    by_cases hk : k = k'
    · subst hk
      have hnot : (k, a) ∉ tl := fun he => by simpa using hlt he
      simp [hnot, eq_comm]
    · simp [List.lookup_cons, beq_false_of_ne hk, ih h.of_cons, hk]

namespace SortedMap

/-- A map finds an item under a key exactly if both are one of its entries. -/
lemma find?_eq_some_iff {m : SortedMap κ α} {k : κ} {a : α} :
    m.find? k = some a ↔ (k, a) ∈ m.entries :=
  m.ascending.lookup_eq_some_iff

/-- The values of a map are what is found under some key. -/
lemma mem_values_iff {m : SortedMap κ α} {a : α} : a ∈ m.values ↔ ∃ k, m.find? k = some a := by
  simp [values, find?_eq_some_iff]

/-- The values ascend by a field that repeats their keys. -/
lemma pairwise_values {m : SortedMap κ α} {field : α → κ}
    (h : ∀ {k a}, m.find? k = some a → field a = k) :
    m.values.Pairwise fun a b => compare (field a) (field b) = .lt := by
  refine List.pairwise_map.2 (m.ascending.imp_of_mem fun ha hb hlt => ?_)
  rw [h (find?_eq_some_iff.2 ha), h (find?_eq_some_iff.2 hb)]
  exact hlt

/-- Insertions under two keys commute. -/
lemma insert_comm {m : SortedMap κ α} {k k' : κ} (h : k ≠ k') (a b : α) :
    (m.insert k a).insert k' b = (m.insert k' b).insert k a := by
  apply ext_find?
  intro key
  rw [find?_insert, find?_insert, find?_insert, find?_insert]
  by_cases hk : key = k
  · subst hk
    simp [h]
  · simp [hk]

/-- Of two insertions at one key the later counts. -/
lemma insert_insert {m : SortedMap κ α} (k : κ) (a b : α) :
    (m.insert k a).insert k b = m.insert k b := by
  apply ext_find?
  intro key
  rw [find?_insert, find?_insert, find?_insert]
  by_cases hk : key = k <;> simp [hk]

/-- The keys of a map are those under which something is found. -/
lemma mem_keys_iff {m : SortedMap κ α} {k : κ} : k ∈ m.keys ↔ (m.find? k).isSome = true := by
  simp [keys, Option.isSome_iff_exists, find?_eq_some_iff]

/-- The values of a map are what is found under its keys, in their order. -/
lemma values_eq_map_keys (m : SortedMap κ α) (d : α) :
    m.values = m.keys.map fun k => (m.find? k).getD d := by
  rw [keys, List.map_map]
  refine List.map_congr_left fun e he => ?_
  have hfind : m.find? e.1 = some e.2 := find?_eq_some_iff.2 he
  simp [hfind]

end SortedMap

end Lookup

section Pairs

variable {κ : Type u} {ι : Type v}

/-- Each key with each of the items that belong to it. -/
def pairsOf (ks : List κ) (items : κ → List ι) : List (κ × ι) :=
  ks.flatMap fun k => (items k).map (k, ·)

/-- The pairs are those of a key and one of its items. -/
lemma mem_pairsOf {ks : List κ} {items : κ → List ι} {k : κ} {i : ι} :
    (k, i) ∈ pairsOf ks items ↔ k ∈ ks ∧ i ∈ items k := by
  simp [pairsOf]

/-- There are as many pairs as there are items of all keys. -/
lemma length_pairsOf (ks : List κ) (items : κ → List ι) :
    (pairsOf ks items).length = (ks.map fun k => (items k).length).sum := by
  simp [pairsOf, List.length_flatMap]

/-- Pairs of distinct keys and distinct items are distinct. -/
lemma nodup_pairsOf {ks : List κ} {items : κ → List ι} (hks : ks.Nodup)
    (hitems : ∀ k, (items k).Nodup) : (pairsOf ks items).Nodup := by
  refine List.nodup_flatMap.2 ⟨fun k _ => ?_, hks.imp fun hne => ?_⟩
  · exact (hitems k).map fun _ _ h => (Prod.mk.inj h).2
  · intro p hp hp'
    obtain ⟨_, _, rfl⟩ := List.mem_map.1 hp
    obtain ⟨_, _, heq⟩ := List.mem_map.1 hp'
    exact hne (Prod.mk.inj heq).1.symm

end Pairs

/-- The sizes of the maps in a map count its pairs of keys. -/
lemma SortedMap.foldr_size_values {κ : Type u} {ι : Type v} {α : Type w} [Ord κ] [Std.TransOrd κ]
    [BEq κ] [LawfulBEq κ] [Std.LawfulEqOrd κ] [Ord ι] (m : SortedMap κ (SortedMap ι α)) :
    (m.values.map size).foldr (· + ·) 0 =
      (pairsOf m.keys fun k => ((m.find? k).getD ∅).keys).length := by
  rw [length_pairsOf, m.values_eq_map_keys ∅, List.map_map]
  show (List.map _ m.keys).sum = (List.map _ m.keys).sum
  congr 1
  refine List.map_congr_left fun k _ => ?_
  exact (List.length_map _).symm

end TamperWatch
