/-!
# Sorted finite maps

A finite map is kept as the list of its entries in strictly ascending key order, so that each map
has one representation and two maps with the same look-ups are equal. Main statements: looking up
after an insertion (`find?_insert`), the ascending order of the keys (`keys_ascending`) and
extensionality (`ext_find?`).
-/

namespace TamperWatch

/-- Puts an entry at its key's place in an ascending list, replacing an entry of the same key. -/
def insertEntry {κ : Type u} {α : Type v} [Ord κ] (key : κ) (a : α) :
    List (κ × α) → List (κ × α)
  | [] => [(key, a)]
  | (k, b) :: rest =>
    match compare key k with
    | .lt => (key, a) :: (k, b) :: rest
    | .eq => (key, a) :: rest
    | .gt => (k, b) :: insertEntry key a rest

/-- The entries stand in strictly ascending order of their keys. -/
def Ascending {κ : Type u} {α : Type v} [Ord κ] (entries : List (κ × α)) : Prop :=
  entries.Pairwise fun a b => compare a.1 b.1 = .lt

section Entries

variable {κ : Type u} {α : Type v} [Ord κ]

/-- An entry after an insertion is the new one or was there before. -/
theorem mem_insertEntry {key : κ} {a : α} {entries : List (κ × α)} {e : κ × α}
    (h : e ∈ insertEntry key a entries) : e = (key, a) ∨ e ∈ entries := by
  induction entries with
  | nil => simpa [insertEntry] using h
  | cons hd tl ih =>
    simp only [insertEntry] at h
    split at h
    · simpa using h
    · rcases List.mem_cons.1 h with h | h
      · exact .inl h
      · exact .inr (List.mem_cons_of_mem _ h)
    · rcases List.mem_cons.1 h with h | h
      · exact .inr (h ▸ List.mem_cons_self)
      · exact (ih h).imp_right (List.mem_cons_of_mem _)

/-- The keys after an insertion are those before it and the new one. -/
theorem mem_keys_insertEntry [Std.LawfulEqOrd κ] {key k : κ} {a : α} {entries : List (κ × α)} :
    k ∈ (insertEntry key a entries).map (·.1) ↔ k = key ∨ k ∈ entries.map (·.1) := by
  induction entries with
  | nil => simp [insertEntry]
  | cons hd tl ih =>
    simp only [insertEntry]
    split
    · simp
    · rename_i heq
      simp [Std.LawfulEqCmp.eq_of_compare heq]
    · simp only [List.map_cons, List.mem_cons, ih]
      exact or_left_comm

variable [Std.TransOrd κ]

/-- An insertion keeps entries in ascending order of their keys. -/
theorem Ascending.insertEntry {entries : List (κ × α)} (h : Ascending entries) (key : κ) (a : α) :
    Ascending (insertEntry key a entries) := by
  induction entries with
  | nil => simp [Ascending, TamperWatch.insertEntry]
  | cons hd tl ih =>
    have hhd : ∀ {e}, e ∈ tl → compare hd.1 e.1 = .lt := List.rel_of_pairwise_cons h
    simp only [TamperWatch.insertEntry]
    split
    · rename_i hlt
      refine List.Pairwise.cons (fun e he => ?_) h
      rcases List.mem_cons.1 he with rfl | he
      · exact hlt
      · exact Std.TransCmp.lt_trans hlt (hhd he)
    · rename_i heq
      refine List.Pairwise.cons (fun e he => ?_) h.of_cons
      exact Std.TransCmp.lt_of_eq_of_lt heq (hhd he)
    · rename_i hgt
      refine List.Pairwise.cons (fun e he => ?_) (ih h.of_cons)
      rcases mem_insertEntry he with rfl | he
      · exact Std.OrientedCmp.lt_of_gt hgt
      · exact hhd he

variable [BEq κ] [LawfulBEq κ] [Std.LawfulEqOrd κ]

omit [Std.TransOrd κ] in
/-- A key below all the keys of entries is not among them. -/
theorem lookup_eq_none_of_lt {key : κ} {entries : List (κ × α)}
    (h : ∀ e ∈ entries, compare key e.1 = .lt) : entries.lookup key = none := by
  induction entries with
  | nil => rfl
  | cons hd tl ih =>
    have hne : (key == hd.1) = false := by
      refine beq_eq_false_iff_ne.2 fun heq => ?_
      have := h hd List.mem_cons_self
      simp [heq] at this
    rw [List.lookup_cons, hne]
    exact ih fun e he => h e (List.mem_cons_of_mem _ he)

omit [Std.TransOrd κ] in
/-- After an insertion the new key leads to the new value and every other key to its old one. -/
theorem lookup_insertEntry (key k : κ) (a : α) (entries : List (κ × α)) :
    (insertEntry key a entries).lookup k = if k == key then some a else entries.lookup k := by
  induction entries with
  | nil => cases h : k == key <;> simp [insertEntry, List.lookup_cons, h]
  | cons hd tl ih =>
    obtain ⟨k', b⟩ := hd
    simp only [insertEntry]
    split
    · cases h : k == key <;> simp [List.lookup_cons, h]
    · rename_i heq
      obtain rfl : key = k' := Std.LawfulEqCmp.eq_of_compare heq
      cases h : k == key <;> simp [List.lookup_cons, h]
    · rename_i hgt
      rw [List.lookup_cons, ih, List.lookup_cons]
      cases h' : k == k' with
      | false => rfl
      | true =>
        have hne : (k == key) = false := by
          refine beq_eq_false_iff_ne.2 fun heq => ?_
          simp [← heq, eq_of_beq h'] at hgt
        simp [hne]

end Entries

/-- A finite map, as its entries in strictly ascending key order. -/
structure SortedMap (κ : Type u) (α : Type v) [Ord κ] where
  /-- The keys with their values. -/
  entries : List (κ × α)
  /-- The keys ascend, so none stands twice. -/
  ascending : Ascending entries

namespace SortedMap

variable {κ : Type u} {α : Type v} [Ord κ]

def empty : SortedMap κ α := ⟨[], List.Pairwise.nil⟩

instance : EmptyCollection (SortedMap κ α) := ⟨empty⟩

instance : Inhabited (SortedMap κ α) := ⟨empty⟩

instance [DecidableEq κ] [DecidableEq α] : DecidableEq (SortedMap κ α) := fun m n =>
  decidable_of_iff (m.entries = n.entries) (by rw [mk.injEq])

/-- The value of a key. -/
def find? [BEq κ] (m : SortedMap κ α) (key : κ) : Option α :=
  m.entries.lookup key

/-- The keys in ascending order. -/
def keys (m : SortedMap κ α) : List κ :=
  m.entries.map (·.1)

def values (m : SortedMap κ α) : List α :=
  m.entries.map (·.2)

def size (m : SortedMap κ α) : Nat :=
  m.entries.length

def isEmpty (m : SortedMap κ α) : Bool :=
  m.entries.isEmpty

variable [Std.TransOrd κ]

/-- Gives a key a value, in place of any that it had. -/
def insert (m : SortedMap κ α) (key : κ) (a : α) : SortedMap κ α :=
  ⟨insertEntry key a m.entries, m.ascending.insertEntry key a⟩

/-- The map of a list of entries; of two values for one key the later counts. -/
def ofList (entries : List (κ × α)) : SortedMap κ α :=
  entries.foldl (fun m e => m.insert e.1 e.2) empty

/-- The set of some keys, as a map without values. -/
def ofKeys (keys : List κ) : SortedMap κ Unit :=
  ofList (keys.map fun k => (k, ()))

omit [Std.TransOrd κ] in
/-- Nothing is found in the empty map. -/
@[simp] theorem find?_empty [BEq κ] (k : κ) : (∅ : SortedMap κ α).find? k = none := rfl

omit [Std.TransOrd κ] in
/-- The keys of a map are in ascending order. -/
theorem keys_ascending (m : SortedMap κ α) :
    m.keys.Pairwise fun a b => compare a b = .lt :=
  List.pairwise_map.2 m.ascending

/-- The keys of a map after an insertion are those before it and the new one. -/
theorem mem_keys_insert [Std.LawfulEqOrd κ] {m : SortedMap κ α} {key k : κ} {a : α} :
    k ∈ (m.insert key a).keys ↔ k = key ∨ k ∈ m.keys :=
  mem_keys_insertEntry

/-- The map that is made of keys has just these keys. -/
theorem mem_keys_ofKeys [Std.LawfulEqOrd κ] {ks : List κ} {k : κ} :
    k ∈ (ofKeys ks).keys ↔ k ∈ ks := by
  suffices h : ∀ m : SortedMap κ Unit,
      k ∈ ((ks.map fun k => (k, ())).foldl (fun m e => m.insert e.1 e.2) m).keys ↔
        k ∈ ks ∨ k ∈ m.keys from
    (h empty).trans (or_iff_left List.not_mem_nil)
  induction ks with
  | nil => simp
  | cons key ks ih =>
    intro m
    simp only [List.map_cons, List.foldl_cons, ih, mem_keys_insert, List.mem_cons]
    exact or_left_comm.trans or_assoc.symm

variable [BEq κ] [LawfulBEq κ] [Std.LawfulEqOrd κ]

/-- The inserted key leads to the inserted value and every other key to what it led to before. -/
theorem find?_insert (m : SortedMap κ α) (key k : κ) (a : α) :
    (m.insert key a).find? k = if k == key then some a else m.find? k :=
  lookup_insertEntry key k a m.entries

/-- What was inserted is found under its key. -/
@[simp] theorem find?_insert_self (m : SortedMap κ α) (key : κ) (a : α) :
    (m.insert key a).find? key = some a := by
  simp [find?_insert]

/-- An insertion changes nothing under any other key. -/
theorem find?_insert_of_ne (m : SortedMap κ α) {key k : κ} (a : α) (h : k ≠ key) :
    (m.insert key a).find? k = m.find? k := by
  simp [find?_insert, h]

/-- Two maps that answer every look-up alike are the same map. -/
theorem ext_find? {m n : SortedMap κ α} (h : ∀ k, m.find? k = n.find? k) : m = n := by
  suffices hlist : ∀ {xs ys : List (κ × α)}, Ascending xs → Ascending ys →
      (∀ k, xs.lookup k = ys.lookup k) → xs = ys by
    cases m; cases n
    simp only [mk.injEq]
    exact hlist ‹_› ‹_› h
  intro xs ys hxs hys hk
  induction xs generalizing ys with
  | nil =>
    cases ys with
    | nil => rfl
    | cons e ys =>
      obtain ⟨ke, b⟩ := e
      have := hk ke
      simp at this
  | cons d xs ih =>
    obtain ⟨kd, a⟩ := d
    cases ys with
    | nil =>
      have := hk kd
      simp at this
    | cons e ys =>
      obtain ⟨ke, b⟩ := e
      have hd : xs.lookup kd = none := lookup_eq_none_of_lt fun _ => List.rel_of_pairwise_cons hxs
      have he : ys.lookup ke = none := lookup_eq_none_of_lt fun _ => List.rel_of_pairwise_cons hys
      obtain rfl : kd = ke := by
        rcases hcmp : compare kd ke with _ | _ | _
        · have hnone : List.lookup kd ((ke, b) :: ys) = none := lookup_eq_none_of_lt fun x hx => by
            rcases List.mem_cons.1 hx with rfl | hx
            · exact hcmp
            · exact Std.TransCmp.lt_trans hcmp (List.rel_of_pairwise_cons hys hx)
          have := (hk kd).trans hnone
          simp at this
        · exact Std.LawfulEqCmp.eq_of_compare hcmp
        · have hlt : compare ke kd = .lt := Std.OrientedCmp.lt_of_gt hcmp
          have hnone : List.lookup ke ((kd, a) :: xs) = none := lookup_eq_none_of_lt fun x hx => by
            rcases List.mem_cons.1 hx with rfl | hx
            · exact hlt
            · exact Std.TransCmp.lt_trans hlt (List.rel_of_pairwise_cons hxs hx)
          have := (hk ke).symm.trans hnone
          simp at this
      obtain rfl : a = b := by simpa using hk kd
      rw [ih hxs.of_cons hys.of_cons fun k => ?_]
      by_cases hkd : k = kd
      · rw [hkd, hd, he]
      · simpa [List.lookup_cons, beq_false_of_ne hkd] using hk k

end SortedMap

end TamperWatch
