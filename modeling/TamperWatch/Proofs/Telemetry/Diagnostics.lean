import Mathlib.Data.List.Dedup
import TamperWatch.Proofs.Telemetry.Discovery

/-!
# Counts of a run

The engine counts devices, pairs and signals by going through what it has seen and stored; the same
counts can be read off what came of the messages. Both sides are lists of pairs without repetitions,
so they are as long as one another once they have the same members. Main statement:
`Engine.diagnostics_exact`.
-/

namespace TamperWatch

/-- What came of the accepted messages, in order. -/
def accepted (outcomes : List (Except RoutingError Dispatch)) : List Dispatch :=
  outcomes.filterMap Except.toOption

/-- The device and the category of an accepted message. -/
def Dispatch.pair (d : Dispatch) : String × Category :=
  (d.device, d.category)

/-- The accepted messages are those with an outcome that is no error. -/
lemma mem_accepted_iff {outcomes : List (Except RoutingError Dispatch)} {d : Dispatch} :
    d ∈ accepted outcomes ↔ .ok d ∈ outcomes := by
  constructor
  · intro h
    obtain ⟨r, hr, hd⟩ := List.mem_filterMap.1 h
    cases r with
    | error => cases hd
    | ok d' =>
      cases hd
      exact hr
  · intro h
    exact List.mem_filterMap.2 ⟨.ok d, h, rfl⟩

/-- The accepted messages with one more are those before it, and it if it is accepted. -/
lemma accepted_concat (outcomes : List (Except RoutingError Dispatch))
    (r : Except RoutingError Dispatch) :
    accepted (outcomes ++ [r]) = accepted outcomes ++ r.toOption.toList := by
  cases r <;> simp [accepted, Except.toOption]

/-- The pairs of accepted messages are those that were sighted. -/
lemma mem_pairs_accepted_iff {outcomes : List (Except RoutingError Dispatch)} {device : String}
    {category : Category} :
    (device, category) ∈ (accepted outcomes).map Dispatch.pair ↔
      Sighted outcomes device category := by
  simp [Sighted, Dispatch.pair, mem_accepted_iff]

/-- One more item is one more distinct item, unless it was there before. -/
lemma length_dedup_concat {α : Type} [DecidableEq α] (l : List α) (a : α) :
    (l ++ [a]).dedup.length = l.dedup.length + if a ∈ l then 0 else 1 := by
  rw [(List.perm_append_singleton a l).dedup.length_eq]
  by_cases h : a ∈ l
  · rw [List.dedup_cons_of_mem h, if_pos h]
    rfl
  · rw [List.dedup_cons_of_notMem h, if_neg h]
    rfl

/-- Lists without repetitions that have the same members are as long as one another. -/
lemma length_eq_of_mem_iff {α : Type} {l l' : List α} (h : l.Nodup) (h' : l'.Nodup)
    (hmem : ∀ a, a ∈ l ↔ a ∈ l') : l.length = l'.length :=
  ((List.perm_ext_iff_of_nodup h h').2 hmem).length_eq

namespace Sightings

/-- The known pairs, by device. -/
def pairs (seen : Sightings) : List (String × Category) :=
  pairsOf seen.deviceNames seen.categories

/-- The number of pairs is that of the known pairs. -/
lemma pairCount_eq (seen : Sightings) : seen.pairCount = seen.pairs.length :=
  SortedMap.foldr_size_values seen.devices

/-- No known pair is listed twice. -/
lemma nodup_pairs (seen : Sightings) : seen.pairs.Nodup :=
  nodup_pairsOf seen.devices.nodup_keys fun device => (seen.categorySet device).nodup_keys

/-- The categories of a device are those that it is known under. -/
lemma mem_categories_iff {seen : Sightings} {device : String} {category : Category} :
    category ∈ seen.categories device ↔ seen.knows device category = true :=
  SortedMap.mem_keys_iff

/-- The categories of a device stand in their own order. -/
lemma categories_eq_filter (seen : Sightings) (device : String) :
    seen.categories device = Category.all.filter (seen.knows device) := by
  have hall : Category.all.Pairwise fun a b => compare a b = .lt := by decide
  refine SortedMap.keys_eq_of_ascending (hall.sublist List.filter_sublist) fun category => ?_
  rw [List.mem_filter, and_iff_right (Category.mem_all category)]
  exact mem_categories_iff

/-- The pairs are those of a device and a category that it is known under. -/
lemma mem_pairs_iff {seen : Sightings} {device : String} {category : Category} :
    (device, category) ∈ seen.pairs ↔ seen.knows device category = true := by
  rw [pairs, mem_pairsOf, mem_categories_iff, and_iff_right_iff_imp]
  intro h
  refine SortedMap.mem_keys_iff.2 ?_
  cases hd : seen.devices.find? device with
  | none => simp [knows, categorySet, hd] at h
  | some => rfl

end Sightings

namespace Store

/-- The devices of a list with the kinds of their stored signals. -/
def stored (store : Store) (devices : List String) : List (String × SignalKind) :=
  pairsOf devices fun device => (store.signalsOf device).keys

/-- The number of signals is that of the stored ones. -/
lemma signalCount_eq (store : Store) :
    store.signalCount = (store.stored store.devices.keys).length :=
  SortedMap.foldr_size_values store.devices

/-- The stored signals of devices are those that are found under them. -/
lemma mem_stored_iff {store : Store} {devices : List String} {device : String}
    {kind : SignalKind} :
    (device, kind) ∈ store.stored devices ↔
      device ∈ devices ∧ (store.get? device kind).isSome = true := by
  rw [stored, mem_pairsOf, SortedMap.mem_keys_iff]
  rfl

/-- No stored signal of distinct devices is listed twice. -/
lemma nodup_stored (store : Store) {devices : List String} (h : devices.Nodup) :
    (store.stored devices).Nodup :=
  nodup_pairsOf h fun device => (store.signalsOf device).nodup_keys

/-- The stored signals of devices are as many as their snapshots have together. -/
lemma length_stored (store : Store) (devices : List String) :
    (store.stored devices).length =
      (devices.map fun device => (store.snapshot device).length).sum := by
  rw [stored, length_pairsOf]
  congr 1
  refine List.map_congr_left fun device _ => ?_
  exact (List.length_map _).trans (List.length_map _).symm

/-- The signals of any devices that include all those with signals are all the signals. -/
lemma signalCount_eq_length_stored {store : Store} {devices : List String} (hd : devices.Nodup)
    (hall : ∀ device kind, (store.get? device kind).isSome = true → device ∈ devices) :
    store.signalCount = (store.stored devices).length := by
  rw [signalCount_eq]
  refine length_eq_of_mem_iff (store.nodup_stored store.devices.nodup_keys)
    (store.nodup_stored hd) ?_
  rintro ⟨device, kind⟩
  rw [mem_stored_iff, mem_stored_iff]
  refine and_congr_left fun hkind => iff_of_true (SortedMap.mem_keys_iff.2 ?_) (hall _ _ hkind)
  cases hentry : store.devices.find? device with
  | none => simp [get?, signalsOf, hentry] at hkind
  | some => rfl

end Store

namespace Engine

variable {t : Thresholds} {root : String}

/-- The messages that are first sightings are as many as the distinct pairs of accepted ones. -/
lemma countP_firstSighting (t : Thresholds) (root : String) (ms : List Message) :
    (accepted ((fresh t root).outcomes ms)).countP (·.firstSighting) =
      ((accepted ((fresh t root).outcomes ms)).map Dispatch.pair).dedup.length := by
  induction ms using List.reverseRecOn with
  | nil => rfl
  | append_singleton ms m ih =>
    rw [outcomes_concat, accepted_concat, List.countP_append, ih]
    cases hr : (((fresh t root).after ms).handle m).1 with
    | error => simp [Except.toOption]
    | ok d =>
      obtain ⟨_, hdev, hcat, hfirst, _⟩ := dispatch_of_handle hr
      have hseen : d.pair ∈ (accepted ((fresh t root).outcomes ms)).map Dispatch.pair ↔
          d.firstSighting = false := by
        rw [Dispatch.pair, mem_pairs_accepted_iff, sighted_outcomes_iff, hdev, hcat, hfirst]
        simp
      show _ + [d].countP _ = ((_ ++ [d]).map Dispatch.pair).dedup.length
      rw [List.map_append, List.map_singleton, length_dedup_concat]
      cases hf : d.firstSighting <;> simp [hseen, hf]

/-- The devices with a name are those of accepted messages. -/
lemma mem_deviceNames_iff {ms : List Message} {device : String} :
    device ∈ ((fresh t root).after ms).seen.deviceNames ↔
      ∃ d ∈ accepted ((fresh t root).outcomes ms), d.device = device := by
  induction ms using List.reverseRecOn with
  | nil => exact iff_of_false List.not_mem_nil (by simp [accepted])
  | append_singleton ms m ih =>
    rw [after_concat, outcomes_concat, accepted_concat]
    by_cases hne : m.device = ""
    · rw [handle_of_empty hne, ih]
      simp [Except.toOption]
    · rw [handle_eq hne]
      have hnames : device ∈
          (((fresh t root).after ms).seen.register m.device m.category).deviceNames ↔
            device = m.device ∨ device ∈ ((fresh t root).after ms).seen.deviceNames :=
        SortedMap.mem_keys_insert
      rw [hnames, ih]
      simp only [Except.toOption, Option.toList_some, List.mem_append, List.mem_singleton,
        or_and_right, exists_or, exists_eq_left]
      rw [or_comm, eq_comm]

/-- The stored signals of a device are known under their owners, so the device was seen. -/
lemma mem_deviceNames_of_get? {ms : List Message} {device : String} {kind : SignalKind}
    (h : (((fresh t root).after ms).store.get? device kind).isSome = true) :
    device ∈ ((fresh t root).after ms).seen.deviceNames := by
  obtain ⟨s, hs⟩ := Option.isSome_iff_exists.1 h
  obtain ⟨d, hd, hdev, _⟩ := sighted_outcomes_iff.2 (knows_of_get? hs).2
  exact mem_deviceNames_iff.2 ⟨d, mem_accepted_iff.2 hd, hdev⟩

/-- Each stored signal was announced, so there are no more of them than announcements. -/
lemma length_stored_le (t : Thresholds) (root : String) (ms : List Message)
    {devices : List String} (h : devices.Nodup) :
    (((fresh t root).after ms).store.stored devices).length ≤
      ((accepted ((fresh t root).outcomes ms)).map fun d => d.monitors.length).sum := by
  have hannounced : ((fresh t root).after ms).store.stored devices ⊆
      (accepted ((fresh t root).outcomes ms)).flatMap fun d => d.monitors.map (d.device, ·) := by
    rintro ⟨device, kind⟩ hstored
    obtain ⟨s, hs⟩ := Option.isSome_iff_exists.1 (Store.mem_stored_iff.1 hstored).2
    obtain ⟨d, hd, rfl, hkind⟩ := (announced_of_get? hs).1
    rw [(knows_of_get? hs).1] at hkind
    exact List.mem_flatMap.2 ⟨d, mem_accepted_iff.2 hd, List.mem_map_of_mem hkind⟩
  have hle := (Store.nodup_stored _ h).length_le_of_subset hannounced
  simpa [List.length_flatMap] using hle

/-- Diagnostics are exact counts. After every run from the fresh engine the discovered pairs are as
many as the messages that were first sightings, and as the distinct pairs of accepted messages; the
devices are counted by and listed in ascending order as the distinct devices of accepted messages;
the categories of a device are those of its accepted messages, in their own order; and the signals
are counted device by device and are no more than were announced. -/
theorem diagnostics_exact (t : Thresholds) (root : String) (ms : List Message) :
    let e := (fresh t root).after ms
    let calls := accepted ((fresh t root).outcomes ms)
    e.diagnostics.discoveredPairs = calls.countP (·.firstSighting) ∧
    e.diagnostics.discoveredPairs = (calls.map fun d => (d.device, d.category)).dedup.length ∧
    e.diagnostics.devices = (calls.map (·.device)).dedup.length ∧
    e.diagnostics.devices = e.seen.deviceNames.length ∧
    (e.seen.deviceNames.Pairwise fun a b => compare a b = .lt) ∧
    (∀ device, device ∈ e.seen.deviceNames ↔ ∃ d ∈ calls, d.device = device) ∧
    (∀ device, e.seen.categories device =
      Category.all.filter fun c => calls.any fun d => d.device == device && d.category == c) ∧
    e.diagnostics.signals =
      (e.seen.deviceNames.map fun device => (e.store.snapshot device).length).sum ∧
    e.diagnostics.signals ≤ (calls.map fun d => d.monitors.length).sum := by
  intro e calls
  have hpairs : e.seen.pairCount = (calls.map Dispatch.pair).dedup.length := by
    rw [Sightings.pairCount_eq]
    refine length_eq_of_mem_iff e.seen.nodup_pairs (List.nodup_dedup _) ?_
    rintro ⟨device, category⟩
    rw [Sightings.mem_pairs_iff, List.mem_dedup, mem_pairs_accepted_iff, sighted_outcomes_iff]
  have hnames : e.seen.deviceNames.length = (calls.map (·.device)).dedup.length := by
    refine length_eq_of_mem_iff e.seen.devices.nodup_keys (List.nodup_dedup _) fun device => ?_
    rw [List.mem_dedup, List.mem_map]
    exact mem_deviceNames_iff
  have hdevices : e.diagnostics.devices = e.seen.deviceNames.length := (List.length_map _).symm
  have hsignals : e.diagnostics.signals = (e.store.stored e.seen.deviceNames).length :=
    Store.signalCount_eq_length_stored e.seen.devices.nodup_keys fun _ _ => mem_deviceNames_of_get?
  refine ⟨hpairs.trans (countP_firstSighting t root ms).symm, hpairs, hdevices.trans hnames,
    hdevices, e.seen.devices.keys_ascending, fun device => mem_deviceNames_iff, fun device => ?_,
    ?_, ?_⟩
  · rw [Sightings.categories_eq_filter]
    refine List.filter_congr fun category _ => ?_
    rw [Bool.eq_iff_iff, ← sighted_outcomes_iff, ← mem_pairs_accepted_iff]
    simp [Dispatch.pair, calls]
  · rw [hsignals, Store.length_stored]
  · rw [hsignals]
    exact length_stored_le t root ms e.seen.devices.nodup_keys

end Engine

end TamperWatch
