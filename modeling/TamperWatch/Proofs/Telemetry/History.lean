import Mathlib.Data.List.Induction
import TamperWatch.Proofs.Data.SortedMap
import TamperWatch.Telemetry.Store

/-!
# Histories of stored signals

A stored signal against the history of the updates that were made to it. The store takes updates up
one at a time; the closed form `Signal.ofHistory?` reads the state off the whole history at once: a
sticky signal shows its last assertion and any other signal its last update. Main statements: one
call folds its updates into the signals of its device alone (`Store.get?_recordBatch`), and the
store holds the closed form of every history (`Store.recordAll_refines_history`).
-/

namespace TamperWatch

/-- An update and when it was made. -/
structure DatedUpdate where
  update : Update
  time : Moment

/-- One call of the store: the updates that a device makes at one time. -/
structure Batch where
  device : String
  updates : List Update
  time : Moment

/-- The updates that a call makes to one signal, in order. -/
def Batch.updatesOf (b : Batch) (device : String) (kind : SignalKind) : List DatedUpdate :=
  if b.device = device then (b.updates.filter (·.kind = kind)).map (⟨·, b.time⟩) else []

/-- The updates that calls make to one signal, in order. -/
def history (batches : List Batch) (device : String) (kind : SignalKind) : List DatedUpdate :=
  batches.flatMap (·.updatesOf device kind)

/-- The store after one call. -/
def Store.recordBatch (store : Store) (b : Batch) : Store :=
  store.record b.device b.updates b.time

/-- The store after calls. -/
def Store.recordAll (store : Store) (batches : List Batch) : Store :=
  batches.foldl recordBatch store

/-- A signal that may not be there yet, after one more update. -/
def Signal.absorb (device : String) (s? : Option Signal) (u : DatedUpdate) : Option Signal :=
  some (match s? with
    | some s => s.fold u.update u.time
    | none => start device u.update u.time)

/-- The last update that asserts a sticky signal. -/
def lastAssertion (us : List DatedUpdate) : Option DatedUpdate :=
  us.reverse.find? (·.update.asserts)

/-- The attributes of the last assertion that has any. -/
def lastDetails (us : List DatedUpdate) : Option Attributes :=
  (us.reverse.find? fun u => u.update.asserts && !u.update.attributes.isEmpty).map
    (·.update.attributes)

/-- The state of a signal as a function of its whole history. -/
def Signal.ofHistory? (device : String) (kind : SignalKind) (us : List DatedUpdate) :
    Option Signal :=
  if kind.latch = .sticky then
    us.head?.map fun first =>
      match lastAssertion us with
      | none => ⟨device, kind, first.update.value, first.update.attributes, none, first.time⟩
      | some last =>
        ⟨device, kind, .flag true, (lastDetails us).getD first.update.attributes, some last.time,
          last.time⟩
  else
    us.getLast?.map fun last =>
      ⟨device, kind, last.update.value, last.update.attributes, none, last.time⟩

/-- An update asserts a signal exactly if it gives it the value true. -/
lemma Update.asserts_iff {u : Update} : u.asserts = true ↔ u.value = .flag true :=
  beq_iff_eq

/-- With one more update the last assertion is that one if it asserts. -/
lemma lastAssertion_concat (us : List DatedUpdate) (u : DatedUpdate) :
    lastAssertion (us ++ [u]) = if u.update.asserts then some u else lastAssertion us := by
  cases h : u.update.asserts <;> simp [lastAssertion, h]

/-- With one more update the last details are its attributes if it asserts and has any. -/
lemma lastDetails_concat (us : List DatedUpdate) (u : DatedUpdate) :
    lastDetails (us ++ [u]) =
      if u.update.asserts ∧ u.update.attributes.isEmpty = false then some u.update.attributes
      else lastDetails us := by
  cases h : u.update.asserts <;> cases ha : u.update.attributes.isEmpty <;>
    simp [lastDetails, h, ha]

/-- Without an assertion there are no details. -/
lemma lastDetails_eq_none {us : List DatedUpdate} (h : lastAssertion us = none) :
    lastDetails us = none := by
  simp only [lastAssertion, List.find?_eq_none, List.mem_reverse, Bool.not_eq_true] at h
  simp only [lastDetails, Option.map_eq_none_iff, List.find?_eq_none, List.mem_reverse]
  intro u hu
  simp [h u hu]

namespace Signal

/-- One more update of a signal that is replaced goes on from the history before it. -/
lemma ofHistory?_concat_replacing {device kind us u} (hk : kind.latch ≠ .sticky)
    (hu : u.update.kind = kind) :
    ofHistory? device kind (us ++ [u]) = absorb device (ofHistory? device kind us) u := by
  subst hu
  cases h : us.getLast? with
  | none => simp [ofHistory?, absorb, start, hk, h]
  | some last => simp [ofHistory?, absorb, fold_replacing, hk, h]

/-- One more update of a sticky signal goes on from the history before it. -/
lemma ofHistory?_concat_sticky {device kind us u} (hk : kind.latch = .sticky)
    (hu : u.update.kind = kind) :
    ofHistory? device kind (us ++ [u]) = absorb device (ofHistory? device kind us) u := by
  subst hu
  -- The first update makes the signal and all later ones are folded into it.
  cases us with
  | nil =>
    cases h : u.update.asserts with
    | false => simp [ofHistory?, absorb, start, hk, h, lastAssertion]
    | true =>
      have hv : u.update.value = .flag true := Update.asserts_iff.1 h
      cases ha : u.update.attributes.isEmpty <;>
        simp [ofHistory?, absorb, start, hk, h, hv, ha, lastAssertion, lastDetails]
  | cons first rest =>
    simp only [ofHistory?, hk, if_true, lastAssertion_concat, lastDetails_concat]
    cases h : u.update.asserts with
    | false =>
      cases hl : lastAssertion (first :: rest) <;> simp [absorb, fold_sticky_off, hk, h]
    | true =>
      cases hl : lastAssertion (first :: rest) with
      | none =>
        have hd : lastDetails (first :: rest) = none := lastDetails_eq_none hl
        cases ha : u.update.attributes.isEmpty <;>
          simp [absorb, fold_sticky_on, hk, h, ha, hd]
      | some last =>
        cases ha : u.update.attributes.isEmpty <;> simp [absorb, fold_sticky_on, hk, h, ha]

/-- Taking updates up one at a time gives the closed form of their list. -/
lemma foldl_absorb_eq_ofHistory? {device kind} {us : List DatedUpdate}
    (h : ∀ u ∈ us, u.update.kind = kind) :
    us.foldl (absorb device) none = ofHistory? device kind us := by
  induction us using List.reverseRecOn with
  | nil => simp [ofHistory?]
  | append_singleton us u ih =>
    have hus : ∀ v ∈ us, v.update.kind = kind := fun v hv => h v (List.mem_append_left _ hv)
    have hu : u.update.kind = kind := h u (by simp)
    rw [List.foldl_append, ih hus]
    by_cases hk : kind.latch = .sticky
    · exact (ofHistory?_concat_sticky hk hu).symm
    · exact (ofHistory?_concat_replacing hk hu).symm

end Signal

/-- The signal of a history is that of the device and the kind. -/
lemma Signal.ofHistory?_keyed {device kind us s} (h : ofHistory? device kind us = some s) :
    s.device = device ∧ s.kind = kind := by
  unfold ofHistory? at h
  split at h
  · obtain ⟨first, -, rfl⟩ := Option.map_eq_some_iff.1 h
    cases lastAssertion us <;> exact ⟨rfl, rfl⟩
  · obtain ⟨last, -, rfl⟩ := Option.map_eq_some_iff.1 h
    exact ⟨rfl, rfl⟩

/-- There is no signal exactly if there is no history. -/
lemma Signal.ofHistory?_eq_none_iff {device kind us} :
    ofHistory? device kind us = none ↔ us = [] := by
  unfold ofHistory?
  split <;> simp

/-- A sticky signal is on exactly if its history has an assertion, and the last one dates it. -/
lemma Signal.ofHistory?_sticky {device kind us s} (hk : kind.latch = .sticky)
    (h : ofHistory? device kind us = some s) :
    (s.value = .flag true ↔ (lastAssertion us).isSome) ∧
      s.lastTriggered = (lastAssertion us).map (·.time) := by
  rw [ofHistory?, if_pos hk] at h
  obtain ⟨first, hfirst, rfl⟩ := Option.map_eq_some_iff.1 h
  cases hl : lastAssertion us with
  | none =>
    have hoff : first.update.asserts = false := by
      simp only [lastAssertion, List.find?_eq_none, List.mem_reverse, Bool.not_eq_true] at hl
      exact hl first (List.mem_of_head? hfirst)
    have hvalue : first.update.value ≠ .flag true := fun hv => by
      rw [Update.asserts_iff.2 hv] at hoff
      cases hoff
    simp [hvalue]
  | some last => simp

/-- A sticky signal shows the details of its last assertion that has any, or else of its first
update. -/
lemma Signal.ofHistory?_details {device kind us s} (hk : kind.latch = .sticky)
    (h : ofHistory? device kind us = some s) :
    ∃ first, us.head? = some first ∧
      s.attributes = (lastDetails us).getD first.update.attributes := by
  rw [ofHistory?, if_pos hk] at h
  obtain ⟨first, hfirst, rfl⟩ := Option.map_eq_some_iff.1 h
  refine ⟨first, hfirst, ?_⟩
  cases hl : lastAssertion us with
  | none =>
    rw [lastDetails_eq_none hl]
    rfl
  | some last => rfl

/-- The last details are those of some assertion. -/
lemma lastDetails_eq_some {us details} (h : lastDetails us = some details) :
    ∃ u ∈ us, u.update.asserts = true ∧ u.update.attributes = details ∧
      details.isEmpty = false := by
  obtain ⟨u, hu, rfl⟩ := Option.map_eq_some_iff.1 h
  have hmem : u ∈ us := List.mem_reverse.1 (List.mem_of_find?_eq_some hu)
  have hboth := List.find?_some hu
  simp only [Bool.and_eq_true, Bool.not_eq_true'] at hboth
  exact ⟨u, hmem, hboth.1, rfl, hboth.2⟩

/-- Without details no assertion has attributes. -/
lemma isEmpty_of_lastDetails_eq_none {us u} (h : lastDetails us = none) (hu : u ∈ us)
    (ha : u.update.asserts = true) : u.update.attributes.isEmpty = true := by
  rw [lastDetails, Option.map_eq_none_iff, List.find?_eq_none] at h
  simpa [ha] using h u (List.mem_reverse.2 hu)

/-- The history of a signal has updates of it only. -/
lemma kind_of_mem_history {batches device kind u} (h : u ∈ history batches device kind) :
    u.update.kind = kind := by
  obtain ⟨b, -, hb⟩ := List.mem_flatMap.1 h
  unfold Batch.updatesOf at hb
  split at hb
  · obtain ⟨v, hv, rfl⟩ := List.mem_map.1 hb
    simpa using (List.mem_filter.1 hv).2
  · simp at hb

/-- The history of more calls is that of the first and then that of the others. -/
lemma history_append (bs more : List Batch) (device : String) (kind : SignalKind) :
    history (bs ++ more) device kind = history bs device kind ++ history more device kind :=
  List.flatMap_append

/-- Updates that are recorded reach each signal in their order. -/
lemma DeviceSignals.find?_foldl_record (signals : DeviceSignals) (device : String) (now : Moment)
    (us : List Update) (kind : SignalKind) :
    (us.foldl (fun signals u => signals.record device now u) signals).find? kind =
      ((us.filter (·.kind = kind)).map (DatedUpdate.mk · now)).foldl (Signal.absorb device)
        (signals.find? kind) := by
  induction us generalizing signals with
  | nil => rfl
  | cons u us ih =>
    rw [List.foldl_cons, ih, find?_record]
    by_cases hk : kind = u.kind
    · subst hk
      rw [if_pos rfl, List.filter_cons_of_pos (by simp), List.map_cons, List.foldl_cons]
      rfl
    · rw [if_neg hk, List.filter_cons_of_neg (by simpa using Ne.symm hk)]

namespace Store

/-- To make more calls is to make the first and then the others. -/
lemma recordAll_append (store : Store) (bs more : List Batch) :
    store.recordAll (bs ++ more) = (store.recordAll bs).recordAll more :=
  List.foldl_append

/-- A call changes a signal by its updates of it. -/
lemma get?_recordBatch (store : Store) (b : Batch) (device : String) (kind : SignalKind) :
    (store.recordBatch b).get? device kind =
      (b.updatesOf device kind).foldl (Signal.absorb device) (store.get? device kind) := by
  unfold recordBatch get? Batch.updatesOf
  rw [signalsOf_record]
  by_cases hd : b.device = device
  · subst hd
    simp [DeviceSignals.find?_foldl_record]
  · simp [hd, Ne.symm hd]

/-- Calls change a signal by its history under them. -/
lemma get?_recordAll (store : Store) (batches : List Batch) (device : String) (kind : SignalKind) :
    (store.recordAll batches).get? device kind =
      (history batches device kind).foldl (Signal.absorb device) (store.get? device kind) := by
  induction batches generalizing store with
  | nil => rfl
  | cons b bs ih =>
    rw [recordAll, List.foldl_cons, ← recordAll, ih, get?_recordBatch]
    simp [history]

/-- In a store that was empty a signal is what its history makes of it. -/
lemma get?_recordAll_empty (batches : List Batch) (device : String) (kind : SignalKind) :
    ((∅ : Store).recordAll batches).get? device kind =
      Signal.ofHistory? device kind (history batches device kind) := by
  rw [get?_recordAll]
  exact Signal.foldl_absorb_eq_ofHistory? fun u hu => kind_of_mem_history hu

/-- A signal after calls to an empty store is of the device and kind under which it is stored. -/
lemma keyed_of_get?_recordAll {batches device kind s}
    (h : ((∅ : Store).recordAll batches).get? device kind = some s) :
    s.device = device ∧ s.kind = kind := by
  rw [get?_recordAll_empty] at h
  exact Signal.ofHistory?_keyed h

/-- A snapshot has the stored signals of the device. -/
lemma mem_snapshot_iff {store : Store} {device : String} {s : Signal} :
    s ∈ store.snapshot device ↔ ∃ kind, store.get? device kind = some s :=
  SortedMap.mem_values_iff

/-- The store refines its history: after any calls of the empty store each signal is the closed form
of the updates that were made to it, and the snapshot lists these signals by ascending kinds. -/
theorem recordAll_refines_history (batches : List Batch) (device : String) :
    let store := (∅ : Store).recordAll batches
    (∀ kind, store.get? device kind = none ↔ history batches device kind = []) ∧
    (∀ kind, store.get? device kind =
      Signal.ofHistory? device kind (history batches device kind)) ∧
    (∀ kind s, store.get? device kind = some s → s.device = device ∧ s.kind = kind) ∧
    (∀ s, s ∈ store.snapshot device ↔ ∃ kind, store.get? device kind = some s) ∧
    (store.snapshot device).Pairwise fun a b => compare a.kind b.kind = .lt := by
  intro store
  have hget : ∀ kind, store.get? device kind =
      Signal.ofHistory? device kind (history batches device kind) :=
    get?_recordAll_empty batches device
  refine ⟨fun kind => ?_, hget, fun _ _ => keyed_of_get?_recordAll, fun s => mem_snapshot_iff, ?_⟩
  · rw [hget]
    exact Signal.ofHistory?_eq_none_iff
  · exact SortedMap.pairwise_values fun h => (keyed_of_get?_recordAll h).2

end Store

end TamperWatch
