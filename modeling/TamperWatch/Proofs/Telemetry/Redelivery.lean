import TamperWatch.Proofs.Telemetry.Run

/-!
# Redelivered messages

A message that arrives once more right after it was handled changes nothing and is answered as
before, but announces nothing. A signal that has taken an update up is the same after taking it up
again, whether the update was folded into it or created it (`Signal.absorb_absorb`). A message makes
at most one update of each signal, so the store takes its call up to the same effect twice
(`Store.recordBatch_recordBatch`); and its pair is registered by then, so that it has the same scope
as before. Main statement: `Engine.handle_redelivered`.
-/

namespace TamperWatch

namespace Signal

/-- To fold an update into a signal twice is to fold it once. -/
lemma fold_fold (s : Signal) (u : Update) (now : Moment) :
    (s.fold u now).fold u now = s.fold u now := by
  by_cases hk : s.kind.latch = .sticky
  · cases hu : u.asserts with
    | false => rw [fold_sticky_off hk hu, fold_sticky_off hk hu]
    | true =>
      have hk' : (s.fold u now).kind.latch = .sticky := (kind_fold s u now).symm ▸ hk
      rw [fold_sticky_on hk' hu, fold_sticky_on hk hu]
      cases u.attributes.isEmpty <;> rfl
  · have hk' : (s.fold u now).kind.latch ≠ .sticky := (kind_fold s u now).symm ▸ hk
    rw [fold_replacing hk', fold_replacing hk]

/-- A first update says of the signal that it creates what it would say of any other. -/
lemma fold_start (device : String) (u : Update) (now : Moment) :
    (start device u now).fold u now = start device u now := by
  by_cases hk : (start device u now).kind.latch = .sticky
  · cases hu : u.asserts with
    | false => exact fold_sticky_off hk hu
    | true =>
      have hvalue : u.value = .flag true := Update.asserts_iff.1 hu
      have hlatch : u.kind.latch = .sticky := hk
      rw [fold_sticky_on hk hu]
      simp [start, hlatch, hu, hvalue]
  · exact fold_replacing hk

/-- To take up an update twice is to take it up once. -/
lemma absorb_absorb (device : String) (s? : Option Signal) (u : DatedUpdate) :
    absorb device (absorb device s? u) u = absorb device s? u := by
  cases s? with
  | none => exact congrArg some (fold_start device u.update u.time)
  | some s => exact congrArg some (fold_fold s u.update u.time)

end Signal

/-- A call makes at most one update of each signal. -/
def Batch.Single (b : Batch) : Prop :=
  ∀ kind, ∃ u? : Option Update, b.updates.filter (·.kind = kind) = u?.toList

/-- The call of a delivery makes at most one update of each signal. -/
lemma Delivery.single_batch? {t : Thresholds} {scope : Scope} {d : Delivery} {b : Batch}
    (h : d.batch? t scope = some b) : b.Single := by
  obtain ⟨o, _, rfl⟩ := Option.map_eq_some_iff.1 h
  intro kind
  show ∃ u? : Option Update,
    ((Catalogue.updates t d.category o).filter fun u => scope u.kind).filter (·.kind = kind) =
      u?.toList
  rw [filter_kind_filter_scope, Catalogue.filter_kind_updates]
  cases scope kind with
  | false => exact ⟨none, rfl⟩
  | true => exact ⟨_, rfl⟩

namespace Store

/-- A call that is made again changes no signal of its device. -/
lemma foldl_record_recordBatch (store : Store) {b : Batch} (h : b.Single) :
    b.updates.foldl (fun signals u => signals.record b.device b.time u)
        ((store.recordBatch b).signalsOf b.device) =
      (store.recordBatch b).signalsOf b.device := by
  unfold recordBatch
  rw [signalsOf_record, if_pos rfl]
  apply SortedMap.ext_find?
  intro kind
  obtain ⟨u?, hu⟩ := h kind
  rw [DeviceSignals.find?_foldl_record, DeviceSignals.find?_foldl_record, hu]
  cases u? with
  | none => rfl
  | some u => exact Signal.absorb_absorb b.device _ ⟨u, b.time⟩

/-- To make a call twice is to make it once. -/
lemma recordBatch_recordBatch (store : Store) {b : Batch} (h : b.Single) :
    (store.recordBatch b).recordBatch b = store.recordBatch b := by
  have hagain : b.updates.foldl (fun signals u => signals.record b.device b.time u)
      ((store.recordBatch b).signalsOf b.device) = (store.recordBatch b).signalsOf b.device :=
    store.foldl_record_recordBatch h
  have honce : (store.recordBatch b).signalsOf b.device =
      b.updates.foldl (fun signals u => signals.record b.device b.time u)
        (store.signalsOf b.device) := by
    unfold recordBatch
    rw [signalsOf_record, if_pos rfl]
  have hdevices :
      ((store.recordBatch b).recordBatch b).devices = (store.recordBatch b).devices := by
    show (store.recordBatch b).devices.insert b.device _ = _
    rw [hagain, honce]
    exact SortedMap.insert_insert b.device _ _
  exact congrArg Store.mk hdevices

end Store

/-- To register a pair twice is to register it once. -/
lemma Sightings.register_register (seen : Sightings) (device : String) (category : Category) :
    (seen.register device category).register device category = seen.register device category := by
  have hdevices : ((seen.register device category).register device category).devices =
      (seen.register device category).devices := by
    show (seen.register device category).devices.insert device _ = _
    rw [categorySet_register, if_pos rfl, SortedMap.insert_insert]
    exact SortedMap.insert_insert device _ _
  exact congrArg Sightings.mk hdevices

namespace Engine

variable {e : Engine} {m : Message}

/-- A message that comes again has the same kinds in scope. -/
lemma scopeOf_handle_self (h : m.device ≠ "") : (e.handle m).2.scopeOf m = e.scopeOf m := by
  unfold scopeOf
  rw [snd_handle h, Sightings.register_register]

/-- A message that comes again leaves the store as it is. -/
lemma storeAfter_handle_self (h : m.device ≠ "") :
    (e.handle m).2.storeAfter m = e.storeAfter m := by
  have hbatch : (e.handle m).2.batch? m = e.batch? m := by
    unfold batch?
    rw [thresholds_handle, scopeOf_handle_self h]
  unfold storeAfter
  rw [hbatch, store_handle]
  unfold storeAfter
  cases hb : e.batch? m with
  | none => rfl
  | some b =>
    rw [batch?_of_ne h] at hb
    exact e.store.recordBatch_recordBatch (Delivery.single_batch? hb)

/-- A message that comes again announces nothing, has the same outcome and changes nothing. -/
lemma handle_handle {d : Dispatch} (h : (e.handle m).1 = .ok d) :
    (e.handle m).2.handle m =
      (.ok { d with firstSighting := false, monitors := [] }, (e.handle m).2) := by
  by_cases hne : m.device = ""
  · rw [handle_of_empty hne] at h
    cases h
  · have hknown : (e.handle m).2.seen.knows m.device m.category = true :=
      knows_handle.2 (.inl ⟨hne, rfl, rfl⟩)
    have hstate : (e.handle m).2 =
        { e with
          seen := e.seen.register m.device m.category
          store := e.storeAfter m } := snd_handle hne
    rw [handle_eq hne] at h
    cases h
    rw [handle_eq hne, hknown, thresholds_handle, scopeOf_handle_self hne,
      storeAfter_handle_self hne, hstate]
    simp only [Sightings.register_register]
    rfl

/-- Redelivery is harmless. Whatever the engine holds, a message that was accepted and is handled
again at once, any number of times, leaves the known pairs and the stored signals as they are after
the first time. Each time it is answered as the first time, except that it is no first sighting and
announces nothing. -/
theorem handle_redelivered (e : Engine) {m : Message} {d : Dispatch}
    (h : (e.handle m).1 = .ok d) :
    let handled := (e.handle m).2
    let again : Dispatch := { d with firstSighting := false, monitors := [] }
    handled.handle m = (.ok again, handled) ∧
    ∀ n, handled.run (List.replicate n m) = (List.replicate n (.ok again), handled) := by
  intro handled again
  have honce : handled.handle m = (.ok again, handled) := handle_handle h
  refine ⟨honce, fun n => ?_⟩
  induction n with
  | zero => rfl
  | succ n ih => simp [List.replicate_succ, run, honce, ih]

/-- The event that makes a device known and creates its signals arrives three times. -/
theorem handle_redelivered_first_event :
    let e := fresh .default "securacv"
    let event : Message := ⟨"canary-01", .tamper, "\x7b\"type\":\"gpio\"\x7d".toUTF8, 1⟩
    ∃ d, (e.handle event).1 = .ok d ∧ d.firstSighting = true ∧ d.monitors.length = 10 ∧
      d.classification.signals.length = 10 ∧
      (e.handle event).2.run [event, event] =
        ([.ok { d with firstSighting := false, monitors := [] },
          .ok { d with firstSighting := false, monitors := [] }], (e.handle event).2) := by
  intro e event
  have hd : event.device ≠ "" := by decide
  have hfirst := congrArg Prod.fst (handle_eq (e := e) hd)
  refine ⟨_, hfirst, ?_, ?_, ?_, (handle_redelivered e hfirst).2 2⟩ <;> decide +kernel

/-- A message that arrives once more after another one of its category does change something. -/
example :
    let online : Message := ⟨"canary-01", .status, "online".toUTF8, 1⟩
    let offline : Message := ⟨"canary-01", .status, "offline".toUTF8, 2⟩
    let value := fun ms : List Message =>
      (((fresh .default "securacv").after ms).store.get? "canary-01" .online).map (·.value)
    value [online, offline] = some (.flag false) ∧
      value [online, offline, online] = some (.flag true) := by
  decide +kernel

end Engine

end TamperWatch
