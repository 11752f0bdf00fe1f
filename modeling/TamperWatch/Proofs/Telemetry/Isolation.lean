import TamperWatch.Proofs.Telemetry.Run

/-!
# Isolation of devices

What a device gets and shows depends on its own messages alone. Two engines agree on a device if
they hold the same entries of it. A message of another device leaves that agreement alone
(`Engine.agreeOn_handle_of_ne`), and a message of the device itself has the same outcome in both
engines and keeps it (`Engine.AgreeOn.handle`); so a run agrees with the run of the device's
messages alone (`Engine.agreeOn_after`). Main statement: the messages of other devices can be
deleted, and runs that differ in the interleaving of devices end alike (`Engine.device_isolated`).
-/

namespace TamperWatch

/-- The messages of a device, in order. -/
def ofDevice (device : String) (ms : List Message) : List Message :=
  ms.filter (·.device = device)

/-- Messages of two devices can be swapped without change to those of either. -/
lemma ofDevice_swap {m m' : Message} (h : m.device ≠ m'.device) (ms : List Message)
    (device : String) : ofDevice device (m :: m' :: ms) = ofDevice device (m' :: m :: ms) := by
  unfold ofDevice
  by_cases hd : m.device = device
  · have hd' : m'.device ≠ device := fun hd' => h (hd.trans hd'.symm)
    simp [hd, hd']
  · simp [List.filter_cons, hd]

namespace Store

variable {store store' : Store} {device : String}

/-- The signals of a device depend on its entry of the store only. -/
lemma signalsOf_congr (h : store.devices.find? device = store'.devices.find? device) :
    store.signalsOf device = store'.signalsOf device :=
  congrArg (·.getD ∅) h

/-- After a call stores agree on a device if they did before it. -/
lemma find?_recordBatch_congr (b : Batch)
    (h : store.devices.find? device = store'.devices.find? device) :
    (store.recordBatch b).devices.find? device = (store'.recordBatch b).devices.find? device := by
  unfold recordBatch
  rw [find?_record, find?_record]
  split
  · rename_i hd
    rw [← hd, signalsOf_congr h]
  · exact h

/-- After calls stores agree on a device if they did before them. -/
lemma find?_recordAll_congr (bs : List Batch)
    (h : store.devices.find? device = store'.devices.find? device) :
    (store.recordAll bs).devices.find? device = (store'.recordAll bs).devices.find? device := by
  induction bs generalizing store store' with
  | nil => exact h
  | cons b bs ih => exact ih (find?_recordBatch_congr b h)

/-- Calls of other devices leave the entry of a device as it is. -/
lemma find?_recordAll_of_ne {bs : List Batch}
    (h : ∀ b ∈ bs, b.device ≠ device) :
    (store.recordAll bs).devices.find? device = store.devices.find? device := by
  induction bs generalizing store with
  | nil => rfl
  | cons b bs ih =>
    have hb : (store.recordBatch b).devices.find? device = store.devices.find? device := by
      unfold recordBatch
      rw [find?_record]
      exact if_neg (h b List.mem_cons_self).symm
    exact (ih fun b' hb' => h b' (List.mem_cons_of_mem _ hb')).trans hb

end Store

namespace Engine

/-- What came of the messages of a device, in order. -/
def outcomesOf (e : Engine) (device : String) (ms : List Message) :
    List (Except RoutingError Dispatch) :=
  ((ms.zip (e.outcomes ms)).filter (·.1.device = device)).map (·.2)

/-- Two engines have the same thresholds and hold the same entries of a device. -/
structure AgreeOn (device : String) (e e' : Engine) : Prop where
  thresholds : e.thresholds = e'.thresholds
  seen : e.seen.devices.find? device = e'.seen.devices.find? device
  store : e.store.devices.find? device = e'.store.devices.find? device

/-- The outcomes of a device start with that of the first message if it is of the device. -/
lemma outcomesOf_cons (e : Engine) (device : String) (m : Message) (ms : List Message) :
    e.outcomesOf device (m :: ms) =
      if m.device = device then (e.handle m).1 :: (e.handle m).2.outcomesOf device ms
      else (e.handle m).2.outcomesOf device ms := by
  by_cases h : m.device = device <;> simp [outcomesOf, outcomes_cons, h]

namespace AgreeOn

variable {device : String} {e e' e'' : Engine}

/-- An engine agrees with itself. -/
lemma refl (device : String) (e : Engine) : AgreeOn device e e :=
  ⟨rfl, rfl, rfl⟩

/-- Agreement is mutual. -/
lemma symm (h : AgreeOn device e e') : AgreeOn device e' e :=
  ⟨h.thresholds.symm, h.seen.symm, h.store.symm⟩

/-- Agreement carries over. -/
lemma trans (h : AgreeOn device e e') (h' : AgreeOn device e' e'') : AgreeOn device e e'' :=
  ⟨h.thresholds.trans h'.thresholds, h.seen.trans h'.seen, h.store.trans h'.store⟩

/-- Engines that agree on a device know it under the same categories. -/
lemma categorySet_eq (h : AgreeOn device e e') :
    e.seen.categorySet device = e'.seen.categorySet device := by
  unfold Sightings.categorySet
  rw [h.seen]

/-- Engines that agree on a device store the same signals of it. -/
lemma signalsOf_eq (h : AgreeOn device e e') :
    e.store.signalsOf device = e'.store.signalsOf device :=
  Store.signalsOf_congr h.store

/-- Engines that agree on a device know a category of it both or neither. -/
lemma knows_eq (h : AgreeOn device e e') (category : Category) :
    e.seen.knows device category = e'.seen.knows device category := by
  unfold Sightings.knows
  rw [h.categorySet_eq]

/-- Engines that agree on a device have the same kinds in scope once a category is registered. -/
lemma scope_eq (h : AgreeOn device e e') (category : Category) :
    scope (e.seen.register device category) device =
      scope (e'.seen.register device category) device := by
  funext kind
  unfold scope
  rw [Sightings.knows_register, Sightings.knows_register, h.knows_eq]

/-- Engines that agree on the device of a message make the same call to the store for it. -/
lemma batch?_eq {m : Message} (h : AgreeOn m.device e e') : e.batch? m = e'.batch? m := by
  have hscope : e.scopeOf m = e'.scopeOf m := h.scope_eq m.category
  unfold batch?
  rw [h.thresholds, hscope]

/-- Engines that agree on the device of a message store the same for it afterwards. -/
lemma find?_storeAfter_eq {m : Message} (h : AgreeOn m.device e e') :
    (e.storeAfter m).devices.find? m.device = (e'.storeAfter m).devices.find? m.device := by
  unfold storeAfter
  rw [h.batch?_eq]
  exact Store.find?_recordAll_congr _ h.store

/-- Engines that agree on the device of a message have the same outcome, and agree afterwards. -/
lemma handle {m : Message} (h : AgreeOn m.device e e') :
    (e.handle m).1 = (e'.handle m).1 ∧ AgreeOn m.device (e.handle m).2 (e'.handle m).2 := by
  by_cases hne : m.device = ""
  · rw [handle_of_empty hne, handle_of_empty hne]
    exact ⟨rfl, h⟩
  · have hstore : (e.storeAfter m).devices.find? m.device = (e'.storeAfter m).devices.find? m.device :=
      h.find?_storeAfter_eq
    have hsignals : (e.storeAfter m).signalsOf m.device = (e'.storeAfter m).signalsOf m.device :=
      Store.signalsOf_congr hstore
    have hscope : e.scopeOf m = e'.scopeOf m := h.scope_eq m.category
    rw [handle_eq hne, handle_eq hne]
    refine ⟨?_, ⟨h.thresholds, ?_, hstore⟩⟩
    · unfold Store.select
      rw [h.knows_eq, hsignals, hscope, h.thresholds]
    · rw [Sightings.find?_register, Sightings.find?_register, h.categorySet_eq]
      simp

end AgreeOn

/-- A message of another device changes nothing of a device. -/
lemma agreeOn_handle_of_ne {device : String} {m : Message} (e : Engine) (h : m.device ≠ device) :
    AgreeOn device (e.handle m).2 e := by
  by_cases hne : m.device = ""
  · rw [handle_of_empty hne]
    exact AgreeOn.refl device e
  · have hother : ∀ b ∈ (e.batch? m).toList, b.device ≠ device := by
      intro b hb
      rw [(batch?_eq_some (Option.mem_toList.1 hb)).1]
      exact h
    rw [snd_handle hne]
    refine ⟨rfl, ?_, Store.find?_recordAll_of_ne hother⟩
    rw [Sightings.find?_register]
    exact if_neg h.symm

/-- A run agrees on a device with the run of the device's messages alone, and these have the same
outcomes in both. -/
lemma agreeOn_after {device : String} {e e' : Engine} (h : AgreeOn device e e')
    (ms : List Message) :
    e.outcomesOf device ms = e'.outcomes (ofDevice device ms) ∧
      AgreeOn device (e.after ms) (e'.after (ofDevice device ms)) := by
  induction ms generalizing e e' with
  | nil => exact ⟨rfl, h⟩
  | cons m ms ih =>
    rw [outcomesOf_cons, after_cons]
    by_cases hd : m.device = device
    · subst hd
      obtain ⟨houtcome, hafter⟩ := h.handle
      obtain ⟨houtcomes, hrun⟩ := ih hafter
      have hkept : ofDevice m.device (m :: ms) = m :: ofDevice m.device ms :=
        List.filter_cons_of_pos (by simp)
      rw [if_pos rfl, hkept, outcomes_cons, after_cons, houtcome, houtcomes]
      exact ⟨rfl, hrun⟩
    · have hdropped : ofDevice device (m :: ms) = ofDevice device ms :=
        List.filter_cons_of_neg (by simpa using hd)
      rw [if_neg hd, hdropped]
      exact ih ((agreeOn_handle_of_ne e hd).trans h)

/-- Engines that agree on every device and on the root are the same. -/
lemma eq_of_agreeOn {e e' : Engine} (hroot : e.topicRoot = e'.topicRoot)
    (h : ∀ device, AgreeOn device e e') : e = e' := by
  have hseen : e.seen.devices = e'.seen.devices := SortedMap.ext_find? fun d => (h d).seen
  have hstore : e.store.devices = e'.store.devices := SortedMap.ext_find? fun d => (h d).store
  have hthresholds : e.thresholds = e'.thresholds := (h "").thresholds
  obtain ⟨t, root, ⟨seen⟩, ⟨store⟩⟩ := e
  obtain ⟨t', root', ⟨seen'⟩, ⟨store'⟩⟩ := e'
  cases hroot
  cases hseen
  cases hstore
  cases hthresholds
  rfl

/-- Runs with the same messages of each device end in the same engine. -/
lemma after_eq_of_ofDevice {e : Engine} {ms ms' : List Message}
    (h : ∀ d, ofDevice d ms' = ofDevice d ms) : e.after ms' = e.after ms := by
  apply eq_of_agreeOn
  · rw [topicRoot_after, topicRoot_after]
  · intro d
    have hrun : AgreeOn d (e.after ms) (e.after (ofDevice d ms)) :=
      (agreeOn_after (AgreeOn.refl d e) ms).2
    have hrun' : AgreeOn d (e.after ms') (e.after (ofDevice d ms')) :=
      (agreeOn_after (AgreeOn.refl d e) ms').2
    rw [h d] at hrun'
    exact hrun'.trans hrun.symm

/-- Devices are isolated. In every run from the fresh engine the messages of a device have the
outcomes, and lead to the categories and stored signals, that they do when all messages of other
devices are deleted. So runs that differ only in how the messages of different devices are
interleaved give every message the same outcome and end with the same categories and signals of
every device, and with the same counts. -/
theorem device_isolated (t : Thresholds) (root : String) (ms : List Message) (device : String) :
    let start := fresh t root
    let alone := ofDevice device ms
    start.outcomesOf device ms = start.outcomes alone ∧
    (start.after ms).seen.categories device = (start.after alone).seen.categories device ∧
    (start.after ms).store.snapshot device = (start.after alone).store.snapshot device ∧
    ∀ ms', (∀ d, ofDevice d ms' = ofDevice d ms) →
      (∀ d, start.outcomesOf d ms' = start.outcomesOf d ms ∧
        (start.after ms').seen.categories d = (start.after ms).seen.categories d ∧
        (start.after ms').store.snapshot d = (start.after ms).store.snapshot d) ∧
      (start.after ms').diagnostics = (start.after ms).diagnostics := by
  intro start alone
  have halone : ∀ d ms, start.outcomesOf d ms = start.outcomes (ofDevice d ms) ∧
      AgreeOn d (start.after ms) (start.after (ofDevice d ms)) :=
    fun d ms => agreeOn_after (AgreeOn.refl d start) ms
  obtain ⟨houtcomes, hagree⟩ := halone device ms
  refine ⟨houtcomes, ?_, ?_, fun ms' hsame => ?_⟩
  · exact congrArg SortedMap.keys hagree.categorySet_eq
  · exact congrArg SortedMap.values hagree.signalsOf_eq
  · have hafter : start.after ms' = start.after ms := after_eq_of_ofDevice hsame
    rw [hafter]
    refine ⟨fun d => ⟨?_, rfl, rfl⟩, rfl⟩
    rw [(halone d ms').1, (halone d ms).1, hsame d]

/-- Whether the second device speaks before or after the first one makes no difference. -/
theorem device_isolated_interleaved :
    let start := fresh .default "securacv"
    let report : Message := ⟨"canary-01", .health, "\x7b\"battery\":5\x7d".toUTF8, 1⟩
    let event : Message := ⟨"canary-02", .tamper, "lid opened".toUTF8, 2⟩
    let last : Message := ⟨"canary-01", .tamper, "\x7b\"type\":\"gpio\"\x7d".toUTF8, 3⟩
    (∀ d, ofDevice d [event, report, last] = ofDevice d [report, event, last]) ∧
    (∀ d, start.outcomesOf d [event, report, last] = start.outcomesOf d [report, event, last]) ∧
    (start.after [event, report, last]).diagnostics =
      (start.after [report, event, last]).diagnostics := by
  intro start report event last
  have hdevices : event.device ≠ report.device := by decide
  have hsame : ∀ d, ofDevice d [event, report, last] = ofDevice d [report, event, last] :=
    ofDevice_swap hdevices [last]
  obtain ⟨_, _, _, hruns⟩ :=
    device_isolated .default "securacv" [report, event, last] "canary-01"
  obtain ⟨houtcomes, hcounts⟩ := hruns [event, report, last] hsame
  exact ⟨hsame, fun d => (houtcomes d).1, hcounts⟩

end Engine

end TamperWatch
