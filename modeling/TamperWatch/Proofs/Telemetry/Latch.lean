import TamperWatch.Proofs.Telemetry.Run

/-!
# Latched signals over whole runs

A sticky signal against the messages of a run. A message trips a sticky signal if it is of the
signal's device and its payload shows the tampering that the signal stands for; it counts from the
first message of the signal's owner on, which is when the signal comes into scope. The last
assertion in the signal's history and the last message that counts and trips it are of one time
(`Engine.lastAssertion_history`). Main statement: after a run a sticky signal is on exactly if some
message that counts tripped it, the last one dates it, and nothing turns it off again
(`Engine.latched_iff_tripped`).
-/

namespace TamperWatch

/-- The message is of the device and shows the tampering that a sticky signal stands for. -/
def Message.trips (t : Thresholds) (device : String) (kind : SignalKind) (m : Message) : Bool :=
  m.device == device && m.members?.any (Catalogue.trips t m.category kind)

/-- The last message that trips a sticky signal, of those from its owner's first message on. -/
def lastTrip (t : Thresholds) (device : String) (kind : SignalKind) (ms : List Message) :
    Option Message :=
  (sinceFirst device kind.owner ms).reverse.find? (Message.trips t device kind)

/-- A stored signal is on. -/
def Store.IsOn (store : Store) (device : String) (kind : SignalKind) : Prop :=
  ∃ s, store.get? device kind = some s ∧ s.value = .flag true

/-- There is a last trip exactly if some message since the owner's first one trips the signal. -/
lemma isSome_lastTrip_iff {t device kind ms} :
    (lastTrip t device kind ms).isSome ↔
      ∃ m ∈ sinceFirst device kind.owner ms, m.trips t device kind = true := by
  simp [lastTrip]

/-- The last assertion that messages make is of the time of the last one that trips the signal. -/
lemma lastAssertion_updatesOf (t : Thresholds) (device : String) {kind : SignalKind}
    (hk : kind.latch = .sticky) (ms : List Message) :
    (lastAssertion (ms.flatMap (·.updatesOf t device kind))).map (·.time) =
      (ms.reverse.find? (Message.trips t device kind)).map (·.time) := by
  have hlast := Delivery.lastAssertion_flatMap t device hk (ms.map Message.delivery)
  rw [List.flatMap_map, ← List.map_reverse, List.find?_map, Option.map_map] at hlast
  exact hlast

/-- A sticky signal is on after calls exactly if its history has an assertion. -/
lemma Store.isOn_recordAll_iff {batches device kind} (hk : kind.latch = .sticky) :
    ((∅ : Store).recordAll batches).IsOn device kind ↔
      (lastAssertion (history batches device kind)).isSome = true := by
  unfold IsOn
  rw [get?_recordAll_empty]
  constructor
  · rintro ⟨s, hs, hon⟩
    exact (Signal.ofHistory?_sticky hk hs).1.1 hon
  · intro hlast
    cases hs : Signal.ofHistory? device kind (history batches device kind) with
    | none =>
      rw [Signal.ofHistory?_eq_none_iff.1 hs] at hlast
      cases hlast
    | some s => exact ⟨s, rfl, (Signal.ofHistory?_sticky hk hs).1.2 hlast⟩

namespace Engine

variable {t : Thresholds} {root : String}

/-- The last assertion of a sticky signal is dated as its last trip. -/
lemma lastAssertion_history {ms : List Message} {device : String} {kind : SignalKind}
    (hd : device ≠ "") (hk : kind.latch = .sticky) :
    (lastAssertion (history ((fresh t root).batches ms) device kind)).map (·.time) =
      (lastTrip t device kind ms).map (·.time) := by
  rw [history_batches, if_neg hd]
  exact lastAssertion_updatesOf t device hk _

/-- A stored sticky signal is on exactly if there is a last trip, and is dated by it. -/
lemma lastTriggered_of_get? {ms : List Message} {device : String} {kind : SignalKind} {s : Signal}
    (hd : device ≠ "") (hk : kind.latch = .sticky)
    (h : ((fresh t root).after ms).store.get? device kind = some s) :
    (s.value = .flag true ↔ (lastTrip t device kind ms).isSome) ∧
      s.lastTriggered = (lastTrip t device kind ms).map (·.time) := by
  have hlast : (lastAssertion (history ((fresh t root).batches ms) device kind)).map (·.time) =
      (lastTrip t device kind ms).map (·.time) := lastAssertion_history hd hk
  rw [get?_after_fresh] at h
  obtain ⟨hvalue, htime⟩ := Signal.ofHistory?_sticky hk h
  refine ⟨?_, htime.trans hlast⟩
  rw [hvalue, ← Option.isSome_map, hlast, Option.isSome_map]

/-- A sticky signal is on exactly if some message since the owner's first one trips it. -/
lemma isOn_after_iff {ms : List Message} {device : String} {kind : SignalKind} (hd : device ≠ "")
    (hk : kind.latch = .sticky) :
    ((fresh t root).after ms).store.IsOn device kind ↔
      ∃ m ∈ sinceFirst device kind.owner ms, m.trips t device kind = true := by
  rw [← isSome_lastTrip_iff, ← Option.isSome_map (f := Message.time), ← lastAssertion_history hd hk,
    Option.isSome_map, store_after]
  exact Store.isOn_recordAll_iff hk

/-- Sticky signals latch. After every run from the fresh engine a sticky signal of a device is on
exactly if some message from the first one of the signal's owner on showed the tampering that the
signal stands for; the last such message dates it; and no further messages turn it off or take the
date away. -/
theorem latched_iff_tripped (t : Thresholds) (root : String) (ms : List Message) {device : String}
    {kind : SignalKind} (hd : device ≠ "") (hk : kind.latch = .sticky) :
    (((fresh t root).after ms).store.IsOn device kind ↔
      ∃ m ∈ sinceFirst device kind.owner ms, m.trips t device kind = true) ∧
    (∀ s, ((fresh t root).after ms).store.get? device kind = some s → s.value = .flag true →
      ∃ m, lastTrip t device kind ms = some m ∧ s.lastTriggered = some m.time) ∧
    (((fresh t root).after ms).store.IsOn device kind → ∀ more,
      ∃ s, ((fresh t root).after (ms ++ more)).store.get? device kind = some s ∧
        s.value = .flag true ∧ s.lastTriggered.isSome = true) := by
  refine ⟨isOn_after_iff hd hk, fun s hget hon => ?_, fun hon more => ?_⟩
  · obtain ⟨hvalue, htime⟩ := lastTriggered_of_get? hd hk hget
    obtain ⟨m, hm⟩ := Option.isSome_iff_exists.1 (hvalue.1 hon)
    refine ⟨m, hm, ?_⟩
    rw [htime, hm]
    rfl
  -- The message that tripped the signal counts after any further messages, too.
  · obtain ⟨m, hm, htrips⟩ := (isOn_after_iff hd hk).1 hon
    have hlater : ((fresh t root).after (ms ++ more)).store.IsOn device kind :=
      (isOn_after_iff hd hk).2 ⟨m, mem_sinceFirst_append hm, htrips⟩
    obtain ⟨s, hget, hflag⟩ := hlater
    obtain ⟨hvalue, htime⟩ := lastTriggered_of_get? hd hk hget
    refine ⟨s, hget, hflag, ?_⟩
    rw [htime, Option.isSome_map]
    exact hvalue.1 hflag

/-- The lid of a device is opened; the clean report after it changes nothing. -/
theorem latched_lid_opened :
    let ms : List Message :=
      [⟨"canary-01", .health, "\x7b\x7d".toUTF8, 1⟩, ⟨"canary-01", .tamper, "lid opened".toUTF8, 5⟩,
        ⟨"canary-01", .health, "\x7b\x7d".toUTF8, 7⟩]
    ∃ s, ((fresh .default "securacv").after ms).store.get? "canary-01" .anyTamper = some s ∧
      s.value = .flag true ∧ s.lastTriggered = some 5 := by
  intro ms
  have hd : "canary-01" ≠ "" := by decide
  have hk : SignalKind.anyTamper.latch = .sticky := rfl
  obtain ⟨hon, hdate, _⟩ := latched_iff_tripped .default "securacv" ms hd hk
  obtain ⟨s, hget, hflag⟩ := hon.2 (by decide +kernel)
  obtain ⟨m, hm, htime⟩ := hdate s hget hflag
  have hlast : (some m).map (·.time) = some 5 := by
    rw [← hm]
    decide +kernel
  exact ⟨s, hget, hflag, htime.trans hlast⟩

end Engine

end TamperWatch
