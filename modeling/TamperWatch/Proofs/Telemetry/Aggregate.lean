import TamperWatch.Proofs.Telemetry.Latch

/-!
# The aggregate tamper signal

The signal of any tampering stands for all kinds of tampering. What shows some kind of tampering
shows tampering at all, so a message that trips the signal of a kind trips the aggregate too if both
are in scope. They come into scope at different messages, though: a tamper event from before the
first health report reaches its own signal alone, and a clean health report then creates the
aggregate as off. Main statements: a run leaves a device's aggregate behind its sources exactly if
it does that, and no later message shows any tampering (`Engine.aggregates_iff`), and a run of two
messages does so (`Engine.not_aggregates_event_before_report`).
-/

namespace TamperWatch

/-- The stored aggregate of a device is on if the stored signal of some kind of tampering is. -/
def Store.Aggregates (store : Store) (device : String) : Prop :=
  ∀ s, store.get? device .anyTamper = some s →
    ∀ kind, store.IsOn device (.tamper kind) → s.value = .flag true

/-- Some kind of tampering was shown before the first health report of the device, a report of it
could be decoded, and nothing from the first report on shows any tampering. -/
def Outrun (t : Thresholds) (device : String) (ms : List Message) : Prop :=
  device ≠ "" ∧
    (∃ m ∈ beforeFirst device .health ms, ∃ kind, m.trips t device (.tamper kind) = true) ∧
    (∃ m ∈ ms, m.isOf device .health = true ∧ m.members?.isSome = true) ∧
    ¬ ∃ m ∈ sinceFirst device .health ms, m.trips t device .anyTamper = true

namespace Message

variable {t : Thresholds} {device : String} {m : Message}

/-- A message trips a signal if it is of the device, can be decoded and its payload trips the
signal. -/
lemma trips_iff {kind : SignalKind} :
    m.trips t device kind = true ↔
      m.device = device ∧
        ∃ o, m.members? = some o ∧ Catalogue.trips t m.category kind o = true := by
  cases h : m.members? <;> simp [trips, h]

/-- What shows a kind of tampering shows tampering. -/
lemma trips_anyTamper {kind : TamperKind} (h : m.trips t device (.tamper kind) = true) :
    m.trips t device .anyTamper = true := by
  obtain ⟨hd, o, hm, ho⟩ := trips_iff.1 h
  exact trips_iff.2 ⟨hd, o, hm, Catalogue.trips_anyTamper ho⟩

/-- Only health reports and tamper events show a kind of tampering. -/
lemma isOf_of_trips {kind : TamperKind} (h : m.trips t device (.tamper kind) = true) :
    m.isOf device .health = true ∨ m.isOf device .tamper = true := by
  obtain ⟨hd, o, _, ho⟩ := trips_iff.1 h
  rw [isOf_iff, isOf_iff]
  cases hc : m.category with
  | health => exact .inl ⟨hd, rfl⟩
  | tamper => exact .inr ⟨hd, rfl⟩
  | _ => simp [Catalogue.trips, hc] at ho

/-- Every tamper event that can be decoded shows tampering. -/
lemma trips_of_event (h : m.isOf device .tamper = true) (hm : m.members?.isSome = true) :
    m.trips t device .anyTamper = true := by
  obtain ⟨hd, hc⟩ := isOf_iff.1 h
  obtain ⟨o, ho⟩ := Option.isSome_iff_exists.1 hm
  refine trips_iff.2 ⟨hd, o, ho, ?_⟩
  rw [hc]
  rfl

/-- A sticky signal is updated by the reports and events of its device that can be decoded. -/
lemma updates_sticky_iff {kind : SignalKind} (hk : kind.latch = .sticky) :
    m.device = device ∧ (m.update? t kind).isSome = true ↔
      (m.isOf device .health = true ∨ m.isOf device .tamper = true) ∧ m.members?.isSome = true := by
  cases h : m.members? with
  | none => simp [update?, h]
  | some o =>
    have hsome : (m.update? t kind).isSome = (m.category == .health || m.category == .tamper) := by
      rw [update?, h]
      exact Catalogue.isSome_update?_sticky t m.category hk o
    rw [hsome, isOf_iff, isOf_iff]
    simp [and_or_left]

end Message

namespace Engine

variable {t : Thresholds} {root : String}

/-- A kind of tampering that was shown before the first health report is on. -/
lemma isOn_of_beforeFirst {ms : List Message} {device : String} {kind : TamperKind} {m : Message}
    (hd : device ≠ "") (hm : m ∈ beforeFirst device .health ms)
    (h : m.trips t device (.tamper kind) = true) :
    ((fresh t root).after ms).store.IsOn device (.tamper kind) := by
  obtain ⟨hmem, hnot⟩ := mem_of_mem_beforeFirst hm
  have hof : m.isOf device .tamper = true := (Message.isOf_of_trips h).resolve_left hnot
  exact (isOn_after_iff hd rfl).2 ⟨m, mem_sinceFirst_of_isOf hmem hof, h⟩

/-- The aggregate is stored once a health report could be decoded. -/
lemma isSome_get?_anyTamper {ms : List Message} {device : String} {m : Message} (hd : device ≠ "")
    (hm : m ∈ ms) (hof : m.isOf device .health = true) (hdec : m.members?.isSome = true) :
    (((fresh t root).after ms).store.get? device .anyTamper).isSome = true :=
  isSome_get?_after_iff.2
    ⟨hd, m, mem_sinceFirst_of_isOf hm hof, (Message.updates_sticky_iff rfl).2 ⟨.inl hof, hdec⟩⟩

/-- An aggregate that tampering has outrun is off while a kind of tampering is on. -/
lemma not_aggregates_of_outrun {ms : List Message} {device : String} (h : Outrun t device ms) :
    ¬ ((fresh t root).after ms).store.Aggregates device := by
  obtain ⟨hd, ⟨m, hm, kind, htrips⟩, ⟨r, hr, hof, hdec⟩, hclean⟩ := h
  intro hagg
  obtain ⟨s, hget⟩ := Option.isSome_iff_exists.1 (isSome_get?_anyTamper hd hr hof hdec)
  have hon : ((fresh t root).after ms).store.IsOn device .anyTamper :=
    ⟨s, hget, hagg s hget kind (isOn_of_beforeFirst hd hm htrips)⟩
  exact hclean ((isOn_after_iff hd rfl).1 hon)

/-- If the aggregate is off while a source is on, tampering outran the first health report. -/
lemma outrun_of_off {ms : List Message} {device : String} {kind : TamperKind} {s : Signal}
    (hget : ((fresh t root).after ms).store.get? device .anyTamper = some s)
    (hoff : s.value ≠ .flag true)
    (hon : ((fresh t root).after ms).store.IsOn device (.tamper kind)) : Outrun t device ms := by
  obtain ⟨hd, r, hr, hupdates⟩ := isSome_get?_after_iff.1 (Option.isSome_iff_exists.2 ⟨s, hget⟩)
  have hclean : ¬ ∃ m ∈ sinceFirst device .health ms, m.trips t device .anyTamper = true := by
    intro htrips
    have hany : ((fresh t root).after ms).store.IsOn device .anyTamper :=
      (isOn_after_iff hd rfl).2 htrips
    obtain ⟨s', hget', hflag⟩ := hany
    rw [hget] at hget'
    cases hget'
    exact hoff hflag
  refine ⟨hd, ?_, ?_, hclean⟩
  · obtain ⟨m, hm, htrips⟩ := (isOn_after_iff hd rfl).1 hon
    -- From the first report on the same message would have tripped the aggregate.
    have hbefore : m ∈ beforeFirst device .health ms :=
      (mem_beforeFirst_or_sinceFirst (mem_of_mem_sinceFirst hm) device .health).resolve_right
        fun hsince => hclean ⟨m, hsince, Message.trips_anyTamper htrips⟩
    exact ⟨m, hbefore, kind, htrips⟩
  · obtain ⟨hof, hdec⟩ := (Message.updates_sticky_iff rfl).1 hupdates
    have hreport : r.isOf device .health = true :=
      hof.resolve_right fun hevent => hclean ⟨r, hr, Message.trips_of_event hevent hdec⟩
    exact ⟨r, mem_of_mem_sinceFirst hr, hreport, hdec⟩

/-- When the aggregate stands for its sources. After every run from the fresh engine the stored
aggregate of a device is on if the stored signal of some kind of tampering is, except exactly if
that tampering was shown before the first health report and nothing shows any tampering from there
on: the first clean report then creates the aggregate as off. -/
theorem aggregates_iff (t : Thresholds) (root : String) (ms : List Message) (device : String) :
    ((fresh t root).after ms).store.Aggregates device ↔ ¬ Outrun t device ms := by
  constructor
  · intro hagg hout
    exact not_aggregates_of_outrun hout hagg
  · intro hout s hget kind hon
    by_contra hoff
    exact hout (outrun_of_off hget hoff hon)

/-- A tamper event and then a clean health report leave the aggregate off while its source is on. -/
theorem not_aggregates_event_before_report :
    let ms : List Message :=
      [⟨"canary-01", .tamper, "\x7b\"type\":\"gpio\"\x7d".toUTF8, 1⟩,
        ⟨"canary-01", .health, "\x7b\x7d".toUTF8, 2⟩]
    ¬ ((fresh .default "securacv").after ms).store.Aggregates "canary-01" := by
  intro ms hagg
  have hany : (((fresh .default "securacv").after ms).store.get? "canary-01" .anyTamper).map
      (·.value) = some (.flag false) := by decide +kernel
  have hgpio : (((fresh .default "securacv").after ms).store.get? "canary-01" (.tamper .gpio)).map
      (·.value) = some (.flag true) := by decide +kernel
  obtain ⟨s, hget, hoff⟩ := Option.map_eq_some_iff.1 hany
  have hon : s.value = .flag true := hagg s hget .gpio (Option.map_eq_some_iff.1 hgpio)
  rw [hoff] at hon
  cases hon

end Engine

end TamperWatch
