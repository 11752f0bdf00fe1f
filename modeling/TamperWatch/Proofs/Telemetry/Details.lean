import TamperWatch.Proofs.Telemetry.Aggregate

/-!
# The details of tripped signals

Whose details a sticky signal shows while it is on. They are those of the last message that tripped
it and gave any, or else those of the message that created it (`Engine.details_of_get?`). Reports
never give details of a sticky signal and events always do, so the second case matters for a signal
that only reports tripped: if an event created it, the signal shows the details of that event, which
was of another kind of tampering. Main statements: the aggregate never does that, and the signal of
a kind does so in exactly that case (`Engine.attributed_iff`); a run of two messages leads to it
(`Engine.not_attributed_report_after_event`).
-/

namespace TamperWatch

/-- The message is a report or an event of the device, and could be decoded. -/
def Message.updatesSticky (device : String) (m : Message) : Bool :=
  (m.isOf device .health || m.isOf device .tamper) && m.members?.isSome

/-- The message trips the device's sticky signal, and the signal's rule gives these details. -/
def Message.tripsWith (t : Thresholds) (device : String) (kind : SignalKind) (details : Attributes)
    (m : Message) : Prop :=
  m.device = device ∧ ∃ u, m.update? t kind = some u ∧ u.asserts = true ∧ u.attributes = details

/-- A stored signal that is on shows no details, or those of a message that tripped it. -/
def Store.Attributed (store : Store) (t : Thresholds) (ms : List Message) (device : String)
    (kind : SignalKind) : Prop :=
  ∀ s, store.get? device kind = some s → s.value = .flag true →
    s.attributes.isEmpty = true ∨ ∃ m ∈ ms, m.tripsWith t device kind s.attributes

/-- An event created the signal of a kind of tampering, and what tripped it later was no event. -/
def Borrowed (t : Thresholds) (device : String) (kind : TamperKind) (ms : List Message) : Prop :=
  device ≠ "" ∧
    ((sinceFirst device .tamper ms).find? (·.updatesSticky device)).map (·.category) =
      some .tamper ∧
    (∃ m ∈ sinceFirst device .tamper ms, m.trips t device (.tamper kind) = true) ∧
    ¬ ∃ m ∈ ms, m.category = .tamper ∧ m.trips t device (.tamper kind) = true

namespace Message

variable {t : Thresholds} {device : String} {kind : SignalKind} {m : Message}

/-- The messages that update a sticky signal of a device are the reports and events of it. -/
lemma updatesSticky_iff (hk : kind.latch = .sticky) :
    m.updatesSticky device = true ↔ m.device = device ∧ (m.update? t kind).isSome = true := by
  rw [updates_sticky_iff hk]
  simp [updatesSticky]

/-- A message trips a sticky signal exactly if it does so with some details. -/
lemma trips_iff_tripsWith (hk : kind.latch = .sticky) :
    m.trips t device kind = true ↔ ∃ details, m.tripsWith t device kind details := by
  have htrips : m.trips t device kind = _ := Delivery.trips_eq t device hk m.delivery
  have hupdate : m.delivery.update? t kind = m.update? t kind := rfl
  rw [htrips, hupdate, Bool.and_eq_true, beq_iff_eq, Option.any_eq_true]
  constructor
  · rintro ⟨hd, u, hu, ha⟩
    exact ⟨u.attributes, hd, u, hu, ha, rfl⟩
  · rintro ⟨details, hd, u, hu, ha, rfl⟩
    exact ⟨hd, u, hu, ha⟩

/-- Only events give details of a sticky signal, and each of them does. -/
lemma isEmpty_attributes_of_update? {u : Update} (hk : kind.latch = .sticky)
    (hu : m.update? t kind = some u) : u.attributes.isEmpty = true ↔ m.category ≠ .tamper := by
  obtain ⟨o, _, ho⟩ := Option.bind_eq_some_iff.1 hu
  have hsome := Catalogue.isSome_update?_sticky t m.category hk o
  rw [ho, Option.isSome_some] at hsome
  rw [Catalogue.isEmpty_attributes_of_update? hk ho]
  cases hc : m.category with
  | health => simp
  | tamper => simp
  | _ =>
    rw [hc] at hsome
    cases hsome

/-- What trips a sticky signal gives details exactly if it is an event. -/
lemma isEmpty_of_tripsWith {details : Attributes} (hk : kind.latch = .sticky)
    (h : m.tripsWith t device kind details) : details.isEmpty = true ↔ m.category ≠ .tamper := by
  obtain ⟨_, u, hu, _, rfl⟩ := h
  exact isEmpty_attributes_of_update? hk hu

/-- The updates that a message makes are the one that its rule makes, for its device. -/
lemma mem_updatesOf {u : DatedUpdate} (h : u ∈ m.updatesOf t device kind) :
    m.device = device ∧ m.update? t kind = some u.update := by
  unfold updatesOf at h
  split at h
  · rename_i hd
    obtain ⟨v, hv, rfl⟩ := List.mem_map.1 h
    exact ⟨hd, Option.mem_toList.1 hv⟩
  · cases h

end Message

/-- The first update of a sticky signal comes from the first message that updates sticky signals. -/
lemma find?_of_head?_flatMap {t : Thresholds} {device : String} {kind : SignalKind}
    (hk : kind.latch = .sticky) {ms : List Message} {first : DatedUpdate}
    (h : (ms.flatMap (·.updatesOf t device kind)).head? = some first) :
    ∃ m, ms.find? (·.updatesSticky device) = some m ∧ m.update? t kind = some first.update := by
  induction ms with
  | nil => cases h
  | cons m ms ih =>
    rw [List.flatMap_cons] at h
    cases hm : m.updatesSticky device with
    | true =>
      obtain ⟨hd, hsome⟩ := (Message.updatesSticky_iff (t := t) hk).1 hm
      obtain ⟨u, hu⟩ := Option.isSome_iff_exists.1 hsome
      have hupdates : m.updatesOf t device kind = [⟨u, m.time⟩] := by
        unfold Message.updatesOf
        rw [if_pos hd, hu]
        rfl
      rw [hupdates] at h
      obtain rfl : ⟨u, m.time⟩ = first := Option.some.inj h
      exact ⟨m, List.find?_cons_of_pos hm, hu⟩
    | false =>
      have hupdates : m.updatesOf t device kind = [] := by
        refine List.eq_nil_iff_forall_not_mem.2 fun u hu => ?_
        obtain ⟨hd, hu⟩ := Message.mem_updatesOf hu
        have hsticky : m.updatesSticky device = true :=
          (Message.updatesSticky_iff hk).2 ⟨hd, Option.isSome_of_eq_some hu⟩
        rw [hm] at hsticky
        cases hsticky
      rw [hupdates] at h
      obtain ⟨m', hm', hu⟩ := ih h
      exact ⟨m', by rw [List.find?_cons, hm]; exact hm', hu⟩

namespace Engine

variable {t : Thresholds} {root : String}

/-- Whose details a sticky signal shows: those of a message that tripped it and gave some, or those
of the message that created it, and then no message that tripped it gave any. -/
lemma details_of_get? {ms : List Message} {device : String} {kind : SignalKind} {s : Signal}
    (hk : kind.latch = .sticky) (h : ((fresh t root).after ms).store.get? device kind = some s) :
    (s.attributes.isEmpty = false ∧
      ∃ m ∈ sinceFirst device kind.owner ms, m.tripsWith t device kind s.attributes) ∨
    ((∀ m ∈ sinceFirst device kind.owner ms, ∀ details, m.tripsWith t device kind details →
        details.isEmpty = true) ∧
      ∃ first u, (sinceFirst device kind.owner ms).find? (·.updatesSticky device) = some first ∧
        first.update? t kind = some u ∧ s.attributes = u.attributes) := by
  obtain ⟨hd, _⟩ := isSome_get?_after_iff.1 (Option.isSome_of_eq_some h)
  rw [get?_after_fresh, history_batches, if_neg hd] at h
  obtain ⟨first, hfirst, hattributes⟩ := Signal.ofHistory?_details hk h
  cases hlast : lastDetails
      ((sinceFirst device kind.owner ms).flatMap (·.updatesOf t device kind)) with
  | some details =>
    rw [hlast, Option.getD_some] at hattributes
    subst hattributes
    obtain ⟨u, hu, ha, hdetails, hne⟩ := lastDetails_eq_some hlast
    obtain ⟨m, hm, hum⟩ := List.mem_flatMap.1 hu
    obtain ⟨hmd, hupdate⟩ := Message.mem_updatesOf hum
    exact .inl ⟨hne, m, hm, hmd, u.update, hupdate, ha, hdetails⟩
  | none =>
    rw [hlast, Option.getD_none] at hattributes
    obtain ⟨m, hfind, hupdate⟩ := find?_of_head?_flatMap hk hfirst
    refine .inr ⟨?_, m, first.update, hfind, hupdate, hattributes⟩
    rintro m hm details ⟨hmd, u, hu, ha, rfl⟩
    have hmem : ⟨u, m.time⟩ ∈ m.updatesOf t device kind := by
      unfold Message.updatesOf
      rw [if_pos hmd, hu]
      exact List.mem_singleton_self _
    exact isEmpty_of_lastDetails_eq_none hlast (List.mem_flatMap.2 ⟨m, hm, hmem⟩) ha

/-- What the aggregate shows is always attributed. -/
lemma attributed_anyTamper (ms : List Message) (device : String) :
    ((fresh t root).after ms).store.Attributed t ms device .anyTamper := by
  intro s hs _
  rcases details_of_get? rfl hs with ⟨_, m, hm, htrips⟩ | ⟨_, first, u, hfind, hu, hdetails⟩
  · exact .inr ⟨m, mem_of_mem_sinceFirst hm, htrips⟩
  · rw [hdetails]
    -- An event that created the aggregate also tripped it, as each event does.
    by_cases hc : first.category = .tamper
    · obtain ⟨o, _, ho⟩ := Option.bind_eq_some_iff.1 hu
      have hasserts : (some u).any (·.asserts) = true := by
        rw [← ho, Catalogue.any_asserts_update? t first.category rfl, hc]
        rfl
      have hmem : first ∈ sinceFirst device .health ms := List.mem_of_find?_eq_some hfind
      have hsticky : first.device = device ∧ (first.update? t .anyTamper).isSome = true :=
        (Message.updatesSticky_iff rfl).1 (List.find?_some hfind)
      exact .inr ⟨first, mem_of_mem_sinceFirst hmem, hsticky.1, u, hu, hasserts, rfl⟩
    · exact .inl ((Message.isEmpty_attributes_of_update? rfl hu).2 hc)

/-- A kind of tampering with borrowed details is not attributed. -/
lemma not_attributed_of_borrowed {ms : List Message} {device : String} {kind : TamperKind}
    (h : Borrowed t device kind ms) :
    ¬ ((fresh t root).after ms).store.Attributed t ms device (.tamper kind) := by
  intro hattributed
  obtain ⟨hd, hcreated, htripped, hno⟩ := h
  -- Only reports trip the signal, and they give no details.
  have hnone : ∀ m ∈ ms, ∀ details, m.tripsWith t device (.tamper kind) details →
      details.isEmpty = true := by
    intro m hm details htrips
    refine (Message.isEmpty_of_tripsWith rfl htrips).2 fun hc => hno ⟨m, hm, hc, ?_⟩
    exact (Message.trips_iff_tripsWith rfl).2 ⟨details, htrips⟩
  have htrippedOn : ((fresh t root).after ms).store.IsOn device (.tamper kind) :=
    (isOn_after_iff hd rfl).2 htripped
  obtain ⟨s, hs, hon⟩ := htrippedOn
  have hshown : s.attributes.isEmpty = false := by
    rcases details_of_get? rfl hs with ⟨hne, _⟩ | ⟨_, first, u, hfind, hu, hdetails⟩
    · exact hne
    · have hcategory : some first.category = some .tamper :=
        (congrArg (Option.map Message.category) hfind).symm.trans hcreated
      rw [hdetails, Bool.eq_false_iff, Ne, Message.isEmpty_attributes_of_update? rfl hu, not_not]
      exact Option.some.inj hcategory
  rcases hattributed s hs hon with hempty | ⟨m, hm, htrips⟩
  · rw [hempty] at hshown
    cases hshown
  · rw [hnone m hm _ htrips] at hshown
    cases hshown

/-- Details that no tripping message gave are borrowed. -/
lemma borrowed_of_not_attributed {ms : List Message} {device : String} {kind : TamperKind}
    {s : Signal} (hs : ((fresh t root).after ms).store.get? device (.tamper kind) = some s)
    (hon : s.value = .flag true) (hshown : s.attributes.isEmpty = false)
    (hnot : ¬ ∃ m ∈ ms, m.tripsWith t device (.tamper kind) s.attributes) :
    Borrowed t device kind ms := by
  obtain ⟨hd, _⟩ := isSome_get?_after_iff.1 (Option.isSome_of_eq_some hs)
  rcases details_of_get? rfl hs with ⟨_, m, hm, htrips⟩ | ⟨hnone, first, u, hfind, hu, hdetails⟩
  · exact absurd ⟨m, mem_of_mem_sinceFirst hm, htrips⟩ hnot
  · have hcategory : first.category = .tamper := by
      by_contra hc
      rw [hdetails, (Message.isEmpty_attributes_of_update? rfl hu).2 hc] at hshown
      cases hshown
    refine ⟨hd, ?_, (isOn_after_iff hd rfl).1 ⟨s, hs, hon⟩, ?_⟩
    · exact (congrArg (Option.map Message.category) hfind).trans (congrArg some hcategory)
    -- An event that trips the signal counts, and gives details.
    · rintro ⟨m, hm, hc, htrips⟩
      obtain ⟨details, hwith⟩ := (Message.trips_iff_tripsWith rfl).1 htrips
      have hof : m.isOf device .tamper = true := Message.isOf_iff.2 ⟨hwith.1, hc⟩
      have hempty : details.isEmpty = true :=
        hnone m (mem_sinceFirst_of_isOf hm hof) details hwith
      exact (Message.isEmpty_of_tripsWith rfl hwith).1 hempty hc

/-- Whose details a tripped signal shows. After every run from the fresh engine the aggregate of a
device, while it is on, shows no details or those of a message that tripped it. So does the signal
of a kind of tampering, except exactly if an event created it and then only reports tripped it: it
then shows the details of that event, which was of another kind. -/
theorem attributed_iff (t : Thresholds) (root : String) (ms : List Message) (device : String) :
    let store := ((fresh t root).after ms).store
    store.Attributed t ms device .anyTamper ∧
    ∀ kind, store.Attributed t ms device (.tamper kind) ↔ ¬ Borrowed t device kind ms := by
  intro store
  refine ⟨attributed_anyTamper ms device, fun kind => ⟨fun hattributed hborrowed => ?_, ?_⟩⟩
  · exact not_attributed_of_borrowed hborrowed hattributed
  · intro hnot s hs hon
    by_contra hboth
    rw [not_or, Bool.not_eq_true] at hboth
    exact hnot (borrowed_of_not_attributed hs hon hboth.1 hboth.2)

/-- A device is shaken, and a later report shows that its input pin was tampered with: the signal of
the pin shows the details of the shaking. -/
theorem not_attributed_report_after_event :
    let ms : List Message :=
      [⟨"canary-01", .tamper, "\x7b\"type\":\"motion\",\"detail\":\"shaken\"\x7d".toUTF8, 1⟩,
        ⟨"canary-01", .health, "\x7b\"tamper_gpio\":true\x7d".toUTF8, 2⟩]
    ¬ ((fresh .default "securacv").after ms).store.Attributed .default ms "canary-01"
      (.tamper .gpio) := by
  intro ms
  apply not_attributed_of_borrowed
  refine ⟨by decide, ?_, ?_, ?_⟩ <;> decide +kernel

end Engine

end TamperWatch
