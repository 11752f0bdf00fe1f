import TamperWatch.Proofs.Telemetry.Run

/-!
# Discovery before signals

The first accepted message of a pair announces the signals that the pair's category owns, and no
signal is stored or reported before it was announced. The invariant that ties outcomes, known pairs
and stored signals together is that each of three things says the same of a device and a category:
some accepted message was of that pair (`Engine.sighted_outcomes_iff`), the pair is known, and the
signals that the category owns have been announced (`Engine.announced_outcomes_iff`). A signal that
is stored has a known owner (`Engine.knows_of_get?`). Main statement:
`Engine.announced_once_before_stored`.
-/

namespace TamperWatch

/-- Some accepted message was of the pair. -/
def Sighted (outcomes : List (Except RoutingError Dispatch)) (device : String)
    (category : Category) : Prop :=
  ∃ d, .ok d ∈ outcomes ∧ d.device = device ∧ d.category = category

/-- Some accepted message of the device announced the signal. -/
def Announced (outcomes : List (Except RoutingError Dispatch)) (device : String)
    (kind : SignalKind) : Prop :=
  ∃ d, .ok d ∈ outcomes ∧ d.device = device ∧ kind ∈ d.monitors

/-- Some outcome with one more has a property exactly if one before it has, or it has. -/
lemma exists_ok_concat {outcomes r} {p : Dispatch → Prop} :
    (∃ d, .ok d ∈ outcomes ++ [r] ∧ p d) ↔
      (∃ d, (.ok d : Except RoutingError Dispatch) ∈ outcomes ∧ p d) ∨ ∃ d, r = .ok d ∧ p d := by
  constructor
  · rintro ⟨d, hd, h⟩
    rcases List.mem_append.1 hd with hd | hd
    · exact .inl ⟨d, hd, h⟩
    · exact .inr ⟨d, (List.mem_singleton.1 hd).symm, h⟩
  · rintro (⟨d, hd, h⟩ | ⟨d, rfl, h⟩)
    · exact ⟨d, List.mem_append_left _ hd, h⟩
    · exact ⟨d, by simp, h⟩

/-- A pair is sighted with one more outcome exactly if it was before, or by that outcome. -/
lemma sighted_concat {outcomes r device category} :
    Sighted (outcomes ++ [r]) device category ↔
      Sighted outcomes device category ∨
        ∃ d, r = .ok d ∧ d.device = device ∧ d.category = category :=
  exists_ok_concat

/-- A signal is announced with one more outcome exactly if it was before, or by that outcome. -/
lemma announced_concat {outcomes r device kind} :
    Announced (outcomes ++ [r]) device kind ↔
      Announced outcomes device kind ∨
        ∃ d, r = .ok d ∧ d.device = device ∧ kind ∈ d.monitors :=
  exists_ok_concat

namespace Engine

variable {t : Thresholds} {root : String}

/-- An accepted message has a device, and announces what its category owns if the pair is new. -/
lemma dispatch_of_handle {e : Engine} {m : Message} {d : Dispatch} (h : (e.handle m).1 = .ok d) :
    m.device ≠ "" ∧ d.device = m.device ∧ d.category = m.category ∧
      d.firstSighting = !e.seen.knows m.device m.category ∧
      d.monitors =
        if e.seen.knows m.device m.category then [] else SignalKind.ownedBy m.category := by
  by_cases hne : m.device = ""
  · rw [handle_of_empty hne] at h
    cases h
  · rw [handle_eq hne] at h
    cases h
    exact ⟨hne, rfl, rfl, rfl, rfl⟩

/-- A signal that is reported is stored. -/
lemma get?_of_reported {e : Engine} {m : Message} {d : Dispatch} {s : Signal}
    (h : (e.handle m).1 = .ok d) (hs : s ∈ d.classification.signals) :
    ∃ kind, (e.handle m).2.store.get? d.device kind = some s := by
  have hne : m.device ≠ "" := (dispatch_of_handle h).1
  rw [store_handle]
  rw [handle_eq hne] at h
  cases h
  obtain ⟨kind, _, hget⟩ := List.mem_filterMap.1 hs
  exact ⟨kind, hget⟩

/-- A message of a device is accepted as of a pair exactly if it is of that pair. -/
lemma exists_dispatch_iff {e : Engine} {m : Message} {device : String} {category : Category} :
    (∃ d, (e.handle m).1 = .ok d ∧ d.device = device ∧ d.category = category) ↔
      device ≠ "" ∧ m.device = device ∧ m.category = category := by
  constructor
  · rintro ⟨d, hd, rfl, rfl⟩
    obtain ⟨hne, hdev, hcat, _⟩ := dispatch_of_handle hd
    exact ⟨hdev ▸ hne, hdev.symm, hcat.symm⟩
  · rintro ⟨hne, rfl, rfl⟩
    exact ⟨_, congrArg Prod.fst (handle_eq hne), rfl, rfl⟩

/-- A pair was sighted in a run exactly if it is known after it. -/
lemma sighted_outcomes_iff {ms : List Message} {device : String} {category : Category} :
    Sighted ((fresh t root).outcomes ms) device category ↔
      ((fresh t root).after ms).seen.knows device category = true := by
  induction ms using List.reverseRecOn with
  | nil => simp [Sighted, fresh]
  | append_singleton ms m ih =>
    rw [outcomes_concat, after_concat, sighted_concat, ih, knows_handle, exists_dispatch_iff]
    exact or_comm

/-- A signal is announced in a run exactly if its owner was sighted. -/
lemma announced_outcomes_iff {ms : List Message} {device : String} {kind : SignalKind} :
    Announced ((fresh t root).outcomes ms) device kind ↔
      Sighted ((fresh t root).outcomes ms) device kind.owner := by
  induction ms using List.reverseRecOn with
  | nil => simp [Sighted, Announced]
  | append_singleton ms m ih =>
    rw [outcomes_concat, announced_concat, sighted_concat, ih]
    constructor
    · rintro (h | ⟨d, hd, hdev, hk⟩)
      · exact .inl h
      · obtain ⟨_, _, hcat, _, hmon⟩ := dispatch_of_handle hd
        rw [hmon] at hk
        split at hk
        · cases hk
        · exact .inr ⟨d, hd, hdev, hcat.trans (SignalKind.mem_ownedBy_iff.1 hk).symm⟩
    · rintro (h | ⟨d, hd, hdev, hcat⟩)
      · exact .inl h
      · obtain ⟨_, hdev', hcat', _, hmon⟩ := dispatch_of_handle hd
        by_cases hknown : ((fresh t root).after ms).seen.knows m.device m.category = true
        -- The pair was sighted before, and its first message announced the signal.
        · rw [← hdev', ← hcat', hdev, hcat] at hknown
          exact .inl (sighted_outcomes_iff.2 hknown)
        · refine .inr ⟨d, hd, hdev, ?_⟩
          rw [hmon, if_neg hknown]
          exact SignalKind.mem_ownedBy_iff.2 (hcat.symm.trans hcat')

/-- A stored signal stands under its own device and kind, and its owner is known. -/
lemma knows_of_get? {ms : List Message} {device : String} {kind : SignalKind} {s : Signal}
    (h : ((fresh t root).after ms).store.get? device kind = some s) :
    s.kind = kind ∧ ((fresh t root).after ms).seen.knows device kind.owner = true := by
  rw [get?_after_fresh] at h
  refine ⟨(Signal.ofHistory?_keyed h).2, knows_of_history fun hnil => ?_⟩
  rw [Signal.ofHistory?_eq_none_iff.2 hnil] at h
  cases h

/-- A signal that is stored after a run was announced in it, and its owner is known. -/
lemma announced_of_get? {ms : List Message} {device : String} {kind : SignalKind} {s : Signal}
    (h : ((fresh t root).after ms).store.get? device kind = some s) :
    Announced ((fresh t root).outcomes ms) device s.kind ∧
      ((fresh t root).after ms).seen.knows device s.kind.owner = true := by
  obtain ⟨rfl, hknows⟩ := knows_of_get? h
  exact ⟨announced_outcomes_iff.2 (sighted_outcomes_iff.2 hknows), hknows⟩

/-- The outcome at a position is that of the message there, after those before it. -/
lemma handle_of_outcome {ms : List Message} {i : Nat} {d : Dispatch}
    (h : ((fresh t root).outcomes ms)[i]? = some (.ok d)) :
    ∃ m, ms[i]? = some m ∧ (((fresh t root).after (ms.take i)).handle m).1 = .ok d := by
  rw [getElem?_outcomes] at h
  exact Option.map_eq_some_iff.1 h

/-- The engine after one more message of a run is the one that handled it. -/
lemma after_take_succ {ms : List Message} {i : Nat} {m : Message} (h : ms[i]? = some m) :
    (fresh t root).after (ms.take (i + 1)) = (((fresh t root).after (ms.take i)).handle m).2 := by
  rw [List.take_add_one, h]
  exact after_concat _ _ _

/-- An accepted message is a first sighting if none of its pair was accepted before it, and it
announces what the category owns exactly then. -/
lemma monitors_of_outcome {ms : List Message} {i : Nat} {d : Dispatch}
    (h : ((fresh t root).outcomes ms)[i]? = some (.ok d)) :
    (d.firstSighting = true ↔
        ¬ Sighted (((fresh t root).outcomes ms).take i) d.device d.category) ∧
      d.monitors = if d.firstSighting then SignalKind.ownedBy d.category else [] := by
  obtain ⟨m, _, hd⟩ := handle_of_outcome h
  obtain ⟨_, hdev, hcat, hfirst, hmon⟩ := dispatch_of_handle hd
  rw [take_outcomes, sighted_outcomes_iff, hdev, hcat, hfirst, hmon]
  cases ((fresh t root).after (ms.take i)).seen.knows m.device m.category <;> simp

/-- A message that announces a signal is a first sighting under the signal's owner. -/
lemma firstSighting_of_announces {ms : List Message} {i : Nat} {d : Dispatch} {kind : SignalKind}
    (h : ((fresh t root).outcomes ms)[i]? = some (.ok d)) (hk : kind ∈ d.monitors) :
    d.firstSighting = true ∧ d.category = kind.owner := by
  rw [(monitors_of_outcome h).2] at hk
  cases hfirst : d.firstSighting with
  | false =>
    rw [hfirst] at hk
    cases hk
  | true =>
    rw [hfirst] at hk
    exact ⟨rfl, (SignalKind.mem_ownedBy_iff.1 hk).symm⟩

/-- A signal that one message of a run announces is announced by no later one. -/
lemma not_announced_later {ms : List Message} {i j : Nat} {d d' : Dispatch} {kind : SignalKind}
    (hi : ((fresh t root).outcomes ms)[i]? = some (.ok d))
    (hj : ((fresh t root).outcomes ms)[j]? = some (.ok d'))
    (hdev : d.device = d'.device) (hk : kind ∈ d.monitors) (hk' : kind ∈ d'.monitors) : j ≤ i := by
  by_contra hlt
  have hmem : .ok d ∈ ((fresh t root).outcomes ms).take j := by
    apply List.mem_of_getElem? (i := i)
    rw [List.getElem?_take_of_lt (Nat.lt_of_not_le hlt), hi]
  obtain ⟨_, hcat⟩ := firstSighting_of_announces hi hk
  obtain ⟨hfirst', hcat'⟩ := firstSighting_of_announces hj hk'
  exact (monitors_of_outcome hj).1.1 hfirst' ⟨d, hmem, hdev, hcat.trans hcat'.symm⟩

/-- Discovery comes before signals. In every run from the fresh engine, each message of a device is
accepted under its own pair; exactly the first one of a pair announces, and it announces what the
category owns; no signal of a device is announced twice; and after each message every signal that is
stored, and every signal that the message reports, has been announced by then and its owner's pair
is known. -/
theorem announced_once_before_stored (t : Thresholds) (root : String) (ms : List Message) :
    let outcomes := (fresh t root).outcomes ms
    let state := fun i => (fresh t root).after (ms.take (i + 1))
    (∀ (i : Nat) m, ms[i]? = some m →
      if m.device = "" then outcomes[i]? = some (.error .emptyDevice)
      else ∃ d, outcomes[i]? = some (.ok d) ∧ d.device = m.device ∧ d.category = m.category) ∧
    (∀ (i : Nat) d, outcomes[i]? = some (.ok d) →
      (d.firstSighting = true ↔ ¬ Sighted (outcomes.take i) d.device d.category) ∧
        d.monitors = if d.firstSighting then SignalKind.ownedBy d.category else []) ∧
    (∀ (i j : Nat) d d' kind, outcomes[i]? = some (.ok d) → outcomes[j]? = some (.ok d') →
      d.device = d'.device → kind ∈ d.monitors → kind ∈ d'.monitors → i = j) ∧
    (∀ i < ms.length, ∀ device, ∀ s ∈ (state i).store.snapshot device,
      Announced (outcomes.take (i + 1)) device s.kind ∧
        (state i).seen.knows device s.kind.owner = true) ∧
    (∀ (i : Nat) d, outcomes[i]? = some (.ok d) → ∀ s ∈ d.classification.signals,
      Announced (outcomes.take (i + 1)) d.device s.kind ∧
        (state i).seen.knows d.device s.kind.owner = true) := by
  intro outcomes state
  refine ⟨fun i m hm => ?_, fun i d hd => ?_, ?_, fun i _ device s hs => ?_, fun i d hd s hs => ?_⟩
  -- A message is rejected exactly if its device has no name.
  · have ho : outcomes[i]? = some (((fresh t root).after (ms.take i)).handle m).1 := by
      rw [getElem?_outcomes, hm]
      rfl
    split
    · rename_i hempty
      rw [ho, handle_of_empty hempty]
    · rename_i hne
      rw [ho, handle_eq hne]
      exact ⟨_, rfl, rfl, rfl⟩
  · exact monitors_of_outcome hd
  · intro i j d d' kind hi hj hdev hk hk'
    exact Nat.le_antisymm (not_announced_later hj hi hdev.symm hk' hk)
      (not_announced_later hi hj hdev hk hk')
  -- What is stored was announced, since its owner is known.
  · obtain ⟨kind, hget⟩ := Store.mem_snapshot_iff.1 hs
    rw [take_outcomes]
    exact announced_of_get? hget
  -- What is reported is stored.
  · obtain ⟨m, hm, hhandle⟩ := handle_of_outcome hd
    obtain ⟨kind, hget⟩ := get?_of_reported hhandle hs
    rw [← after_take_succ hm] at hget
    rw [take_outcomes]
    exact announced_of_get? hget

end Engine

end TamperWatch
