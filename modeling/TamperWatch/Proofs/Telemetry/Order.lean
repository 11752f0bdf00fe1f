import TamperWatch.Proofs.Telemetry.Dominance
import TamperWatch.Proofs.Telemetry.WellFormed

/-!
# The order of deliveries

Deliveries without a scope, in another order and at other times. Attributes, dates and all signals
that are replaced by each reading show what came last. A sticky signal does not: it is stored if
some delivery says anything of it, and on if some delivery trips it (`Store.value?_deliverAll`), and
both are about what was delivered, not about when. Main statement: `Store.latched_perm`.
-/

namespace TamperWatch

namespace Delivery

/-- The delivery apart from its time. -/
def undated (d : Delivery) : Delivery :=
  { d with time := 0 }

/-- The delivery is of the device and says something of the signal. -/
def mentions (t : Thresholds) (device : String) (kind : SignalKind) (d : Delivery) : Bool :=
  d.device == device && (d.update? t kind).isSome

/-- A delivery makes no update to a signal that it does not mention. -/
lemma updatesOf_eq_nil_iff {t : Thresholds} {device : String} {kind : SignalKind} {d : Delivery} :
    d.updatesOf t device kind = [] ↔ d.mentions t device kind = false := by
  unfold updatesOf mentions
  by_cases hd : d.device = device
  · cases d.update? t kind <;> simp [hd]
  · simp [hd]

/-- Whether a delivery mentions or trips a signal is not a matter of its time. -/
lemma any_undated {p : Delivery → Bool} (hp : ∀ d, p d.undated = p d) (ds : List Delivery) :
    (ds.map undated).any p = ds.any p := by
  rw [List.any_map]
  congr 1
  funext d
  exact hp d

end Delivery

/-- A sticky signal is a flag. -/
lemma Signal.WellFormed.exists_flag {device : String} {kind : SignalKind} {s : Signal}
    (h : s.WellFormed device kind) (hk : kind.latch = .sticky) : ∃ b, s.value = .flag b := by
  have hflag : kind.form = .flag := by
    cases kind with
    | anyTamper => rfl
    | tamper kind => rfl
    | _ => cases hk
  have hform : s.value.HasForm .flag := hflag ▸ h.hasForm
  generalize s.value = value at hform
  cases hform with
  | flag b => exact ⟨b, rfl⟩

namespace Store

/-- The value of a signal, if it is stored. -/
def value? (store : Store) (device : String) (kind : SignalKind) : Option SignalValue :=
  (store.get? device kind).map (·.value)

/-- A store after deliveries is well-formed. -/
lemma wellFormed_deliverAll (t : Thresholds) (ds : List Delivery) :
    ((∅ : Store).deliverAll t ds).WellFormed := by
  have hscoped : (∅ : Store).deliverScoped t (ds.map (Prod.mk .unlimited)) =
      (∅ : Store).deliverAll t ds := List.foldl_map
  rw [← hscoped]
  exact wellFormed_empty.deliverScoped t _

variable {t : Thresholds} {ds : List Delivery} {device : String} {kind : SignalKind}

/-- A signal is not stored exactly if no delivery mentions it. -/
lemma get?_deliverAll_eq_none_iff :
    ((∅ : Store).deliverAll t ds).get? device kind = none ↔
      ds.any (Delivery.mentions t device kind) = false := by
  rw [get?_deliverAll, Signal.ofHistory?_eq_none_iff, List.flatMap_eq_nil_iff, List.any_eq_false]
  simp only [Delivery.updatesOf_eq_nil_iff, Bool.not_eq_true]

/-- The value of a sticky signal after deliveries without a scope, from what was delivered alone. -/
lemma value?_deliverAll (hk : kind.latch = .sticky) :
    ((∅ : Store).deliverAll t ds).value? device kind =
      if ds.any (Delivery.mentions t device kind) then
        some (.flag (ds.any (Delivery.trips t device kind)))
      else none := by
  unfold value?
  cases hs : ((∅ : Store).deliverAll t ds).get? device kind with
  | none =>
    rw [get?_deliverAll_eq_none_iff.1 hs]
    rfl
  | some s =>
    have hmentioned : ds.any (Delivery.mentions t device kind) = true := by
      by_contra hnot
      rw [Bool.not_eq_true, ← get?_deliverAll_eq_none_iff, hs] at hnot
      cases hnot
    obtain ⟨b, hb⟩ := (wellFormed_deliverAll t ds device kind s hs).exists_flag hk
    have hon : b = true ↔ ds.any (Delivery.trips t device kind) = true := by
      have hison : ((∅ : Store).deliverAll t ds).IsOn device kind ↔ s.value = .flag true := by
        unfold IsOn
        rw [hs]
        simp
      rw [List.any_eq_true, ← isOn_deliverAll_iff hk, hison, hb]
      simp
    rw [hmentioned, if_pos rfl, Option.map_some, hb, Bool.eq_iff_iff.2 hon]

/-- What is latched does not depend on the order of the messages. If two lists of deliveries to the
empty store are the same apart from their order and times, then afterwards each device has the same
sticky signals, with the same values: those of which some delivery says anything, each on if some
delivery trips it. -/
theorem latched_perm (t : Thresholds) {ds ds' : List Delivery}
    (h : (ds.map (·.undated)).Perm (ds'.map (·.undated))) (device : String) {kind : SignalKind}
    (hk : kind.latch = .sticky) :
    ((∅ : Store).deliverAll t ds).value? device kind =
      ((∅ : Store).deliverAll t ds').value? device kind ∧
    ((∅ : Store).deliverAll t ds).value? device kind =
      if ds.any (Delivery.mentions t device kind) then
        some (.flag (ds.any (Delivery.trips t device kind)))
      else none := by
  have hany : ∀ p : Delivery → Bool, (∀ d, p d.undated = p d) → ds.any p = ds'.any p := by
    intro p hp
    rw [← Delivery.any_undated hp ds, ← Delivery.any_undated hp ds']
    exact h.any_eq
  have hmentions : ds.any (Delivery.mentions t device kind) =
      ds'.any (Delivery.mentions t device kind) := hany _ fun _ => rfl
  have htrips : ds.any (Delivery.trips t device kind) =
      ds'.any (Delivery.trips t device kind) := hany _ fun _ => rfl
  refine ⟨?_, value?_deliverAll hk⟩
  rw [value?_deliverAll hk, value?_deliverAll hk, hmentions, htrips]

/-- An event, a clean report and bytes that cannot be decoded, and the same the other way round at
other times. -/
theorem latched_perm_event_and_report :
    let event := "\x7b\"type\":\"gpio\",\"detail\":\"pin 4\"\x7d".toUTF8
    let report := "\x7b\"battery\":90\x7d".toUTF8
    let ds : List Delivery :=
      [⟨"canary-01", .tamper, .raw event, 1⟩, ⟨"canary-01", .health, .raw report, 2⟩,
        ⟨"canary-01", .health, .raw "?".toUTF8, 3⟩]
    let ds' : List Delivery :=
      [⟨"canary-01", .health, .raw "?".toUTF8, 40⟩, ⟨"canary-01", .health, .raw report, 50⟩,
        ⟨"canary-01", .tamper, .raw event, 6⟩]
    let after := (∅ : Store).deliverAll .default
    (after ds).value? "canary-01" .anyTamper = some (.flag true) ∧
      (after ds').value? "canary-01" .anyTamper = some (.flag true) ∧
      (after ds').value? "canary-01" (.tamper .motion) = some (.flag false) := by
  intro event report ds ds' after
  have hperm : (ds.map (·.undated)).Perm (ds'.map (·.undated)) := (List.reverse_perm _).symm
  obtain ⟨hany, _⟩ := @latched_perm .default ds ds' hperm "canary-01" .anyTamper rfl
  obtain ⟨hmotion, _⟩ := @latched_perm .default ds ds' hperm "canary-01" (.tamper .motion) rfl
  have hon : (after ds).value? "canary-01" .anyTamper = some (.flag true) := by decide +kernel
  have hoff : (after ds).value? "canary-01" (.tamper .motion) = some (.flag false) := by
    decide +kernel
  exact ⟨hon, hany.symm.trans hon, hmotion.symm.trans hoff⟩

end Store

end TamperWatch
