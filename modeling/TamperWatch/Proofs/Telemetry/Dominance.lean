import TamperWatch.Proofs.Telemetry.Latch

/-!
# The aggregate without scopes

Deliveries one after the other, each without a scope. Every signal is then the closed form of what
all deliveries say of it (`Store.get?_deliverAll`), so a sticky signal is on exactly if some
delivery tripped it, and the last one dates it. What trips a kind of tampering trips the aggregate,
and so the aggregate cannot fall behind as it can in the engine. Main statement:
`Store.aggregate_dominates`.
-/

namespace TamperWatch

/-- In a list by ascending times, the last member with a property is no later than the last one with
a weaker property. -/
lemma exists_find?_reverse_of_imp {α : Type} {p q : α → Bool} {time : α → Moment} {as : List α}
    {a : α} (hpq : ∀ a, p a = true → q a = true) (has : (as.map time).Pairwise (· ≤ ·))
    (ha : as.reverse.find? p = some a) :
    ∃ b, as.reverse.find? q = some b ∧ time a ≤ time b := by
  induction as using List.reverseRecOn with
  | nil => cases ha
  | append_singleton as x ih =>
    rw [List.map_append, List.pairwise_append] at has
    obtain ⟨hpre, _, hx⟩ := has
    rw [List.reverse_append, List.reverse_singleton, List.singleton_append, List.find?_cons] at ha ⊢
    cases hp : p x with
    | true =>
      -- The last member has the stronger property, so it is the last of both.
      rw [hp] at ha
      obtain rfl : x = a := Option.some.inj ha
      rw [hpq x hp]
      exact ⟨x, rfl, Nat.le_refl _⟩
    | false =>
      rw [hp] at ha
      cases hq : q x with
      | true =>
        have hmem : a ∈ as := List.mem_reverse.1 (List.mem_of_find?_eq_some ha)
        exact ⟨x, rfl, hx _ (List.mem_map_of_mem hmem) _ (by simp)⟩
      | false => exact ih hpre ha

namespace Store

/-- The store after deliveries without a scope. -/
def deliverAll (store : Store) (t : Thresholds) (ds : List Delivery) : Store :=
  ds.foldl (fun store d => (store.deliver t .unlimited d).2) store

/-- Deliveries without a scope make their calls to the store one after the other. -/
lemma deliverAll_eq (store : Store) (t : Thresholds) (ds : List Delivery) :
    store.deliverAll t ds =
      store.recordAll (ds.flatMap fun d => (d.batch? t .unlimited).toList) := by
  induction ds generalizing store with
  | nil => rfl
  | cons d ds ih =>
    rw [deliverAll, List.foldl_cons, ← deliverAll, ih, deliver_eq, List.flatMap_cons,
      recordAll_append]

/-- The history of a signal under deliveries is the updates that they make to it. -/
lemma history_deliverAll (t : Thresholds) (ds : List Delivery) (device : String)
    (kind : SignalKind) :
    history (ds.flatMap fun d => (d.batch? t .unlimited).toList) device kind =
      ds.flatMap (·.updatesOf t device kind) := by
  induction ds with
  | nil => rfl
  | cons d ds ih =>
    rw [List.flatMap_cons, history_append, ih, Delivery.history_batch?]
    rfl

/-- A signal after deliveries is what its updates make of it. -/
lemma get?_deliverAll (t : Thresholds) (ds : List Delivery) (device : String)
    (kind : SignalKind) :
    ((∅ : Store).deliverAll t ds).get? device kind =
      Signal.ofHistory? device kind (ds.flatMap (·.updatesOf t device kind)) := by
  rw [deliverAll_eq, get?_recordAll_empty, history_deliverAll]

variable {t : Thresholds} {ds : List Delivery} {device : String} {kind : SignalKind}

/-- A sticky signal is on after deliveries exactly if one of them trips it. -/
lemma isOn_deliverAll_iff (hk : kind.latch = .sticky) :
    ((∅ : Store).deliverAll t ds).IsOn device kind ↔ ∃ d ∈ ds, d.trips t device kind = true := by
  rw [deliverAll_eq, isOn_recordAll_iff hk, history_deliverAll,
    ← Option.isSome_map (f := DatedUpdate.time), Delivery.lastAssertion_flatMap t device hk,
    Option.isSome_map]
  simp

/-- A sticky signal is dated by the last delivery that trips it. -/
lemma lastTriggered_deliverAll {s : Signal} (hk : kind.latch = .sticky)
    (hs : ((∅ : Store).deliverAll t ds).get? device kind = some s) :
    s.lastTriggered = (ds.reverse.find? (Delivery.trips t device kind)).map (·.time) := by
  rw [get?_deliverAll] at hs
  exact (Signal.ofHistory?_sticky hk hs).2.trans (Delivery.lastAssertion_flatMap t device hk ds)

/-- Without scopes the aggregate dominates its sources. After any deliveries to the empty store the
aggregate of a device is stored and on if the signal of some kind of tampering is on; and if the
deliveries came by ascending times, it was last triggered no earlier. -/
theorem aggregate_dominates (t : Thresholds) (ds : List Delivery) (device : String) :
    let store := (∅ : Store).deliverAll t ds
    (∀ kind, store.IsOn device (.tamper kind) → store.IsOn device .anyTamper) ∧
    ((ds.map (·.time)).Pairwise (· ≤ ·) →
      ∀ kind s, store.get? device (.tamper kind) = some s → s.value = .flag true →
        ∃ a source aggregate, store.get? device .anyTamper = some a ∧ a.value = .flag true ∧
          s.lastTriggered = some source ∧ a.lastTriggered = some aggregate ∧
          source ≤ aggregate) := by
  intro store
  have hon : ∀ kind, store.IsOn device (.tamper kind) → store.IsOn device .anyTamper := by
    intro kind hkind
    obtain ⟨d, hd, htrips⟩ := (isOn_deliverAll_iff rfl).1 hkind
    exact (isOn_deliverAll_iff rfl).2 ⟨d, hd, Delivery.trips_anyTamper htrips⟩
  refine ⟨hon, fun hsorted kind s hs hflag => ?_⟩
  obtain ⟨a, ha, hany⟩ := hon kind ⟨s, hs, hflag⟩
  obtain ⟨d, hd, htrips⟩ := (isOn_deliverAll_iff rfl).1 ⟨s, hs, hflag⟩
  obtain ⟨first, hfirst⟩ :
      ∃ d, ds.reverse.find? (Delivery.trips t device (.tamper kind)) = some d :=
    Option.isSome_iff_exists.1 (List.find?_isSome.2 ⟨d, List.mem_reverse.2 hd, htrips⟩)
  obtain ⟨last, hlast, hle⟩ :=
    exists_find?_reverse_of_imp (fun _ => Delivery.trips_anyTamper) hsorted hfirst
  refine ⟨a, first.time, last.time, ha, hany, ?_, ?_, hle⟩
  · rw [lastTriggered_deliverAll rfl hs, hfirst]
    rfl
  · rw [lastTriggered_deliverAll rfl ha, hlast]
    rfl

/-- An event of one kind, and a later report of tampering without a kind. -/
theorem aggregate_dominates_report_after_event :
    let ds : List Delivery :=
      [⟨"canary-01", .tamper, .decoded (.structured [("type", .string "gpio")]), 1⟩,
        ⟨"canary-01", .health, .raw "\x7b\"tamper\":true\x7d".toUTF8, 4⟩]
    let store := (∅ : Store).deliverAll .default ds
    ∃ s a, store.get? "canary-01" (.tamper .gpio) = some s ∧ s.lastTriggered = some 1 ∧
      store.get? "canary-01" .anyTamper = some a ∧ a.value = .flag true ∧
      a.lastTriggered = some 4 := by
  intro ds store
  have hgpio : (store.get? "canary-01" (.tamper .gpio)).map (fun s => (s.value, s.lastTriggered)) =
      some (.flag true, some 1) := by decide +kernel
  have hany : (store.get? "canary-01" .anyTamper).map (·.lastTriggered) = some (some 4) := by
    decide +kernel
  obtain ⟨s, hs, hvalue⟩ := Option.map_eq_some_iff.1 hgpio
  obtain ⟨hflag, htime⟩ := Prod.mk.inj hvalue
  obtain ⟨_, hlater⟩ := aggregate_dominates .default ds "canary-01"
  obtain ⟨a, _, _, ha, hon, _⟩ := hlater (by decide) .gpio s hs hflag
  rw [ha] at hany
  exact ⟨s, a, hs, htime, ha, hon, Option.some.inj hany⟩

end Store

end TamperWatch
