import TamperWatch.Proofs.Telemetry.Commutation

/-!
# Scoped and unscoped classification

A scope hides signals and does nothing else. Inside of it a delivery writes and reports what it does
without a scope, and outside of it nothing changes (`Store.get?_deliver_unlimited`). A scope that
takes in all that a category may write is as good as none (`Store.deliver_eq_unlimited`), and the
engine is in that position with health reports and tamper events once it has seen the device under
both. Main statement: `Store.classify_eq_filter_unlimited`.
-/

namespace TamperWatch

namespace Store

/-- A delivery writes a signal in scope as it does without a scope, and leaves any other. -/
lemma get?_deliver_unlimited (store : Store) (t : Thresholds) (scope : Scope) (d : Delivery)
    (device : String) (kind : SignalKind) :
    (store.deliver t scope d).2.get? device kind =
      if scope kind then (store.deliver t .unlimited d).2.get? device kind
      else store.get? device kind := by
  rw [get?_deliver, get?_deliver]
  rfl

/-- Signals that stand under their own kinds are selected by kind or by what they say of it. -/
lemma select_filter {store store' : Store} {device : String} {scope : Scope}
    (hsame : ∀ kind, scope kind = true → store.get? device kind = store'.get? device kind)
    (hkeyed : ∀ kind s, store'.get? device kind = some s → s.kind = kind)
    (kinds : List SignalKind) :
    store.select device (kinds.filter scope) =
      (store'.select device kinds).filter fun s => scope s.kind := by
  unfold select DeviceSignals.select
  rw [List.filterMap_filter, List.filter_filterMap]
  apply List.filterMap_congr
  intro kind _
  show (if scope kind = true then store.get? device kind else none) =
    (store'.get? device kind).filter fun s => scope s.kind
  cases hs : store'.get? device kind with
  | none =>
    split
    · rename_i hscope
      exact (hsame kind hscope).trans hs
    · rfl
  | some s =>
    rw [Option.filter_some, hkeyed kind s hs]
    split
    · rename_i hscope
      exact (hsame kind hscope).trans hs
    · rfl

/-- A scope that has all that the category affects makes no difference. -/
lemma deliver_eq_unlimited {store : Store} {t : Thresholds} {scope : Scope} {d : Delivery}
    (h : ∀ kind ∈ Catalogue.affected t d.category, scope kind = true) :
    store.deliver t scope d = store.deliver t .unlimited d := by
  have hkinds : scopedKinds t scope d.category = scopedKinds t .unlimited d.category :=
    List.filter_congr h
  have hbatch : d.batch? t scope = d.batch? t .unlimited := by
    unfold Delivery.batch?
    congr 1
    funext o
    congr 1
    exact List.filter_congr fun u hu => h u.kind (Catalogue.kind_mem_affected hu)
  rw [deliver_eq, deliver_eq, hkinds, hbatch]

end Store

namespace Engine

/-- Health reports and tamper events write nothing but what is announced for these two. -/
lemma scopeOf_of_mem_affected {e : Engine} {m : Message} {kind : SignalKind} (hm : m.device ≠ "")
    (hhealth : e.seen.knows m.device .health = true)
    (htamper : e.seen.knows m.device .tamper = true)
    (hc : m.category = .health ∨ m.category = .tamper)
    (hk : kind ∈ Catalogue.affected e.thresholds m.category) : e.scopeOf m kind = true := by
  have howner : kind.owner = .health ∨ kind.owner = .tamper := by
    rcases Catalogue.owner_of_mem_affected hk with ho | ⟨_, ho⟩ | ⟨_, ho⟩
    · rw [ho]
      exact hc
    · exact .inr ho
    · exact .inl ho
  rw [scopeOf_eq hm, knows_handle]
  rcases howner with ho | ho
  · rw [ho]
    exact .inr hhealth
  · rw [ho]
    exact .inr htamper

end Engine

namespace Store

/-- A scope is a filter. From every store that calls can lead to, a classification in a scope is
applied or not as it is without one, and reports of the unscoped report what is in scope. Afterwards
the signals in scope are those of the unscoped classification, and all others are as they were
before. So the engine, once it has seen a device under both health reports and tamper events,
classifies the device's messages of these two as without a scope. -/
theorem classify_eq_filter_unlimited (t : Thresholds) (scope : Scope) (batches : List Batch)
    (device : String) (category : Category) (raw : ByteArray) (now : Moment) :
    let store := (∅ : Store).recordAll batches
    let limited := store.classify t scope device category raw now
    let full := store.classify t .unlimited device category raw now
    limited.1.applied = full.1.applied ∧
    limited.1.signals = full.1.signals.filter (fun s => scope s.kind) ∧
    (∀ other kind, scope kind = true → limited.2.get? other kind = full.2.get? other kind) ∧
    (∀ other kind, scope kind = false → limited.2.get? other kind = store.get? other kind) ∧
    (∀ e : Engine, device ≠ "" → e.seen.knows device .health = true →
      e.seen.knows device .tamper = true → category = .health ∨ category = .tamper →
      let unscoped := e.store.classify e.thresholds .unlimited device category raw now
      ∃ result, e.handle ⟨device, category, raw, now⟩ =
          (.ok result, { e with seen := e.seen.register device category, store := unscoped.2 }) ∧
        result.classification = unscoped.1) := by
  intro store limited full
  let d : Delivery := ⟨device, category, .raw raw, now⟩
  have hlimited : limited = store.deliver t scope d := rfl
  have hfull : full = store.deliver t .unlimited d := rfl
  have hget : ∀ other kind, limited.2.get? other kind =
      if scope kind then full.2.get? other kind else store.get? other kind :=
    store.get?_deliver_unlimited t scope d
  have hin : ∀ other kind, scope kind = true →
      limited.2.get? other kind = full.2.get? other kind :=
    fun other kind hscope => (hget other kind).trans (if_pos hscope)
  refine ⟨?_, ?_, hin, fun other kind hscope => ?_, ?_⟩
  · rw [hlimited, hfull, deliver_eq, deliver_eq]
  -- Signals are reported by the kind they are stored under, and filtered by the kind they name.
  · have hkeyed : ∀ kind s, full.2.get? device kind = some s → s.kind = kind := by
      intro kind s hs
      rw [hfull, deliver_eq, ← recordAll_append] at hs
      exact (keyed_of_get?_recordAll hs).2
    have hsignals : full.1.signals = full.2.select device (Catalogue.affected t category) := by
      rw [hfull, deliver_eq]
      exact congrArg (select _ device) (List.filter_true _)
    rw [hsignals, ← select_filter (hin device) hkeyed, hlimited, deliver_eq]
    rfl
  · rw [hget, hscope]
    rfl
  · intro e hd hhealth htamper hc unscoped
    let m : Message := ⟨device, category, raw, now⟩
    have hunscoped : e.store.deliver e.thresholds (e.scopeOf m) m.delivery = unscoped :=
      deliver_eq_unlimited fun _ =>
        Engine.scopeOf_of_mem_affected (m := m) hd hhealth htamper hc
    obtain ⟨result, hhandle, hresult⟩ := Engine.handle_eq_deliver (e := e) (m := m) hd
    rw [hunscoped] at hhandle hresult
    exact ⟨result, hhandle, hresult⟩

/-- A device was seen under both health reports and tamper events; its next report tells of all
thirteen signals. -/
theorem classify_eq_filter_unlimited_both_seen :
    let e := (Engine.fresh .default "securacv").after
      [⟨"canary-01", .health, "\x7b\x7d".toUTF8, 1⟩,
        ⟨"canary-01", .tamper, "\x7b\"type\":\"gpio\"\x7d".toUTF8, 2⟩]
    let report := "\x7b\"tamper_gpio\":true\x7d".toUTF8
    let unscoped := e.store.classify e.thresholds .unlimited "canary-01" .health report 3
    unscoped.1.signals.length = 13 ∧
    ∃ result, e.handle ⟨"canary-01", .health, report, 3⟩ =
        (.ok result,
          { e with seen := e.seen.register "canary-01" .health, store := unscoped.2 }) ∧
      result.classification = unscoped.1 := by
  intro e report unscoped
  obtain ⟨_, _, _, _, hengine⟩ :=
    classify_eq_filter_unlimited .default .unlimited [] "canary-01" .health report 3
  refine ⟨by decide +kernel, hengine e ?_ ?_ ?_ (.inl rfl)⟩ <;> decide +kernel

end Store

end TamperWatch
