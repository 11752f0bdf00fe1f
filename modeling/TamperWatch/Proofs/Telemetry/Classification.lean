import TamperWatch.Proofs.Telemetry.Delivery

/-!
# What a classification reports

A classification answers with the signals that its category may write, as they are stored when it is
done. All that it writes is among them: a signal that a delivery changes is in scope and is of a
kind that the category affects (`Store.mem_affected_of_get?_ne`). A payload that cannot be decoded
makes no call of the store, not even one that creates an entry for its device. Main statement:
`Store.classify_reports_stored`.
-/

namespace TamperWatch

/-- A delivery that says something of a signal makes one update of it. -/
lemma Delivery.updatesOf_eq_singleton {t : Thresholds} {device : String} {kind : SignalKind}
    {d : Delivery} (h : d.updatesOf t device kind ≠ []) :
    d.device = device ∧ kind ∈ Catalogue.affected t d.category ∧
      ∃ u, d.updatesOf t device kind = [⟨u, d.time⟩] := by
  unfold updatesOf at h ⊢
  by_cases hd : d.device = device
  · rw [if_pos hd] at h ⊢
    cases hu : d.update? t kind with
    | none =>
      rw [hu] at h
      exact absurd rfl h
    | some u =>
      obtain ⟨o, _, ho⟩ := Option.bind_eq_some_iff.1 hu
      exact ⟨hd, Catalogue.mem_affected_of_update? ho, u, rfl⟩
  · rw [if_neg hd] at h
    exact absurd rfl h

namespace Store

/-- A payload is not applied exactly if it cannot be decoded. -/
lemma applied_classify_eq_false_iff {store : Store} {t : Thresholds} {scope : Scope}
    {device : String} {category : Category} {raw : ByteArray} {now : Moment} :
    (store.classify t scope device category raw now).1.applied = false ↔
      ∃ e, Payload.decode category raw = .error e := by
  cases h : Payload.decode category raw with
  | ok payload => simp [classify, classifyPayload, h]
  | error e => simp [classify, h]

/-- A delivery changes only signals of its device that its category affects in scope, and stores
them. -/
lemma mem_affected_of_get?_ne {store : Store} {t : Thresholds} {scope : Scope} {d : Delivery}
    {device : String} {kind : SignalKind}
    (h : (store.deliver t scope d).2.get? device kind ≠ store.get? device kind) :
    d.device = device ∧ kind ∈ scopedKinds t scope d.category ∧
      ∃ s, (store.deliver t scope d).2.get? device kind = some s := by
  rw [get?_deliver] at h ⊢
  by_cases hscope : scope kind = true
  · rw [if_pos hscope] at h ⊢
    have hupdates : d.updatesOf t device kind ≠ [] := by
      intro hnil
      rw [hnil] at h
      exact h rfl
    obtain ⟨hd, haffected, u, hu⟩ := Delivery.updatesOf_eq_singleton hupdates
    rw [hu]
    exact ⟨hd, List.mem_filter.2 ⟨haffected, hscope⟩, _, rfl⟩
  · rw [if_neg hscope] at h
    exact absurd rfl h

/-- A stored signal of the kinds asked for is among those selected. -/
lemma mem_select {store : Store} {device : String} {kinds : List SignalKind} {kind : SignalKind}
    {s : Signal} (hk : kind ∈ kinds) (hs : store.get? device kind = some s) :
    s ∈ store.select device kinds :=
  List.mem_filterMap.2 ⟨kind, hk, hs⟩

/-- Signals that stand under their own kinds are selected in the order of the kinds. -/
lemma pairwise_select {store : Store} {device : String} {kinds : List SignalKind}
    (hkeyed : ∀ kind s, store.get? device kind = some s → s.kind = kind)
    (hkinds : kinds.Pairwise fun a b => compare a b = .lt) :
    (store.select device kinds).Pairwise fun a b => compare a.kind b.kind = .lt := by
  refine List.pairwise_filterMap.2 (hkinds.imp fun {k k'} hlt s hs s' hs' => ?_)
  rw [hkeyed k s hs, hkeyed k' s' hs']
  exact hlt

/-- A classification reports what is stored. From every store it says that it was not applied
exactly if the payload cannot be decoded, and then the store is as it was, without a new entry of
any device. It always reports the kinds that the category may write in scope, in their order, as
they are stored afterwards, and so the reported signals ascend, too, in every store that calls can
lead to. Every signal that is stored differently than before is reported. -/
theorem classify_reports_stored (store : Store) (t : Thresholds) (scope : Scope) (device : String)
    (category : Category) (raw : ByteArray) (now : Moment) :
    let result := store.classify t scope device category raw now
    let kinds := (Catalogue.affected t category).filter scope
    (result.1.applied = false ↔ ∃ e, Payload.decode category raw = .error e) ∧
    (result.1.applied = false → result.2 = store) ∧
    result.1.signals = result.2.select device kinds ∧
    (kinds.Pairwise fun a b => compare a b = .lt) ∧
    (∀ batches, store = (∅ : Store).recordAll batches →
      result.1.signals.Pairwise fun a b => compare a.kind b.kind = .lt) ∧
    ∀ other kind, result.2.get? other kind ≠ store.get? other kind →
      other = device ∧ ∃ s ∈ result.1.signals, result.2.get? other kind = some s := by
  intro result kinds
  let d : Delivery := ⟨device, category, .raw raw, now⟩
  have hresult : result = store.deliver t scope d := rfl
  have happlied : result.1.applied = false ↔ ∃ e, Payload.decode category raw = .error e :=
    applied_classify_eq_false_iff
  have hsignals : result.1.signals = result.2.select device kinds := by
    rw [hresult, deliver_eq]
    rfl
  have hkinds : kinds.Pairwise fun a b => compare a b = .lt :=
    (Catalogue.affected_ascending t category).filter scope
  refine ⟨happlied, fun hnot => ?_, hsignals, hkinds, ?_, fun other kind hne => ?_⟩
  · obtain ⟨e, he⟩ := happlied.1 hnot
    exact classify_of_error he
  · rintro batches rfl
    rw [hsignals]
    apply pairwise_select _ hkinds
    intro kind s hs
    rw [hresult, deliver_eq, ← recordAll_append] at hs
    exact (keyed_of_get?_recordAll hs).2
  · obtain ⟨hd, hmem, s, hs⟩ := mem_affected_of_get?_ne (d := d) hne
    rw [hsignals]
    refine ⟨hd.symm, s, ?_, hs⟩
    rw [← hd] at hs
    exact mem_select hmem hs

end Store

end TamperWatch
