import TamperWatch.Proofs.Telemetry.Run

/-!
# Messages that commute

Two messages of one device can change places unless their categories feed signals of each other.
Only health reports and tamper events do (`Catalogue.owner_of_mem_affected`); all other categories
are separate. The categories that a message makes known then bring nothing into the scope of the
other (`Engine.batch?_handle`), and the updates of the two are of different kinds, so the store
takes them up in either order (`Store.record_comm`). Main statement: `Engine.handle_comm`.
-/

namespace TamperWatch

/-- Neither category feeds a signal of the other: they differ, and are not those of health reports
and tamper events. -/
def Category.Separate (c c' : Category) : Prop :=
  c ≠ c' ∧ ¬ (c = .health ∧ c' = .tamper) ∧ ¬ (c = .tamper ∧ c' = .health)

instance (c c' : Category) : Decidable (c.Separate c') :=
  inferInstanceAs (Decidable (_ ∧ _ ∧ _))

/-- Separation of categories is mutual. -/
lemma Category.Separate.symm {c c' : Category} (h : c.Separate c') : c'.Separate c := by
  obtain ⟨hne, hht, hth⟩ := h
  exact ⟨hne.symm, fun h => hth h.symm, fun h => hht h.symm⟩

namespace Catalogue

/-- A category feeds its own signals; health reports and tamper events feed each other's too. -/
lemma owner_of_mem_affected {t : Thresholds} {category : Category} {kind : SignalKind}
    (h : kind ∈ affected t category) :
    kind.owner = category ∨ (category = .health ∧ kind.owner = .tamper) ∨
      (category = .tamper ∧ kind.owner = .health) := by
  obtain ⟨r, hr, rfl⟩ := mem_affected_iff.1 h
  cases category with
  | health =>
    simp only [rules, healthRules, List.mem_append, List.mem_cons, List.mem_map] at hr
    rcases hr with (rfl | ⟨kind, _, rfl⟩) | rfl | rfl | hr
    · exact .inl rfl
    · exact .inr (.inl ⟨rfl, rfl⟩)
    · exact .inl rfl
    · exact .inl rfl
    · cases hr
  | tamper =>
    simp only [rules, tamperRules, List.mem_cons, List.mem_map] at hr
    rcases hr with rfl | ⟨kind, _, rfl⟩
    · exact .inr (.inr ⟨rfl, rfl⟩)
    · exact .inl rfl
  | transport =>
    obtain ⟨link, _, rfl⟩ := List.mem_map.1 hr
    exact .inl rfl
  | chain =>
    simp only [rules, chainRules, List.mem_cons, List.not_mem_nil, or_false] at hr
    rcases hr with rfl | rfl <;> exact .inl rfl
  | _ =>
    rw [List.mem_singleton.1 hr]
    exact .inl rfl

/-- A category feeds no signal that a separate one owns. -/
lemma owner_ne_of_separate {t : Thresholds} {c c' : Category} {kind : SignalKind}
    (h : kind ∈ affected t c) (hs : c.Separate c') : kind.owner ≠ c' := by
  obtain ⟨hne, hht, hth⟩ := hs
  rcases owner_of_mem_affected h with ho | ⟨rfl, ho⟩ | ⟨rfl, ho⟩
  · exact fun h' => hne (ho.symm.trans h')
  · exact fun h' => hht ⟨rfl, h'.symm.trans ho⟩
  · exact fun h' => hth ⟨rfl, h'.symm.trans ho⟩

/-- A category feeds no signal that a separate one feeds. -/
lemma not_mem_affected_of_separate {t : Thresholds} {c c' : Category} {kind : SignalKind}
    (h : kind ∈ affected t c) (hs : c.Separate c') : kind ∉ affected t c' := by
  intro h'
  have hc' : kind.owner ≠ c' := owner_ne_of_separate h hs
  have hc : kind.owner ≠ c := owner_ne_of_separate h' hs.symm
  -- A signal that is fed from outside its category is fed by health reports and tamper events.
  rcases owner_of_mem_affected h with ho | ⟨rfl, ho⟩ | ⟨rfl, ho⟩
  · exact hc ho
  · rcases owner_of_mem_affected h' with ho' | ⟨rfl, _⟩ | ⟨rfl, _⟩
    · exact hc' ho'
    · exact hs.1 rfl
    · exact hs.2.1 ⟨rfl, rfl⟩
  · rcases owner_of_mem_affected h' with ho' | ⟨rfl, _⟩ | ⟨rfl, _⟩
    · exact hc' ho'
    · exact hs.2.2 ⟨rfl, rfl⟩
    · exact hs.1 rfl

end Catalogue

/-- Updates of other signals only are none of this one. -/
lemma filter_kind_eq_nil {us : List Update} {kind : SignalKind} (h : ∀ u ∈ us, u.kind ≠ kind) :
    us.filter (·.kind = kind) = [] :=
  List.filter_eq_nil_iff.2 fun u hu heq => h u hu (of_decide_eq_true heq)

/-- Updates of two sets of signals can be recorded in either order. -/
lemma DeviceSignals.foldl_record_comm (signals : DeviceSignals) (device : String)
    {us vs : List Update} (now later : Moment) (h : ∀ u ∈ us, ∀ v ∈ vs, u.kind ≠ v.kind) :
    vs.foldl (fun signals u => signals.record device later u)
        (us.foldl (fun signals u => signals.record device now u) signals) =
      us.foldl (fun signals u => signals.record device now u)
        (vs.foldl (fun signals u => signals.record device later u) signals) := by
  apply SortedMap.ext_find?
  intro kind
  rw [find?_foldl_record, find?_foldl_record, find?_foldl_record, find?_foldl_record]
  -- At most one of the two lists has updates of the kind.
  by_cases hu : ∃ u ∈ us, u.kind = kind
  · obtain ⟨u, hmem, rfl⟩ := hu
    have hvs : vs.filter (·.kind = u.kind) = [] :=
      filter_kind_eq_nil fun v hv => (h u hmem v hv).symm
    rw [hvs]
    rfl
  · have hus : us.filter (·.kind = kind) = [] :=
      filter_kind_eq_nil fun u hmem hk => hu ⟨u, hmem, hk⟩
    rw [hus]
    rfl

namespace Store

/-- Calls to the store about two sets of signals commute. -/
lemma record_comm (store : Store) (device : String) {us vs : List Update} (now later : Moment)
    (h : ∀ u ∈ us, ∀ v ∈ vs, u.kind ≠ v.kind) :
    (store.record device us now).record device vs later =
      (store.record device vs later).record device us now := by
  have hdevices : ((store.record device us now).record device vs later).devices =
      ((store.record device vs later).record device us now).devices := by
    apply SortedMap.ext_find?
    intro other
    rw [find?_record, find?_record, find?_record, find?_record]
    split
    · rw [signalsOf_record, signalsOf_record, if_pos rfl, if_pos rfl,
        DeviceSignals.foldl_record_comm _ device now later h]
    · rfl
  exact congrArg Store.mk hdevices

/-- Calls that update none of the given kinds change nothing of what is read of them. -/
lemma select_recordAll (store : Store) (device : String) {bs : List Batch}
    {kinds : List SignalKind} (h : ∀ b ∈ bs, ∀ u ∈ b.updates, u.kind ∉ kinds) :
    (store.recordAll bs).select device kinds = store.select device kinds := by
  refine List.filterMap_congr fun kind hk => ?_
  show (store.recordAll bs).get? device kind = store.get? device kind
  have hnone : history bs device kind = [] := by
    refine List.flatMap_eq_nil_iff.2 fun b hb => ?_
    have hkinds : b.updates.filter (·.kind = kind) = [] :=
      filter_kind_eq_nil fun u hu hkind => h b hb u hu (hkind ▸ hk)
    unfold Batch.updatesOf
    rw [hkinds]
    split <;> rfl
  rw [get?_recordAll, hnone]
  rfl

end Store

/-- Two categories of a device can be registered in either order. -/
lemma Sightings.register_comm (seen : Sightings) (device : String) {c c' : Category} (h : c ≠ c') :
    (seen.register device c).register device c' = (seen.register device c').register device c := by
  have hdevices : ((seen.register device c).register device c').devices =
      ((seen.register device c').register device c).devices := by
    apply SortedMap.ext_find?
    intro other
    rw [find?_register, find?_register, find?_register, find?_register]
    split
    · rw [categorySet_register, categorySet_register, if_pos rfl, if_pos rfl,
        SortedMap.insert_comm h]
    · rfl
  exact congrArg Sightings.mk hdevices

namespace Engine

variable {e : Engine} {m m' : Message}

/-- What a message may write does not grow by the category of a separate one. -/
lemma scopeOf_handle (hne : m.device ≠ "") (hs : m'.category.Separate m.category)
    {kind : SignalKind} (hk : kind ∈ Catalogue.affected e.thresholds m'.category) :
    (e.handle m).2.scopeOf m' kind = e.scopeOf m' kind := by
  have howner : (kind.owner == m.category) = false :=
    beq_false_of_ne (Catalogue.owner_ne_of_separate hk hs)
  rw [snd_handle hne]
  unfold scopeOf scope
  rw [Sightings.knows_register, Sightings.knows_register, Sightings.knows_register, howner,
    Bool.and_false, Bool.false_or]

/-- A separate message makes the same call to the store whether or not the other came first. -/
lemma batch?_handle (hne : m.device ≠ "") (hs : m'.category.Separate m.category) :
    (e.handle m).2.batch? m' = e.batch? m' := by
  have hfilter : ∀ o : Json.Members,
      (Catalogue.updates e.thresholds m'.category o).filter
          (fun u => (e.handle m).2.scopeOf m' u.kind) =
        (Catalogue.updates e.thresholds m'.category o).filter
          (fun u => e.scopeOf m' u.kind) := by
    intro o
    refine List.filter_congr fun u hu => ?_
    exact scopeOf_handle hne hs (Catalogue.kind_mem_affected hu)
  unfold batch?
  rw [thresholds_handle]
  simp only [hfilter]

/-- A separate message has the same kinds in scope whether or not the other came first. -/
lemma scopedKinds_handle (hne : m.device ≠ "") (hs : m'.category.Separate m.category) :
    Store.scopedKinds e.thresholds ((e.handle m).2.scopeOf m') m'.category =
      Store.scopedKinds e.thresholds (e.scopeOf m') m'.category :=
  List.filter_congr fun _ hk => scopeOf_handle hne hs hk

/-- Whether the pair of a message is known does not depend on a separate one before it. -/
lemma knows_handle_of_separate (hne : m.device ≠ "") (hs : m'.category.Separate m.category) :
    (e.handle m).2.seen.knows m'.device m'.category = e.seen.knows m'.device m'.category := by
  rw [snd_handle hne, Sightings.knows_register, beq_false_of_ne hs.1, Bool.and_false,
    Bool.false_or]

/-- The store after both messages is the one after the second, with the call of the first. -/
lemma storeAfter_handle (hne : m.device ≠ "") (hd : m.device = m'.device)
    (hs : m'.category.Separate m.category) :
    (e.handle m).2.storeAfter m' = (e.storeAfter m').recordAll (e.batch? m).toList := by
  unfold storeAfter
  rw [batch?_handle hne hs, store_handle]
  unfold storeAfter
  cases h : e.batch? m with
  | none => rfl
  | some b =>
    cases h' : e.batch? m' with
    | none => rfl
    | some b' =>
      obtain ⟨hb, hkinds⟩ := batch?_eq_some h
      obtain ⟨hb', hkinds'⟩ := batch?_eq_some h'
      have hdevice : b.device = b'.device := hb.trans (hd.trans hb'.symm)
      show (e.store.record b.device b.updates b.time).record b'.device b'.updates b'.time =
        (e.store.record b'.device b'.updates b'.time).record b.device b.updates b.time
      rw [hdevice]
      apply Store.record_comm
      intro u hu u' hu' heq
      exact Catalogue.not_mem_affected_of_separate (hkinds' u' hu') hs (heq ▸ hkinds u hu)

/-- A separate message reports the same signals whether or not the other came first. -/
lemma select_handle (hne : m.device ≠ "") (hd : m.device = m'.device)
    (hs : m'.category.Separate m.category) (scope : Scope) :
    ((e.handle m).2.storeAfter m').select m'.device
        (Store.scopedKinds e.thresholds scope m'.category) =
      (e.storeAfter m').select m'.device
        (Store.scopedKinds e.thresholds scope m'.category) := by
  rw [storeAfter_handle hne hd hs]
  apply Store.select_recordAll
  intro b hb u hu hk
  have hkind : u.kind ∈ Catalogue.affected e.thresholds m'.category := (List.mem_filter.1 hk).1
  have hother : u.kind ∈ Catalogue.affected e.thresholds m.category :=
    (batch?_eq_some (Option.mem_toList.1 hb)).2 u hu
  exact Catalogue.not_mem_affected_of_separate hkind hs hother

/-- A separate message has the same outcome whether or not the other came first. -/
lemma outcome_handle (hne : m.device ≠ "") (hd : m.device = m'.device)
    (hs : m'.category.Separate m.category) : ((e.handle m).2.handle m').1 = (e.handle m').1 := by
  have hne' : m'.device ≠ "" := hd ▸ hne
  rw [handle_eq hne', handle_eq hne', thresholds_handle, scopedKinds_handle hne hs,
    knows_handle_of_separate hne hs, select_handle hne hd hs]

/-- Two separate messages leave the same engine in either order. -/
lemma snd_handle_comm (hne : m.device ≠ "") (hd : m.device = m'.device)
    (hs : m.category.Separate m'.category) :
    ((e.handle m).2.handle m').2 = ((e.handle m').2.handle m).2 := by
  have hne' : m'.device ≠ "" := hd ▸ hne
  have hseen : (e.handle m).2.seen.register m'.device m'.category =
      (e.handle m').2.seen.register m.device m.category := by
    rw [snd_handle hne, snd_handle hne', hd]
    exact Sightings.register_comm _ _ hs.1
  have hstore : (e.handle m).2.storeAfter m' = (e.handle m').2.storeAfter m := by
    rw [storeAfter_handle hne hd hs.symm, ← batch?_handle hne' hs, ← store_handle]
    rfl
  rw [snd_handle hne', snd_handle (e := (e.handle m').2) hne, hseen, hstore, snd_handle hne,
    snd_handle hne']

/-- Messages of different categories commute, those of health reports and tamper events excepted.
Whatever the engine holds, two messages of a device that are handled in either order leave the same
known pairs and the same stored signals, and each of them has the same outcome in both orders. -/
theorem handle_comm (e : Engine) {m m' : Message} (hd : m.device = m'.device)
    (hs : m.category.Separate m'.category) :
    ((e.handle m).2.handle m').2 = ((e.handle m').2.handle m).2 ∧
    ((e.handle m).2.handle m').1 = (e.handle m').1 ∧
    ((e.handle m').2.handle m).1 = (e.handle m).1 := by
  by_cases hne : m.device = ""
  · have hne' : m'.device = "" := hd ▸ hne
    rw [handle_of_empty hne, handle_of_empty hne', handle_of_empty hne]
    exact ⟨rfl, rfl, rfl⟩
  · have hne' : m'.device ≠ "" := hd ▸ hne
    refine ⟨snd_handle_comm hne hd hs, ?_, ?_⟩
    · exact outcome_handle hne hd hs.symm
    · exact outcome_handle hne' hd.symm hs

/-- A health report and a mesh report of a device whose lid was opened can change places. -/
theorem handle_comm_health_mesh :
    let e := (fresh .default "securacv").after [⟨"canary-01", .tamper, "lid opened".toUTF8, 1⟩]
    let report : Message := ⟨"canary-01", .health, "\x7b\"battery\":5\x7d".toUTF8, 2⟩
    let mesh : Message := ⟨"canary-01", .mesh, "no JSON".toUTF8, 3⟩
    report.device = mesh.device ∧ report.category.Separate mesh.category ∧
    ((e.handle report).2.handle mesh).2 = ((e.handle mesh).2.handle report).2 ∧
    ((e.handle report).2.handle mesh).1 = (e.handle mesh).1 ∧
    ((e.handle mesh).2.handle report).1 = (e.handle report).1 := by
  intro e report mesh
  have hd : report.device = mesh.device := rfl
  have hs : report.category.Separate mesh.category := by decide
  exact ⟨hd, hs, handle_comm e hd hs⟩

/-- A health report and a tamper event cannot change places: the aggregate is in scope of the event
only if the report came first. -/
example :
    let value := fun ms : List Message =>
      (((fresh .default "securacv").after ms).store.get? "canary-01" .anyTamper).map (·.value)
    let report : Message := ⟨"canary-01", .health, "\x7b\x7d".toUTF8, 1⟩
    let event : Message := ⟨"canary-01", .tamper, "lid opened".toUTF8, 2⟩
    value [report, event] = some (.flag true) ∧ value [event, report] = some (.flag false) := by
  decide +kernel

end Engine

end TamperWatch
