import TamperWatch.Proofs.Telemetry.Catalogue
import TamperWatch.Proofs.Telemetry.History
import TamperWatch.Telemetry.Classifier

/-!
# Deliveries

What the classifier is given at a time: the bytes that a device sent, or a payload that is decoded
already. A delivery makes at most one call of the store, whatever the scope, and its outcome reports
what is stored after that call; `Store.deliver_eq` says all that there is to say about it. Main
statements: a signal in scope takes up the update that the delivery makes to it, and a signal out of
scope is left alone (`Store.get?_deliver`); a signal that is not sticky is then what this update
says (`Store.get?_deliver_replacing`).
-/

namespace TamperWatch

/-- What a device sent. -/
inductive Content where
  | raw (bytes : ByteArray)
  | decoded (payload : Payload)

/-- What the classifier is given at a time. -/
structure Delivery where
  device : String
  category : Category
  content : Content
  time : Moment

namespace Delivery

/-- The members that rules read, if there is a payload or the bytes can be decoded. -/
def members? (d : Delivery) : Option Json.Members :=
  match d.content with
  | .raw bytes =>
    match Payload.decode d.category bytes with
    | .ok payload => some payload.members
    | .error _ => none
  | .decoded payload => some payload.members

/-- The update that a delivery makes to a signal wherever that signal is in scope. -/
def update? (t : Thresholds) (kind : SignalKind) (d : Delivery) : Option Update :=
  d.members?.bind (Catalogue.update? t d.category kind)

/-- The updates that a delivery makes to a device's signal wherever that signal is in scope. -/
def updatesOf (t : Thresholds) (device : String) (kind : SignalKind) (d : Delivery) :
    List DatedUpdate :=
  if d.device = device then (d.update? t kind).toList.map (⟨·, d.time⟩) else []

/-- The delivery is of the device and shows the tampering that a sticky signal stands for. -/
def trips (t : Thresholds) (device : String) (kind : SignalKind) (d : Delivery) : Bool :=
  d.device == device && d.members?.any (Catalogue.trips t d.category kind)

/-- The call that a delivery makes to the store, none if it cannot be decoded. -/
def batch? (t : Thresholds) (scope : Scope) (d : Delivery) : Option Batch :=
  d.members?.map fun o =>
    ⟨d.device, (Catalogue.updates t d.category o).filter fun u => scope u.kind, d.time⟩

end Delivery

/-- Takes up a delivery. -/
def Store.deliver (store : Store) (t : Thresholds) (scope : Scope) (d : Delivery) :
    Classification × Store :=
  match d.content with
  | .raw bytes => store.classify t scope d.device d.category bytes d.time
  | .decoded payload => store.classifyPayload t scope d.device d.category payload d.time

namespace Delivery

/-- The members of bytes are those of what they decode to. -/
lemma members?_of_ok {device category bytes payload time}
    (h : Payload.decode category bytes = .ok payload) :
    (Delivery.mk device category (.raw bytes) time).members? = some payload.members := by
  simp [members?, h]

/-- Bytes that cannot be decoded have no members. -/
lemma members?_of_error {device category bytes e time}
    (h : Payload.decode category bytes = .error e) :
    (Delivery.mk device category (.raw bytes) time).members? = none := by
  simp [members?, h]

/-- A delivery trips a sticky signal exactly if it is of the device and its update asserts the
signal. -/
lemma trips_eq (t : Thresholds) (device : String) {kind : SignalKind}
    (hk : kind.latch = .sticky) (d : Delivery) :
    d.trips t device kind = (d.device == device && (d.update? t kind).any (·.asserts)) := by
  unfold trips update?
  cases d.members? with
  | none => rfl
  | some o => rw [Option.bind_some, Catalogue.any_asserts_update? t d.category hk, Option.any_some]

/-- A delivery that shows a kind of tampering shows tampering. -/
lemma trips_anyTamper {t device kind} {d : Delivery} (h : d.trips t device (.tamper kind) = true) :
    d.trips t device .anyTamper = true := by
  unfold trips at h ⊢
  obtain ⟨hd, hm⟩ := Bool.and_eq_true_iff.1 h
  obtain ⟨o, ho, htrips⟩ := (Option.any_eq_true _ _).1 hm
  rw [hd, ho]
  exact Catalogue.trips_anyTamper htrips

/-- The last assertion that deliveries make is of the time of the last one that trips the signal. -/
lemma lastAssertion_flatMap (t : Thresholds) (device : String) {kind : SignalKind}
    (hk : kind.latch = .sticky) (ds : List Delivery) :
    (lastAssertion (ds.flatMap (·.updatesOf t device kind))).map (·.time) =
      (ds.reverse.find? (Delivery.trips t device kind)).map (·.time) := by
  induction ds using List.reverseRecOn with
  | nil => rfl
  | append_singleton ds d ih =>
    rw [List.flatMap_append, List.flatMap_singleton, List.reverse_append, List.reverse_singleton,
      List.singleton_append, List.find?_cons, trips_eq t device hk]
    by_cases hd : d.device = device
    · have hm : d.updatesOf t device kind = (d.update? t kind).toList.map (⟨·, d.time⟩) := if_pos hd
      rw [hm]
      cases d.update? t kind with
      | none => simpa [hd] using ih
      | some u => cases ha : u.asserts <;> simp [lastAssertion_concat, hd, ha, ih]
    · have hm : d.updatesOf t device kind = [] := if_neg hd
      have hne : (d.device == device) = false := beq_false_of_ne hd
      simpa [hm, hne] using ih

end Delivery

/-- A scope lets either all updates of a signal through or none. -/
lemma filter_kind_filter_scope (scope : Scope) (us : List Update) (kind : SignalKind) :
    (us.filter fun u => scope u.kind).filter (·.kind = kind) =
      if scope kind then us.filter (·.kind = kind) else [] := by
  rw [List.filter_filter]
  split
  · rename_i h
    refine List.filter_congr fun u _ => ?_
    by_cases hk : u.kind = kind <;> simp [hk, h]
  · rename_i h
    refine List.filter_eq_nil_iff.2 fun u _ => ?_
    by_cases hk : u.kind = kind <;> simp [hk, h]

/-- The call of a delivery updates the signals in scope, and those as the rules have it. -/
lemma Delivery.history_batch? (t : Thresholds) (scope : Scope) (d : Delivery) (device : String)
    (kind : SignalKind) :
    history (d.batch? t scope).toList device kind =
      if scope kind then d.updatesOf t device kind else [] := by
  unfold batch? updatesOf update?
  cases d.members? with
  | none => simp [history]
  | some o =>
    by_cases hd : d.device = device
    · simp only [history, Batch.updatesOf, hd, Option.map_some, Option.toList_some,
        List.flatMap_cons, List.flatMap_nil, List.append_nil, if_true, filter_kind_filter_scope,
        Catalogue.filter_kind_updates, Option.bind_some]
      cases scope kind <;> rfl
    · simp [history, Batch.updatesOf, hd]

namespace Store

/-- To deliver is to make the delivery's call to the store and select from the store after it. -/
lemma deliver_eq (store : Store) (t : Thresholds) (scope : Scope) (d : Delivery) :
    store.deliver t scope d =
      (⟨d.members?.isSome, (store.recordAll (d.batch? t scope).toList).select d.device
          (scopedKinds t scope d.category)⟩,
        store.recordAll (d.batch? t scope).toList) := by
  unfold deliver Delivery.batch? Delivery.members?
  cases hc : d.content with
  | raw bytes =>
    cases hp : Payload.decode d.category bytes with
    | ok payload =>
      simp only [classify, hp]
      rfl
    | error e =>
      simp only [classify, hp]
      rfl
  | decoded payload => rfl

/-- A signal in scope takes up what a delivery says of it. -/
lemma get?_deliver (store : Store) (t : Thresholds) (scope : Scope) (d : Delivery)
    (device : String) (kind : SignalKind) :
    (store.deliver t scope d).2.get? device kind =
      if scope kind then
        (d.updatesOf t device kind).foldl (Signal.absorb device) (store.get? device kind)
      else store.get? device kind := by
  rw [deliver_eq, get?_recordAll, Delivery.history_batch?]
  cases scope kind <;> rfl

/-- A signal that is not sticky is what the last delivery says of it, whatever calls came before. -/
lemma get?_deliver_replacing (batches : List Batch) {t : Thresholds} (scope : Scope)
    {d : Delivery} {kind : SignalKind} {u : Update} (hkind : kind.latch ≠ .sticky)
    (hscope : scope kind = true) (hu : d.update? t kind = some u) :
    (((∅ : Store).recordAll batches).deliver t scope d).2.get? d.device kind =
      some ⟨d.device, kind, u.value, u.attributes, none, d.time⟩ := by
  rw [deliver_eq, ← recordAll_append, get?_recordAll_empty, history_append,
    Delivery.history_batch?, if_pos hscope]
  simp [Delivery.updatesOf, hu, Signal.ofHistory?, hkind]

/-- A signal that a delivery says nothing of is left alone. -/
lemma get?_deliver_of_none (store : Store) {t : Thresholds} {scope : Scope} {d : Delivery}
    {kind : SignalKind} (hu : d.update? t kind = none) (device : String) :
    (store.deliver t scope d).2.get? device kind = store.get? device kind := by
  rw [get?_deliver, Delivery.updatesOf, hu]
  simp

/-- Only a delivery that says something is applied. -/
lemma applied_deliver (store : Store) (t : Thresholds) (scope : Scope) (d : Delivery) :
    (store.deliver t scope d).1.applied = d.members?.isSome := by
  rw [deliver_eq]

/-- A delivery that makes an update is applied. -/
lemma applied_of_update? (store : Store) {t : Thresholds} (scope : Scope) {d : Delivery}
    {kind : SignalKind} {u : Update} (hu : d.update? t kind = some u) :
    (store.deliver t scope d).1.applied = true := by
  obtain ⟨o, ho, -⟩ := Option.bind_eq_some_iff.1 hu
  rw [applied_deliver, ho, Option.isSome_some]

end Store

end TamperWatch
