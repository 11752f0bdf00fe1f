import TamperWatch.Proofs.Telemetry.Run

/-!
# Well-formed signals

A signal holds a value of any form, and dates that nothing ties to it. That every stored signal
makes sense is a matter of typing: each kind has a form of value, each reading gives values of one
form, and in the catalogue the two agree (`Catalogue.form_of_mem_rules`). So every update is of the
form of its kind. Such an update makes a well-formed signal (`Signal.wellFormed_start`) and keeps
one so (`Signal.WellFormed.fold`), and hence one message keeps the store well-formed
(`Store.WellFormed.deliver`). Main statement: `Store.wellFormed_after_run`.
-/

namespace TamperWatch

/-- The forms that the value of a signal can have. -/
inductive ValueForm where
  | flag
  | count
  | level
  | text
  deriving DecidableEq, Repr

/-- The value has the form. -/
inductive SignalValue.HasForm : SignalValue → ValueForm → Prop where
  | flag (b : Bool) : HasForm (.flag b) .flag
  | count (n : Nat) : HasForm (.count n) .count
  | level (l : HealthLevel) : HasForm (.text l.name) .level
  | text (s : String) : HasForm (.text s) .text

/-- The form of the values of a signal. -/
def SignalKind.form : SignalKind → ValueForm
  | .online | .chainValid | .anyTamper | .tamper _ | .transport _ | .meshConnected
  | .chirpActive => .flag
  | .chainLength | .witnessCount => .count
  | .healthStatus => .level
  | .gpsFix | .lastEvent => .text

/-- The form of the values that a reading gives. -/
def Reading.form : Reading → ValueForm
  | .flag _ | .link _ => .flag
  | .count _ => .count
  | .healthLevel _ => .level
  | .text _ _ | .gpsFix => .text

/-- What a reading gives has the form of the reading. -/
lemma Reading.hasForm_of_read? {r : Reading} {o : Json.Members} {v : SignalValue}
    (h : r.read? o = some v) : v.HasForm r.form := by
  cases r with
  | flag condition =>
    cases h
    exact .flag _
  | link entry =>
    obtain ⟨b, _, rfl⟩ := Option.map_eq_some_iff.1 h
    exact .flag b
  | count field =>
    simp only [read?] at h
    cases hfield : field.find? o with
    | none =>
      rw [hfield] at h
      cases h
      exact .count 0
    | some entry =>
      rw [hfield] at h
      obtain ⟨n, _, rfl⟩ := Option.map_eq_some_iff.1 h
      exact .count n
  | text field default =>
    cases h
    exact .text _
  | healthLevel bounds =>
    cases h
    exact .level _
  | gpsFix =>
    cases h
    exact .text _

namespace Catalogue

/-- Every rule reads values of the form of its signal. -/
lemma form_of_mem_rules {t : Thresholds} {category : Category} {r : Rule}
    (h : r ∈ rules t category) : r.reading.form = r.kind.form := by
  cases category with
  | health =>
    simp only [rules, healthRules, List.mem_append, List.mem_cons, List.mem_map] at h
    rcases h with (rfl | ⟨kind, _, rfl⟩) | rfl | rfl | h
    · rfl
    · rfl
    · rfl
    · rfl
    · cases h
  | tamper =>
    simp only [rules, tamperRules, List.mem_cons, List.mem_map] at h
    rcases h with rfl | ⟨kind, _, rfl⟩ <;> rfl
  | transport =>
    obtain ⟨link, _, rfl⟩ := List.mem_map.1 h
    rfl
  | chain =>
    simp only [rules, chainRules, List.mem_cons, List.not_mem_nil, or_false] at h
    rcases h with rfl | rfl <;> rfl
  | _ =>
    rw [List.mem_singleton.1 h]
    rfl

/-- An update of a signal has the form of the signal. -/
lemma hasForm_of_update? {t : Thresholds} {category : Category} {kind : SignalKind}
    {o : Json.Members} {u : Update} (h : update? t category kind o = some u) :
    u.kind = kind ∧ u.value.HasForm kind.form := by
  obtain ⟨r, hr, hu⟩ := Option.bind_eq_some_iff.1 h
  obtain ⟨v, hv, rfl⟩ := Option.map_eq_some_iff.1 hu
  obtain ⟨hmem, rfl⟩ := mem_rules_of_rule? hr
  refine ⟨rfl, ?_⟩
  rw [← form_of_mem_rules hmem]
  exact Reading.hasForm_of_read? hv

end Catalogue

/-- The signal makes sense under a device and a kind: it names both, its value has the form of the
kind, and it is dated by its last change exactly if it is a sticky signal that is on. -/
structure Signal.WellFormed (device : String) (kind : SignalKind) (s : Signal) : Prop where
  device_eq : s.device = device
  kind_eq : s.kind = kind
  hasForm : s.value.HasForm kind.form
  lastTriggered_eq : s.lastTriggered =
    if kind.latch = .sticky ∧ s.value = .flag true then some s.updatedAt else none

namespace Signal

/-- A signal that starts with an update of the right form is well-formed. -/
lemma wellFormed_start (device : String) {u : Update} (now : Moment)
    (hu : u.value.HasForm u.kind.form) : (start device u now).WellFormed device u.kind where
  device_eq := rfl
  kind_eq := rfl
  hasForm := hu
  lastTriggered_eq := by simp [start, Update.asserts]

/-- An update of the right form keeps a signal well-formed. -/
lemma WellFormed.fold {device : String} {kind : SignalKind} {s : Signal} {u : Update}
    (hs : s.WellFormed device kind) (now : Moment) (hu : u.value.HasForm kind.form) :
    (s.fold u now).WellFormed device kind := by
  obtain ⟨hdevice, rfl, hvalue, htriggered⟩ := hs
  by_cases hk : s.kind.latch = .sticky
  · cases ha : u.asserts with
    | false =>
      rw [fold_sticky_off hk ha]
      exact ⟨hdevice, rfl, hvalue, htriggered⟩
    | true =>
      rw [fold_sticky_on hk ha]
      rw [Update.asserts_iff.1 ha] at hu
      exact ⟨hdevice, rfl, hu, by simp [hk]⟩
  · rw [fold_replacing hk]
    refine ⟨hdevice, rfl, hu, ?_⟩
    simpa [hk] using htriggered

/-- Updates of the right form keep a signal well-formed, or start one that is. -/
lemma WellFormed.foldl_absorb {device : String} {kind : SignalKind} {us : List DatedUpdate}
    {s? : Option Signal} {s : Signal}
    (hus : ∀ u ∈ us, u.update.kind = kind ∧ u.update.value.HasForm kind.form)
    (hs? : ∀ s, s? = some s → s.WellFormed device kind)
    (h : us.foldl (absorb device) s? = some s) : s.WellFormed device kind := by
  induction us generalizing s? with
  | nil => exact hs? s h
  | cons u us ih =>
    refine ih (fun v hv => hus v (List.mem_cons_of_mem u hv)) ?_ h
    obtain ⟨hkind, hform⟩ := hus u List.mem_cons_self
    cases s? with
    | none =>
      rintro _ ⟨⟩
      subst hkind
      exact wellFormed_start device u.time hform
    | some s =>
      rintro _ ⟨⟩
      exact (hs? s rfl).fold u.time hform

end Signal

/-- The updates that a delivery makes have the form of the signal. -/
lemma Delivery.hasForm_of_mem_updatesOf {t : Thresholds} {device : String} {kind : SignalKind}
    {d : Delivery} {u : DatedUpdate} (h : u ∈ d.updatesOf t device kind) :
    u.update.kind = kind ∧ u.update.value.HasForm kind.form := by
  unfold updatesOf at h
  split at h
  · obtain ⟨v, hv, rfl⟩ := List.mem_map.1 h
    obtain ⟨o, _, ho⟩ := Option.bind_eq_some_iff.1 (Option.mem_toList.1 hv)
    exact Catalogue.hasForm_of_update? ho
  · cases h

namespace Store

/-- Every stored signal is well-formed where it is stored. -/
def WellFormed (store : Store) : Prop :=
  ∀ device kind s, store.get? device kind = some s → s.WellFormed device kind

/-- The store after deliveries, each in a scope of its own. -/
def deliverScoped (store : Store) (t : Thresholds) (calls : List (Scope × Delivery)) : Store :=
  calls.foldl (fun store call => (store.deliver t call.1 call.2).2) store

/-- The empty store is well-formed. -/
lemma wellFormed_empty : (∅ : Store).WellFormed := by
  intro device kind s h
  cases h

/-- A delivery keeps the store well-formed. -/
lemma WellFormed.deliver {store : Store} (h : store.WellFormed) (t : Thresholds) (scope : Scope)
    (d : Delivery) : (store.deliver t scope d).2.WellFormed := by
  intro device kind s hs
  rw [get?_deliver] at hs
  split at hs
  · exact Signal.WellFormed.foldl_absorb (fun _ => Delivery.hasForm_of_mem_updatesOf)
      (h device kind) hs
  · exact h device kind s hs

/-- Deliveries in any scopes keep the store well-formed. -/
lemma WellFormed.deliverScoped {store : Store} (h : store.WellFormed) (t : Thresholds)
    (calls : List (Scope × Delivery)) : (store.deliverScoped t calls).WellFormed := by
  induction calls generalizing store with
  | nil => exact h
  | cons call calls ih => exact ih (h.deliver t call.1 call.2)

end Store

namespace Engine

/-- A message keeps the store well-formed. -/
lemma wellFormed_handle {e : Engine} (h : e.store.WellFormed) (m : Message) :
    (e.handle m).2.store.WellFormed := by
  by_cases hne : m.device = ""
  · rw [handle_of_empty hne]
    exact h
  · obtain ⟨_, heq, -⟩ := handle_eq_deliver (e := e) hne
    rw [heq]
    exact h.deliver e.thresholds (e.scopeOf m) m.delivery

/-- Messages keep the store well-formed. -/
lemma wellFormed_after {e : Engine} (h : e.store.WellFormed) (ms : List Message) :
    (e.after ms).store.WellFormed := by
  induction ms generalizing e with
  | nil => exact h
  | cons m ms ih => exact ih (wellFormed_handle h m)

end Engine

/-- Stored signals are well-formed. After every run of the engine from its fresh state, and after
all deliveries to the empty store, each in any scope, every stored signal names the device and the
kind that it is stored under, has a value of the form of that kind, and is dated by its last change
if it is a sticky signal that is on, and not at all otherwise. -/
theorem Store.wellFormed_after_run (t : Thresholds) (root : String) (ms : List Message)
    (calls : List (Scope × Delivery)) :
    ((Engine.fresh t root).after ms).store.WellFormed ∧
      ((∅ : Store).deliverScoped t calls).WellFormed := by
  constructor
  · exact Engine.wellFormed_after wellFormed_empty ms
  · exact wellFormed_empty.deliverScoped t calls

end TamperWatch
