import TamperWatch.Telemetry.Signal

/-!
# The signal store

The stored signals of all devices. A device has an entry from its first message on, even when that
message wrote no signal. Main statement: an update changes nothing but the signal of its kind of
the device it is for (`get?_record`).
-/

namespace TamperWatch

/-- The signals of one device. -/
abbrev DeviceSignals := SortedMap SignalKind Signal

namespace DeviceSignals

/-- The signals after one more update: a kind that was never written gets its first state. -/
def record (signals : DeviceSignals) (device : String) (now : Moment) (u : Update) :
    DeviceSignals :=
  match signals.find? u.kind with
  | some s => signals.insert u.kind (s.fold u now)
  | none => signals.insert u.kind (Signal.start device u now)

/-- The states of the given kinds, without those that were never written. -/
def select (signals : DeviceSignals) (kinds : List SignalKind) : List Signal :=
  kinds.filterMap signals.find?

/-- An update changes the signal of its kind alone. -/
theorem find?_record (signals : DeviceSignals) (device : String) (now : Moment) (u : Update)
    (k : SignalKind) :
    (signals.record device now u).find? k =
      if k = u.kind then
        some (match signals.find? k with
          | some s => s.fold u now
          | none => Signal.start device u now)
      else signals.find? k := by
  unfold record
  by_cases hk : k = u.kind
  · subst hk
    cases signals.find? u.kind <;> simp
  · cases signals.find? u.kind <;> simp [SortedMap.find?_insert_of_ne _ _ hk, hk]

end DeviceSignals

/-- The stored signals of all devices. -/
structure Store where
  devices : SortedMap String DeviceSignals

namespace Store

def empty : Store := ⟨∅⟩

instance : EmptyCollection Store := ⟨empty⟩

/-- The signals of a device, none if it has no entry. -/
def signalsOf (store : Store) (device : String) : DeviceSignals :=
  (store.devices.find? device).getD ∅

/-- The store after the updates of one message of a device. -/
def record (store : Store) (device : String) (updates : List Update) (now : Moment) : Store :=
  ⟨store.devices.insert device
    (updates.foldl (fun signals u => signals.record device now u) (store.signalsOf device))⟩

/-- The states of the given kinds of a device, without those that were never written. -/
def select (store : Store) (device : String) (kinds : List SignalKind) : List Signal :=
  (store.signalsOf device).select kinds

/-- The state of one signal of a device. -/
def get? (store : Store) (device : String) (kind : SignalKind) : Option Signal :=
  (store.signalsOf device).find? kind

/-- All signals of a device, in the order of their kinds. -/
def snapshot (store : Store) (device : String) : List Signal :=
  (store.signalsOf device).values

def deviceCount (store : Store) : Nat :=
  store.devices.size

def signalCount (store : Store) : Nat :=
  (store.devices.values.map SortedMap.size).foldr (· + ·) 0

/-- The empty store has no signals of any device. -/
@[simp] theorem signalsOf_empty (device : String) : (∅ : Store).signalsOf device = ∅ := rfl

/-- The updates of a device change the entry of that device alone. -/
theorem find?_record (store : Store) (device other : String) (updates : List Update)
    (now : Moment) :
    (store.record device updates now).devices.find? other =
      if other = device then
        some (updates.foldl (fun signals u => signals.record device now u) (store.signalsOf device))
      else store.devices.find? other := by
  by_cases h : other = device
  · subst h
    simp [record]
  · simp [record, SortedMap.find?_insert_of_ne _ _ h, h]

/-- A call records its updates for its device, and changes no other device. -/
theorem signalsOf_record (store : Store) (device other : String) (updates : List Update)
    (now : Moment) :
    (store.record device updates now).signalsOf other =
      if other = device then
        updates.foldl (fun signals u => signals.record device now u) (store.signalsOf device)
      else store.signalsOf other := by
  unfold signalsOf
  rw [find?_record]
  split <;> rfl

/-- One update is folded into its signal or starts it, and changes no other signal. -/
theorem get?_record (store : Store) (device other : String) (u : Update) (now : Moment)
    (k : SignalKind) :
    (store.record device [u] now).get? other k =
      if other = device ∧ k = u.kind then
        some (match store.get? device k with
          | some s => s.fold u now
          | none => Signal.start device u now)
      else store.get? other k := by
  unfold get?
  rw [signalsOf_record]
  by_cases hd : other = device
  · subst hd
    simp [DeviceSignals.find?_record]
  · simp [hd]

end Store

end TamperWatch
