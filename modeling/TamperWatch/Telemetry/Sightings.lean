import TamperWatch.Data.SortedMap
import TamperWatch.Telemetry.Category

/-!
# Sightings

Which categories each device has been seen under. The record only grows. Main statement: a device
has been seen under a category after a registration if it was before or if the registration was for
that pair (`knows_register`).
-/

namespace TamperWatch

/-- The categories that each device has been seen under. -/
structure Sightings where
  devices : SortedMap String (SortedMap Category Unit)

namespace Sightings

def empty : Sightings := ⟨∅⟩

instance : EmptyCollection Sightings := ⟨empty⟩

/-- The categories of a device as a set, empty if it was never seen. -/
def categorySet (seen : Sightings) (device : String) : SortedMap Category Unit :=
  (seen.devices.find? device).getD ∅

/-- The device has been seen under the category. -/
def knows (seen : Sightings) (device : String) (category : Category) : Bool :=
  ((seen.categorySet device).find? category).isSome

/-- The record with one more pair. -/
def register (seen : Sightings) (device : String) (category : Category) : Sightings :=
  ⟨seen.devices.insert device ((seen.categorySet device).insert category ())⟩

def categories (seen : Sightings) (device : String) : List Category :=
  (seen.categorySet device).keys

def deviceNames (seen : Sightings) : List String :=
  seen.devices.keys

def deviceCount (seen : Sightings) : Nat :=
  seen.devices.size

def pairCount (seen : Sightings) : Nat :=
  (seen.devices.values.map SortedMap.size).foldr (· + ·) 0

/-- To register a category adds it to those of its device, and changes no other device. -/
theorem find?_register (seen : Sightings) (device other : String) (category : Category) :
    (seen.register device category).devices.find? other =
      if other = device then some ((seen.categorySet device).insert category ())
      else seen.devices.find? other := by
  by_cases h : other = device
  · subst h
    simp [register]
  · simp [register, SortedMap.find?_insert_of_ne _ _ h, h]

/-- The categories of a device after one more was registered. -/
theorem categorySet_register (seen : Sightings) (device other : String) (category : Category) :
    (seen.register device category).categorySet other =
      if other = device then (seen.categorySet device).insert category ()
      else seen.categorySet other := by
  unfold categorySet
  rw [find?_register]
  split <;> rfl

/-- Registering a pair makes that pair known and no other. -/
theorem knows_register (seen : Sightings) (device other : String) (category c : Category) :
    (seen.register device category).knows other c =
      ((other == device && c == category) || seen.knows other c) := by
  unfold knows
  rw [categorySet_register]
  by_cases hd : other = device
  · subst hd
    by_cases hc : c = category
    · subst hc
      simp
    · simp [SortedMap.find?_insert_of_ne _ _ hc, hc]
  · simp [hd]

end Sightings

end TamperWatch
