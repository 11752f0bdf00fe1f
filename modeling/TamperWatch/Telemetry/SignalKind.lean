import TamperWatch.Telemetry.Category

/-!
# Signal kinds

Every signal that a device can show, the category that announces it, and how its readings combine.
Main statements: the kinds that a category owns are exactly those whose owner it is
(`mem_ownedBy_iff`), and a kind's key leads back to it (`ofKey?_key`).
-/

namespace TamperWatch

/-- A signal that a device can show. -/
inductive SignalKind where
  | online
  | chainValid
  /-- Any tampering at all. -/
  | anyTamper
  | tamper (t : TamperKind)
  | transport (l : Link)
  | meshConnected
  | chirpActive
  | healthStatus
  | gpsFix
  | chainLength
  | witnessCount
  | lastEvent
  deriving DecidableEq, Repr

/-- How a new reading combines with the stored value. -/
inductive Latch where
  /-- Once on, it stays on; a reading that is off changes nothing. -/
  | sticky
  /-- Every reading replaces the value. -/
  | instantaneous
  /-- Every reading replaces the value, which counts as valid until told otherwise. -/
  | integrity
  deriving DecidableEq, Repr

def Latch.name : Latch → String
  | sticky => "sticky"
  | instantaneous => "instantaneous"
  | integrity => "integrity"

/-- A key that belongs to no signal. -/
structure UnknownSignalKind where
  key : String
  deriving DecidableEq, Repr

def UnknownSignalKind.message (e : UnknownSignalKind) : String :=
  "Unknown signal kind: " ++ e.key

namespace SignalKind

/-- The category whose first message announces the signal. -/
def owner : SignalKind → Category
  | online => .status
  | chainValid | chainLength => .chain
  | anyTamper | healthStatus | gpsFix => .health
  | tamper _ => .tamper
  | transport _ => .transport
  | meshConnected => .mesh
  | chirpActive => .chirp
  | witnessCount => .counts
  | lastEvent => .events

/-- How the readings of a signal combine. -/
def latch : SignalKind → Latch
  | anyTamper | tamper _ => .sticky
  | chainValid => .integrity
  | _ => .instantaneous

/-- The signals that a category announces, in the order in which it does so. -/
def ownedBy : Category → List SignalKind
  | .status => [online]
  | .chain => [chainValid, chainLength]
  | .health => [anyTamper, healthStatus, gpsFix]
  | .tamper => TamperKind.all.map tamper
  | .transport => Link.all.map transport
  | .mesh => [meshConnected]
  | .chirp => [chirpActive]
  | .counts => [witnessCount]
  | .events => [lastEvent]

/-- The signals besides those of one tamper kind or one link. -/
def simple : List SignalKind :=
  [online, chainValid, anyTamper, meshConnected, chirpActive, healthStatus, gpsFix, chainLength,
    witnessCount, lastEvent]

def all : List SignalKind :=
  simple ++ TamperKind.all.map tamper ++ Link.all.map transport

/-- The key of a signal, of which a device has one each. -/
def key : SignalKind → String
  | online => "online"
  | chainValid => "chain_valid"
  | anyTamper => "tamper"
  | tamper t => "tamper_" ++ t.name
  | transport l => "transport_" ++ l.name
  | meshConnected => "mesh_connected"
  | chirpActive => "chirp_active"
  | healthStatus => "health_status"
  | gpsFix => "gps_fix"
  | chainLength => "chain_length"
  | witnessCount => "witness_count"
  | lastEvent => "last_event"

def ofKey? (s : String) : Option SignalKind :=
  all.find? fun k => k.key == s

/-- The signal with a key, or an error that quotes the key. -/
def parse (s : String) : Except UnknownSignalKind SignalKind :=
  match ofKey? s with
  | some k => .ok k
  | none => .error ⟨s⟩

def rank : SignalKind → Nat
  | online => 0
  | chainValid => 1
  | anyTamper => 2
  | tamper t => 3 + t.rank
  | transport l => 13 + l.rank
  | meshConnected => 19
  | chirpActive => 20
  | healthStatus => 21
  | gpsFix => 22
  | chainLength => 23
  | witnessCount => 24
  | lastEvent => 25

instance : Ord SignalKind := ⟨fun a b => compare a.rank b.rank⟩

/-- Every kind of signal is listed. -/
theorem mem_all (k : SignalKind) : k ∈ all := by
  rcases k with _ | _ | _ | t | l | _ | _ | _ | _ | _ | _ | _
  case tamper => simp [all, TamperKind.mem_all]
  case transport => simp [all, Link.mem_all]
  all_goals decide

/-- The rank of a kind of signal tells which one it is. -/
theorem eq_of_rank {a b : SignalKind} : a.rank = b.rank → a = b := by
  rcases a with _ | _ | _ | ⟨⟨⟩⟩ | ⟨⟨⟩⟩ | _ | _ | _ | _ | _ | _ | _ <;>
    rcases b with _ | _ | _ | ⟨⟨⟩⟩ | ⟨⟨⟩⟩ | _ | _ | _ | _ | _ | _ | _ <;> decide

instance : Std.TransOrd SignalKind :=
  inferInstanceAs (Std.TransCmp (compareOn rank))

instance : Std.LawfulEqOrd SignalKind where
  eq_of_compare h := eq_of_rank (Nat.compare_eq_eq.1 h)

/-- A category owns the signals that it is the owner of. -/
theorem mem_ownedBy_iff {k : SignalKind} {c : Category} : k ∈ ownedBy c ↔ k.owner = c := by
  rcases k with _ | _ | _ | ⟨⟨⟩⟩ | ⟨⟨⟩⟩ | _ | _ | _ | _ | _ | _ | _ <;> cases c <;> decide

/-- The key of a kind of signal is read as the kind. -/
theorem ofKey?_key (k : SignalKind) : ofKey? k.key = some k := by
  rcases k with _ | _ | _ | ⟨⟨⟩⟩ | ⟨⟨⟩⟩ | _ | _ | _ | _ | _ | _ | _ <;> decide

end SignalKind

end TamperWatch
