/-!
# Categories

The closed set of message categories that a device publishes under, and the two closed sets of
kinds below a category: what tampering was noticed, and which link carries witness data out. Each
member has one name; a name leads back to at most one member.
-/

namespace TamperWatch

/-- What a message reports on. -/
inductive Category where
  | status
  | chain
  | health
  | tamper
  | transport
  | mesh
  | chirp
  | counts
  | events
  deriving DecidableEq, Repr

namespace Category

def all : List Category :=
  [status, chain, health, tamper, transport, mesh, chirp, counts, events]

/-- The last part of the topics of a category. -/
def name : Category → String
  | status => "status"
  | chain => "chain"
  | health => "health"
  | tamper => "tamper"
  | transport => "transport"
  | mesh => "mesh"
  | chirp => "chirp"
  | counts => "counts"
  | events => "events"

/-- The category with a name, which is matched exactly. -/
def ofName? (s : String) : Option Category :=
  all.find? fun c => c.name == s

def rank : Category → Nat
  | status => 0
  | chain => 1
  | health => 2
  | tamper => 3
  | transport => 4
  | mesh => 5
  | chirp => 6
  | counts => 7
  | events => 8

instance : Ord Category := ⟨fun a b => compare a.rank b.rank⟩

/-- Every category is listed. -/
theorem mem_all (c : Category) : c ∈ all := by
  cases c <;> decide

/-- A category is found under its name. -/
theorem ofName?_name (c : Category) : ofName? c.name = some c := by
  cases c <;> decide

/-- A category is found under its own name only. -/
theorem name_of_ofName? {s : String} {c : Category} (h : ofName? s = some c) : c.name = s := by
  unfold ofName? at h
  simpa using List.find?_some h

/-- The rank of a category tells which one it is. -/
theorem eq_of_rank {a b : Category} : a.rank = b.rank → a = b := by
  cases a <;> cases b <;> decide

instance : Std.TransOrd Category :=
  inferInstanceAs (Std.TransCmp (compareOn rank))

instance : Std.LawfulEqOrd Category where
  eq_of_compare h := eq_of_rank (Nat.compare_eq_eq.1 h)

end Category

/-- The ways in which a device notices tampering. -/
inductive TamperKind where
  | powerLoss
  | sdRemove
  | sdError
  | gpsJamming
  | motion
  | enclosure
  | gpio
  | watchdog
  | unexpectedReboot
  | memoryCritical
  deriving DecidableEq, Repr

namespace TamperKind

def all : List TamperKind :=
  [powerLoss, sdRemove, sdError, gpsJamming, motion, enclosure, gpio, watchdog, unexpectedReboot,
    memoryCritical]

def name : TamperKind → String
  | powerLoss => "power_loss"
  | sdRemove => "sd_remove"
  | sdError => "sd_error"
  | gpsJamming => "gps_jamming"
  | motion => "motion"
  | enclosure => "enclosure"
  | gpio => "gpio"
  | watchdog => "watchdog"
  | unexpectedReboot => "unexpected_reboot"
  | memoryCritical => "memory_critical"

def ofName? (s : String) : Option TamperKind :=
  all.find? fun t => t.name == s

def rank : TamperKind → Nat
  | powerLoss => 0
  | sdRemove => 1
  | sdError => 2
  | gpsJamming => 3
  | motion => 4
  | enclosure => 5
  | gpio => 6
  | watchdog => 7
  | unexpectedReboot => 8
  | memoryCritical => 9

/-- Every kind of tampering is listed. -/
theorem mem_all (t : TamperKind) : t ∈ all := by
  cases t <;> decide

/-- A kind of tampering is found under its name. -/
theorem ofName?_name (t : TamperKind) : ofName? t.name = some t := by
  cases t <;> decide

/-- The rank of a kind of tampering tells which one it is. -/
theorem eq_of_rank {a b : TamperKind} : a.rank = b.rank → a = b := by
  cases a <;> cases b <;> decide

end TamperKind

/-- The links by which a device gets witness data out. -/
inductive Link where
  | wifiAp
  | wifiSta
  | mqtt
  | ble
  | mesh
  | chirp
  deriving DecidableEq, Repr

namespace Link

def all : List Link :=
  [wifiAp, wifiSta, mqtt, ble, mesh, chirp]

/-- The key of a link's entry in a transport report. -/
def name : Link → String
  | wifiAp => "wifi_ap"
  | wifiSta => "wifi_sta"
  | mqtt => "mqtt"
  | ble => "ble"
  | mesh => "mesh"
  | chirp => "chirp"

def ofName? (s : String) : Option Link :=
  all.find? fun l => l.name == s

def rank : Link → Nat
  | wifiAp => 0
  | wifiSta => 1
  | mqtt => 2
  | ble => 3
  | mesh => 4
  | chirp => 5

/-- Every link is listed. -/
theorem mem_all (l : Link) : l ∈ all := by
  cases l <;> decide

/-- A link is found under its name. -/
theorem ofName?_name (l : Link) : ofName? l.name = some l := by
  cases l <;> decide

/-- The rank of a link tells which one it is. -/
theorem eq_of_rank {a b : Link} : a.rank = b.rank → a = b := by
  cases a <;> cases b <;> decide

end Link

end TamperWatch
