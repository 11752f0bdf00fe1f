import TamperWatch.Settings.Thresholds
import TamperWatch.Telemetry.Rule

/-!
# The rule catalogue

The rules of every category. Tamper indicators arrive in two ways: as events of their own, and as
fields of a health report; both feed the same signals. Main statements: the kinds that a category
may write strictly ascend (`affected_ascending`) and are those of its rules (`mem_affected_iff`).
-/

namespace TamperWatch.Catalogue

/-- A field with a default, copied into an attribute. -/
def copyOr (name : String) (paths : List String) (default : Json) : AttributeSource :=
  ⟨name, ⟨paths⟩, some default⟩

/-- A field copied into an attribute where it is present. -/
def copy (name : String) (path : String) : AttributeSource :=
  ⟨name, .one path, none⟩

/-- The field is true; a field that is absent is not. -/
def present (paths : List String) : Condition :=
  .truthy ⟨paths⟩ false

/-- The status tokens of a device that is online. -/
def onlineTokens : List String := ["online", "1", "true", "connected"]

/-- The fields of a health report that show a kind of tampering. -/
def healthTamper (t : Thresholds) : TamperKind → Condition
  | .sdRemove => .presentFalsy (.one "sd_mounted")
  | .sdError => .moreThan (.one "sd_errors") 0
  | .gpsJamming => .any [present ["gps_fix_lost"], present ["gps_jamming"]]
  | .motion => .any [present ["tamper.motion"], present ["unexpected_motion"]]
  | .memoryCritical => .lessThan (.one "free_heap") t.memoryCriticalBytes
  | .watchdog => present ["watchdog_triggered"]
  | .gpio => .any [present ["tamper.gpio"], present ["tamper_gpio"]]
  | .unexpectedReboot => present ["unexpected_reboot"]
  | .powerLoss => present ["power_loss_detected"]
  | .enclosure => .any [present ["tamper.enclosure"], present ["enclosure_open"]]

/-- A tamper event is of a kind: its type says so, or a field of that name is true. -/
def eventTamper (kind : TamperKind) : Condition :=
  .any [.equals (.one "type") kind.name, present [kind.name]]

/-- A health report shows some tampering; its field `tamper` is a flag or an object of flags. -/
def healthAnyTamper (t : Thresholds) : Condition :=
  .any (.asserted ⟨["tamper_detected", "tamper"]⟩ :: TamperKind.all.map (healthTamper t))

/-- The bounds between the health levels. -/
def levelBounds (t : Thresholds) : LevelBounds :=
  ⟨t.batteryCriticalPercent, t.batteryWarningPercent, t.memoryFreeCriticalBytes⟩

def statusRules : List Rule :=
  [⟨.online,
    .flag (.any [present ["online", "connected"], .oneOf ⟨["status", "state"]⟩ onlineTokens]), []⟩]

/-- The rules of hash chain reports. A chain counts as valid until a report says otherwise. -/
def chainRules : List Rule :=
  [⟨.chainValid, .flag (.truthy ⟨["valid", "integrity"]⟩ true),
    [copyOr "chain_length" ["length", "chain_length"] (.int 0),
     copyOr "latest_hash" ["latest_hash"] (.string ""),
     copyOr "verification_error" ["error"] .null]⟩,
   ⟨.chainLength, .count ⟨["length", "chain_length"]⟩,
    [copyOr "latest_hash" ["latest_hash"] (.string ""),
     copyOr "algorithm" ["algorithm"] (.string "ed25519")]⟩]

def healthRules (t : Thresholds) : List Rule :=
  ⟨.anyTamper, .flag (healthAnyTamper t), []⟩ ::
    TamperKind.all.map (fun kind => ⟨.tamper kind, .flag (healthTamper t kind), []⟩) ++
    [⟨.healthStatus, .healthLevel (levelBounds t),
      [copyOr "battery_percent" ["battery"] (.int 100),
       copy "memory_free_bytes" "memory_free",
       copyOr "uptime_seconds" ["uptime"] (.int 0),
       copyOr "firmware_version" ["firmware_version"] (.string ""),
       copyOr "public_key" ["public_key"] (.string "")]⟩,
     ⟨.gpsFix, .gpsFix,
      [copy "satellites" "gps.satellites",
       copy "hdop" "gps.hdop",
       copy "latitude" "gps.latitude",
       copy "longitude" "gps.longitude"]⟩]

/-- The rules of tamper events. Every event means that something was tampered with. -/
def tamperRules : List Rule :=
  ⟨.anyTamper, .flag .always,
    [copyOr "tamper_type" ["type"] (.string "unknown"),
     copyOr "timestamp" ["timestamp"] (.string ""),
     copyOr "detail" ["detail"] (.string "")]⟩ ::
    TamperKind.all.map fun kind =>
      ⟨.tamper kind, .flag (eventTamper kind),
        [copyOr "detail" ["detail"] (.string ""),
         copyOr "severity" ["severity"] (.string "tamper")]⟩

def transportRules : List Rule :=
  Link.all.map fun link =>
    ⟨.transport link, .link link.name,
      [copy "rssi" (link.name ++ ".rssi"),
       copy "message_count" (link.name ++ ".messages"),
       copy "error_count" (link.name ++ ".errors"),
       copy "last_activity" (link.name ++ ".last_activity")]⟩

def meshRules : List Rule :=
  [⟨.meshConnected, .flag (.moreThan ⟨["peer_count", "peers"]⟩ 0),
    [copy "peer_count" "peer_count",
     copyOr "peers" ["peers"] (.array []),
     copyOr "messages_sent" ["sent"] (.int 0),
     copyOr "messages_received" ["received"] (.int 0),
     copyOr "relay_count" ["relayed"] (.int 0)]⟩]

def chirpRules : List Rule :=
  [⟨.chirpActive, .flag (.all [present ["enabled"], present ["ready"]]),
    [copyOr "session_emoji" ["session_id"] (.string ""),
     copyOr "cooldown_tier" ["cooldown_tier"] (.int 0),
     copyOr "presence_minutes" ["presence_minutes"] (.int 0),
     copyOr "can_broadcast" ["can_broadcast"] (.bool false),
     copyOr "alerts_sent" ["sent"] (.int 0),
     copyOr "alerts_received" ["received"] (.int 0),
     copyOr "confirmations_given" ["confirmed"] (.int 0)]⟩]

def countsRules : List Rule :=
  [⟨.witnessCount, .count ⟨["total", "count"]⟩, []⟩]

def eventsRules : List Rule :=
  [⟨.lastEvent, .text ⟨["event_type", "type"]⟩ "unknown",
    [copyOr "timestamp" ["timestamp"] (.string ""),
     copyOr "zone" ["zone"] (.string ""),
     copyOr "confidence" ["confidence"] (.string ""),
     copyOr "signed" ["signed"] (.bool false)]⟩]

/-- The rules of a category, in the order in which they are applied. -/
def rules (t : Thresholds) : Category → List Rule
  | .status => statusRules
  | .chain => chainRules
  | .health => healthRules t
  | .tamper => tamperRules
  | .transport => transportRules
  | .mesh => meshRules
  | .chirp => chirpRules
  | .counts => countsRules
  | .events => eventsRules

/-- The kinds that a category may write, in their order. -/
def affected (t : Thresholds) (category : Category) : List SignalKind :=
  (SortedMap.ofKeys ((rules t category).map (·.kind))).keys

/-- The updates that a payload makes, in the order of the rules. -/
def updates (t : Thresholds) (category : Category) (o : Json.Members) : List Update :=
  (rules t category).filterMap (·.evaluate o)

/-- The affected signals are in ascending order. -/
theorem affected_ascending (t : Thresholds) (category : Category) :
    (affected t category).Pairwise fun a b => compare a b = .lt :=
  SortedMap.keys_ascending _

/-- The affected signals are those that some rule is for. -/
theorem mem_affected_iff {t : Thresholds} {category : Category} {k : SignalKind} :
    k ∈ affected t category ↔ ∃ r ∈ rules t category, r.kind = k := by
  simp [affected, SortedMap.mem_keys_ofKeys]

/-- An update is of an affected signal. -/
theorem kind_mem_affected {t : Thresholds} {category : Category} {o : Json.Members} {u : Update}
    (h : u ∈ updates t category o) : u.kind ∈ affected t category := by
  obtain ⟨r, hr, he⟩ := List.mem_filterMap.1 h
  exact mem_affected_iff.2 ⟨r, hr, (Rule.kind_of_evaluate he).symm⟩

end TamperWatch.Catalogue
