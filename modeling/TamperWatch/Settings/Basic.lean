import TamperWatch.Decimal.Layout
import TamperWatch.Json.Basic
import TamperWatch.Settings.Thresholds
import TamperWatch.Text.Blank

/-!
# Settings

What the tools can be configured with, the defaults, and which settings are refused.
-/

namespace TamperWatch

/-- What is logged. -/
structure LoggingSettings where
  level : String := "info"
  /-- Log lines are JSON objects. -/
  json : Bool := false

/-- How telemetry is routed and judged. -/
structure TelemetrySettings where
  /-- The first part of all topics. -/
  topicRoot : String := "securacv"
  thresholds : Thresholds := .default

/-- How fuses are verified. -/
structure VerifierSettings where
  /-- The profile expected where the command line names none. -/
  defaultProfile : String := "virgin"

/-- The settings of both tools. -/
structure Settings where
  logging : LoggingSettings := {}
  telemetry : TelemetrySettings := {}
  verifier : VerifierSettings := {}

instance : Inhabited Settings := ⟨{}⟩

/-- Why settings are refused. -/
inductive SettingsError where
  /-- The document is no TOML, or a setting has the wrong type. -/
  | unreadable
  | emptyTopicRoot
  | warningBelowCritical (warning critical : Float)
  | negativeMemory
  deriving DecidableEq

def SettingsError.message : SettingsError → String
  | unreadable => "TOML error:"
  | emptyTopicRoot => "Configuration error: telemetry.topic_prefix must not be empty"
  | warningBelowCritical warning critical =>
    let text := Decimal.Layout.plain.write
    "Configuration error: battery_warning_percent (" ++ text warning ++
      ") is below battery_critical_percent (" ++ text critical ++ ")"
  | negativeMemory => "Configuration error: memory thresholds must be non-negative"

/-- Accepts settings that leave classification a meaning. -/
def Settings.validate (s : Settings) : Except SettingsError Settings :=
  let t := s.telemetry.thresholds
  if Text.strip (· == '/') s.telemetry.topicRoot = "" then .error .emptyTopicRoot
  else if t.batteryWarningPercent < t.batteryCriticalPercent then
    .error (.warningBelowCritical t.batteryWarningPercent t.batteryCriticalPercent)
  else if t.memoryCriticalBytes < 0 ∨ t.memoryFreeCriticalBytes < 0 then .error .negativeMemory
  else .ok s

def Settings.toJson (s : Settings) : Json :=
  let real (x : Float) : Json := .number (.real x)
  let t := s.telemetry.thresholds
  .object
    [("logging", .object
       [("level", .string s.logging.level), ("json", .bool s.logging.json)]),
     ("telemetry", .object
       [("topic_prefix", .string s.telemetry.topicRoot),
        ("thresholds", .object
          [("memory_critical_bytes", real t.memoryCriticalBytes),
           ("battery_critical_percent", real t.batteryCriticalPercent),
           ("battery_warning_percent", real t.batteryWarningPercent),
           ("memory_free_critical_bytes", real t.memoryFreeCriticalBytes)])]),
     ("verifier", .object [("default_mode", .string s.verifier.defaultProfile)])]

end TamperWatch
