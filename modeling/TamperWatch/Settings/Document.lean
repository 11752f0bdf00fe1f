import TamperWatch.Settings.Basic
import TamperWatch.Toml.Document

/-!
# Settings documents

Settings from a TOML document. What a document leaves out keeps its default, and what it says beyond
the settings does not count. A group of settings is a table; it may also be an array, whose items
are the settings in their order, and a date says nothing about any.
-/

namespace TamperWatch.Settings

/-- The settings that a value gives for a group with the given names. -/
def group? (names : List String) : Toml.Value → Option (List (String × Toml.Value))
  | .table entries => some entries
  | .array items => some (names.zip items)
  | .datetime => some []
  | .string _ | .integer _ | .float _ | .boolean _ => none

/-- A setting, or its default where the group does not give it. -/
def setting? (group : List (String × Toml.Value)) (name : String) (default : α)
    (read : Toml.Value → Option α) : Option α :=
  match group.lookup name with
  | none => some default
  | some v => read v

def text? : Toml.Value → Option String
  | .string s => some s
  | _ => none

def truth? : Toml.Value → Option Bool
  | .boolean b => some b
  | _ => none

def number? : Toml.Value → Option Float
  | .float x => some x
  | .integer n => some (Float.ofInt n)
  | _ => none

def logging? (v : Toml.Value) : Option LoggingSettings := do
  let default : LoggingSettings := {}
  let group ← group? ["level", "json"] v
  return {
    level := ← setting? group "level" default.level text?
    json := ← setting? group "json" default.json truth? }

/-- The thresholds for health readings. -/
def thresholds? (v : Toml.Value) : Option Thresholds := do
  let default := Thresholds.default
  let group ← group?
    ["memory_critical_bytes", "battery_critical_percent", "battery_warning_percent",
      "memory_free_critical_bytes"] v
  return {
    memoryCriticalBytes :=
      ← setting? group "memory_critical_bytes" default.memoryCriticalBytes number?
    batteryCriticalPercent :=
      ← setting? group "battery_critical_percent" default.batteryCriticalPercent number?
    batteryWarningPercent :=
      ← setting? group "battery_warning_percent" default.batteryWarningPercent number?
    memoryFreeCriticalBytes :=
      ← setting? group "memory_free_critical_bytes" default.memoryFreeCriticalBytes number? }

def telemetry? (v : Toml.Value) : Option TelemetrySettings := do
  let default : TelemetrySettings := {}
  let group ← group? ["topic_prefix", "thresholds"] v
  return {
    topicRoot := ← setting? group "topic_prefix" default.topicRoot text?
    thresholds := ← setting? group "thresholds" default.thresholds thresholds? }

def verifier? (v : Toml.Value) : Option VerifierSettings := do
  let default : VerifierSettings := {}
  let group ← group? ["default_mode"] v
  return { defaultProfile := ← setting? group "default_mode" default.defaultProfile text? }

/-- The settings that the entries of a document give, before they are judged. -/
def ofEntries? (entries : List (String × Toml.Value)) : Option Settings := do
  let default : Settings := {}
  return {
    logging := ← setting? entries "logging" default.logging logging?
    telemetry := ← setting? entries "telemetry" default.telemetry telemetry?
    verifier := ← setting? entries "verifier" default.verifier verifier? }

/-- The settings of a TOML document, if they are acceptable. -/
def ofToml (text : String) : Except SettingsError Settings :=
  match (Toml.parse text).bind ofEntries? with
  | none => .error .unreadable
  | some s => s.validate

end TamperWatch.Settings
