import TamperWatch.Fuse.Audit
import TamperWatch.Json.Writer

/-!
# Reports on fuses

The two forms of a report: JSON, with members in a fixed order, and a text of lines. Columns of the
text are filled up with blanks, counted in characters; the column of names is as wide as the longest
name has UTF-8 bytes.
-/

namespace TamperWatch

namespace Report

def toolVersion : String := "0.2.0"

def identityJson : Option DeviceIdentity → Json
  | none => .null
  | some identity => .object
      [("chip_model", .ofText? identity.chipModel),
       ("chip_revision", .ofText? identity.chipRevision),
       ("mac_address", .ofText? identity.macAddress),
       ("chip_id", .ofText? identity.chipId)]

def timeJson (t : Stamp) : Json := .string (t.render "Z")

/-- A text filled up with blanks to a width. -/
def column (width : Nat) (s : String) : String :=
  s ++ String.ofList (List.replicate (width - s.length) ' ')

/-- The line above and below a title. -/
def ruler : String := String.ofList (List.replicate 72 '=')

/-- The head of a report. -/
def headLines (title : String) (now : Stamp) : List String :=
  [ruler, "  " ++ title, "  efuse-verify v" ++ toolVersion ++ "  " ++ now.render "+00:00", ruler]

/-- A line for a field of the identity that is given. -/
def identityLine (label : String) (value : Option String) : List String :=
  match value with
  | some s => ["  " ++ column 12 label ++ " " ++ s]
  | none => []

/-- The lines on the device and an empty one, if anything is said about it. -/
def identityLines : Option DeviceIdentity → List String
  | none => []
  | some identity =>
    identityLine "Chip model" identity.chipModel ++
      identityLine "Revision" identity.chipRevision ++
      identityLine "MAC" identity.macAddress ++
      identityLine "Chip ID" identity.chipId ++ [""]

/-- Lines as a text, each with its end. -/
def unlines (lines : List String) : String :=
  String.join (lines.map (· ++ "\n"))

end Report

open Report

def Check.toJson (c : Check) : Json :=
  .object
    [("name", .string c.name),
     ("description", .string c.description),
     ("expected", c.expected.toJson),
     ("actual", c.actual.toJson),
     ("passed", .bool c.passed)]

/-- The line of a check, its name filled up to a width. -/
def Check.line (width : Nat) (c : Check) : String :=
  "  [" ++ (if c.passed then "PASS" else "FAIL") ++ "] " ++ column width c.name ++ "  expected " ++
    column 24 c.expected.display ++ " actual " ++ c.actual.display

/-- The line of a check that failed. -/
def Check.failureLine (c : Check) : String :=
  "    - " ++ c.name ++ ": " ++ c.description ++ " (expected " ++ c.expected.display ++ ", got " ++
    c.actual.display ++ ")"

namespace AuditReport

def toJson (r : AuditReport) : Json :=
  .object
    [("tool_version", .string toolVersion),
     ("generated_at", timeJson r.generatedAt),
     ("mode", .string r.profile.name),
     ("identity", identityJson r.identity),
     ("checks", .array (r.checks.map Check.toJson)),
     ("overall_pass", .bool r.passes),
     ("efuse_summary", r.attributes.toJson)]

/-- The width of the column of names. -/
def nameWidth (r : AuditReport) : Nat :=
  (r.checks.map (·.name.utf8ByteSize)).foldl max 0

/-- The lines with the verdict and, if it is not good, the checks that failed. -/
def verdictLines (r : AuditReport) : List String :=
  let total := toString r.checks.length
  match r.failures with
  | [] => ["  RESULT: PASS (" ++ total ++ " checks)"]
  | failed =>
    ("  RESULT: FAIL (" ++ toString failed.length ++ " of " ++ total ++ " checks failed)") ::
      failed.map Check.failureLine

def lines (r : AuditReport) : List String :=
  headLines ("eFuse verification (" ++ r.profile.name ++ " mode)") r.generatedAt ++
    identityLines r.identity ++ r.checks.map (Check.line r.nameWidth) ++ "" :: r.verdictLines

def render (r : AuditReport) : String :=
  unlines r.lines

end AuditReport

namespace FuseListing

def toJson (l : FuseListing) : Json :=
  .object
    [("tool_version", .string toolVersion),
     ("generated_at", timeJson l.generatedAt),
     ("status", .string "info"),
     ("identity", identityJson l.identity),
     ("security", .array (l.fuses.map fun f => .object
       [("name", .string f.name), ("description", .string f.description),
        ("value", f.value.toJson)])),
     ("efuse_summary", l.attributes.toJson)]

def lines (l : FuseListing) : List String :=
  headLines "Security eFuse summary" l.generatedAt ++ identityLines l.identity ++
    l.fuses.map (fun f => "  " ++ column 30 f.name ++ " = " ++ f.value.display) ++
    ["", "  RESULT: INFO (no verification mode selected)"]

def render (l : FuseListing) : String :=
  unlines l.lines

end FuseListing

end TamperWatch
