import TamperWatch.Fuse.Attributes
import TamperWatch.Fuse.RuleTable
import TamperWatch.Time.Stamp

/-!
# Fuse audits

Checking the fuses of a device against a profile, and listing them without a profile. An audit never
fails as such: a fuse that is missing or unreadable fails its check. Main statement: an unreadable
fuse fails whatever is expected of it (`passed_of_notFound`).
-/

namespace TamperWatch

/-- What the caller says about the device; nothing of it is interpreted. -/
structure DeviceIdentity where
  chipModel : Option String := none
  chipRevision : Option String := none
  macAddress : Option String := none
  chipId : Option String := none
  deriving DecidableEq, Repr

/-- The caller says something about the device. -/
def DeviceIdentity.isGiven (identity : DeviceIdentity) : Bool :=
  identity.chipModel.isSome || identity.chipRevision.isSome || identity.macAddress.isSome ||
    identity.chipId.isSome

/-- The outcome of one rule. -/
structure Check where
  name : String
  description : String
  expected : Expectation
  actual : FuseValue
  passed : Bool

/-- The outcome of an audit. -/
structure AuditReport where
  generatedAt : Stamp
  profile : Profile
  identity : Option DeviceIdentity
  checks : List Check
  /-- Every fuse as it was read. -/
  attributes : FuseAttributes

namespace AuditReport

def passes (r : AuditReport) : Bool :=
  r.checks.all (·.passed)

/-- The checks that failed, in their order. -/
def failures (r : AuditReport) : List Check :=
  r.checks.filter (!·.passed)

def passedCount (r : AuditReport) : Nat :=
  r.checks.countP (·.passed)

def check? (r : AuditReport) (name : String) : Option Check :=
  r.checks.find? (·.name == name)

/-- The exit status that tells whether every check passed. -/
def exitStatus (r : AuditReport) : Nat :=
  if r.passes then 0 else 1

end AuditReport

/-- One fuse of a listing. -/
structure ListedFuse where
  name : String
  description : String
  value : FuseValue

/-- The fuses that bear on security, without a verdict. -/
structure FuseListing where
  generatedAt : Stamp
  identity : Option DeviceIdentity
  fuses : List ListedFuse
  /-- Every fuse as it was read. -/
  attributes : FuseAttributes

namespace Audit

/-- The check of one rule. -/
def checkRule (attributes : FuseAttributes) (profile : Profile) (rule : FuseRule) : Check :=
  let expected := rule.expected profile
  let actual := attributes.read rule.name
  ⟨rule.name, rule.description, expected, actual, actual.isFound && expected.accepts actual⟩

/-- The key blocks whose purpose could be read. -/
def readableSlots (attributes : FuseAttributes) : List (String × FuseValue) :=
  FuseRule.purposeSlots.filterMap fun slot =>
    let v := attributes.read slot
    if v.isFound then some (slot, v) else none

/-- A key block and its purpose as a text. -/
def slotText (slot : String × FuseValue) : String :=
  slot.1 ++ "=" ++ slot.2.display

/-- What the digest check shows: the first block with a digest, or all blocks if there is none. -/
def digestActual (slots : List (String × FuseValue)) : FuseValue :=
  match slots.find? fun slot => FuseRule.isBootDigest slot.2 with
  | some slot => .text (slotText slot)
  | none =>
    if slots.isEmpty then .notFound else .text (", ".intercalate (slots.map slotText))

/-- The name of the check over all key blocks. -/
def digestCheckName : String := "SECURE_BOOT_DIGEST_ASSIGNED"

/-- What the check over all key blocks expects. -/
def digestExpectation : Expectation :=
  .property "any KEY_PURPOSE_n contains SECURE_BOOT_DIGEST" FuseRule.isBootDigest

/-- The check that some key block holds a digest for secure boot. -/
def checkDigest (attributes : FuseAttributes) : Check :=
  let slots := readableSlots attributes
  { name := digestCheckName
    description := "At least one key block holds a " ++ FuseRule.digestPurpose ++ " purpose"
    expected := digestExpectation
    actual := digestActual slots
    passed := slots.any fun slot => FuseRule.isBootDigest slot.2 }

/-- The checks of a profile: one for each rule, and for a locked device one over all key blocks. -/
def checks (rules : List FuseRule) (attributes : FuseAttributes) (profile : Profile) :
    List Check :=
  rules.map (checkRule attributes profile) ++
    match profile with
    | .virgin => []
    | .locked => [checkDigest attributes]

/-- Checks the fuses of a device against a profile. -/
def verify (rules : List FuseRule) (attributes : FuseAttributes) (profile : Profile)
    (identity : Option DeviceIdentity) (now : Stamp) : AuditReport :=
  ⟨now, profile, identity.filter (·.isGiven), checks rules attributes profile, attributes⟩

/-- Lists the fuses of a device without checking them. -/
def list (rules : List FuseRule) (attributes : FuseAttributes) (identity : Option DeviceIdentity)
    (now : Stamp) : FuseListing :=
  ⟨now, identity.filter (·.isGiven),
    rules.map fun rule => ⟨rule.name, rule.description, attributes.read rule.name⟩, attributes⟩

/-- A fuse that was not found fails its check, whatever is expected of it. -/
theorem passed_of_notFound {attributes : FuseAttributes} {profile : Profile} {rule : FuseRule}
    (h : attributes.read rule.name = .notFound) :
    (checkRule attributes profile rule).passed = false := by
  simp [checkRule, h, FuseValue.isFound]

end Audit

end TamperWatch
