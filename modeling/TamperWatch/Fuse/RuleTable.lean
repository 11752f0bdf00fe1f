import TamperWatch.Fuse.Expectation

/-!
# The fuse rule table

The fuses of a device that bear on its security, and what each must hold in the two profiles.
-/

namespace TamperWatch

/-- What one fuse must hold. -/
structure FuseRule where
  name : String
  description : String
  virgin : Expectation
  locked : Expectation
  /-- The fuse is a lockdown bit, which differs between the profiles. -/
  lockdown : Bool

/-- What a rule expects in a profile. -/
def FuseRule.expected (r : FuseRule) : Profile → Expectation
  | .virgin => r.virgin
  | .locked => r.locked

namespace FuseRule

/-- The number of set bits of a 64-bit word. -/
def bitCount (n : Nat) : Nat :=
  ((List.range 64).filter n.testBit).length

/-- The purpose of a key that checks secure boot, apart from its number. -/
def digestPurpose : String := "SECURE_BOOT_DIGEST"

/-- The six fuses that say what a key block is for. -/
def purposeSlots : List String :=
  ["KEY_PURPOSE_0", "KEY_PURPOSE_1", "KEY_PURPOSE_2", "KEY_PURPOSE_3", "KEY_PURPOSE_4",
    "KEY_PURPOSE_5"]

/-- The purposes of keys for flash encryption. -/
def encryptionPurposes : List String :=
  ["XTS_AES_128_KEY", "XTS_AES_256_KEY_1", "XTS_AES_256_KEY_2"]

/-- The ways in which tools write that a key block has no purpose. -/
def unassignedPurposes : List String := ["", "USER", "USER/EMPTY", "0"]

def hasOddBitCount : FuseValue → Bool
  | .int n => 0 ≤ n && bitCount n.toNat % 2 == 1
  | _ => false

def isNonNegative : FuseValue → Bool
  | .int n => 0 ≤ n
  | _ => false

def isUnassigned : FuseValue → Bool
  | .int n => n == 0
  | .text s => unassignedPurposes.contains (Text.trim s).toUpper
  | .notFound => false

def isEncryptionKey : FuseValue → Bool
  | .text s => encryptionPurposes.any (Text.holds s)
  | _ => false

def isBootDigest : FuseValue → Bool
  | .text s => Text.holds s digestPurpose
  | _ => false

/-- A literal number is expected. -/
def exactly (n : Int) : Expectation := .literal (.int n)

/-- The key block must have no purpose. -/
def unassigned : Expectation := .property "unassigned" isUnassigned

/-- Anything will do that can be read. -/
def readable : Expectation := .property "any readable value" FuseValue.isFound

/-- A key block that may get any purpose. -/
def freeSlot (name description : String) : FuseRule :=
  ⟨name, description, unassigned, readable, false⟩

/-- A bit that is burned when the device is locked. -/
def burned (name description : String) : FuseRule :=
  ⟨name, description, exactly 0, exactly 1, true⟩

def bootRules : List FuseRule :=
  [burned "SECURE_BOOT_EN" "Enables Secure Boot v2",
   burned "SECURE_BOOT_AGGRESSIVE_REVOKE" "Aggressive key revocation mode"]

/-- The rules for flash encryption, which is on when its counter has an odd number of bits set. -/
def encryptionRules : List FuseRule :=
  [⟨"SPI_BOOT_CRYPT_CNT", "Flash encryption enable counter", exactly 0,
    .property "odd bit count" hasOddBitCount, true⟩,
   burned "DIS_DOWNLOAD_MANUAL_ENCRYPT" "Disable manual flash encryption in download mode"]

def downloadRules : List FuseRule :=
  [burned "ENABLE_SECURITY_DOWNLOAD" "Restrict ROM download mode to secure commands",
   burned "DIS_DOWNLOAD_MODE" "Disable ROM download mode"]

def debugRules : List FuseRule :=
  [⟨"JTAG_SEL_ENABLE", "JTAG source selection strapping (stays 0)", exactly 0, exactly 0, false⟩,
   ⟨"SOFT_DIS_JTAG", "Software JTAG disable (all three bits)", exactly 0, exactly 7, true⟩,
   burned "DIS_PAD_JTAG" "Disable pad JTAG",
   burned "DIS_USB_JTAG" "Disable USB JTAG",
   ⟨"DIS_USB_SERIAL_JTAG", "Disable USB serial/JTAG controller", exactly 0, readable, false⟩]

def versionRules : List FuseRule :=
  [⟨"SECURE_VERSION", "Secure version for anti-rollback", exactly 0,
    .property "non-negative version" isNonNegative, false⟩]

def keyRules : List FuseRule :=
  [⟨"KEY_PURPOSE_0", "Key block 0 purpose (flash encryption key)", unassigned,
    .property "XTS_AES flash encryption key" isEncryptionKey, true⟩,
   freeSlot "KEY_PURPOSE_1" "Key block 1 purpose",
   freeSlot "KEY_PURPOSE_2" "Key block 2 purpose",
   freeSlot "KEY_PURPOSE_3" "Key block 3 purpose",
   freeSlot "KEY_PURPOSE_4" "Key block 4 purpose",
   freeSlot "KEY_PURPOSE_5" "Key block 5 purpose"]

/-- The rules that every device is checked against. -/
def table : List FuseRule :=
  bootRules ++ encryptionRules ++ downloadRules ++ debugRules ++ versionRules ++ keyRules

end FuseRule

end TamperWatch
