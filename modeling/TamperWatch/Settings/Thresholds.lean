/-!
# Health thresholds

The bounds that turn health readings into signals. All comparisons with them are strict: a reading
equal to its threshold is no breach.
-/

namespace TamperWatch

/-- The bounds for health readings. -/
structure Thresholds where
  /-- Less free heap than this is tampering by exhaustion. -/
  memoryCriticalBytes : Float
  /-- A battery below this makes the health critical. -/
  batteryCriticalPercent : Float
  /-- A battery below this makes the health a warning. -/
  batteryWarningPercent : Float
  /-- Less free memory than this makes the health critical. -/
  memoryFreeCriticalBytes : Float

/-- Ten kilobytes of heap, a tenth and a quarter of the battery, and one kilobyte of memory. -/
def Thresholds.default : Thresholds where
  memoryCriticalBytes := 10000
  batteryCriticalPercent := 10
  batteryWarningPercent := 25
  memoryFreeCriticalBytes := 1024

instance : Inhabited Thresholds := ⟨.default⟩

end TamperWatch
