import TamperWatch.Proofs.Data.FloatOrder
import TamperWatch.Proofs.Telemetry.Catalogue

/-!
# Worse readings and worse health

A health report is judged by comparing three readings with thresholds, in an order of precedence and
with defaults for what is not reported. All comparisons ask whether a reading is below a threshold,
so a lower reading breaches every threshold that a higher one does (`Json.isBelow_of_le`), and one
that is equal to its threshold breaches nothing (`Json.not_isBelow_of_beq`). Neither the order of
the thresholds nor a threshold that is no number matters for that. Main statement: a report with no
better readings is judged no better (`Catalogue.health_monotone`).
-/

namespace TamperWatch

namespace Json

/-- The number that an object reports under a key, if it reports one. -/
def reading? (o : Members) (key : String) : Option Float :=
  (o.lookup key).bind asNumber?

/-- A reading is there and is below a bound. -/
def isBelow (r : Option Float) (bound : Float) : Bool :=
  r.any fun x => decide (x < bound)

/-- A reading is below a bound if there is one and it is. -/
lemma isBelow_iff {r : Option Float} {bound : Float} :
    isBelow r bound = true ↔ ∃ x, r = some x ∧ x < bound := by
  cases r <;> simp [isBelow]

/-- A lower reading is below every bound that a higher one is below. -/
lemma isBelow_of_le {r r' : Option Float} {bound : Float}
    (h : ∀ y, r' = some y → ∃ x, r = some x ∧ x ≤ y) (hlow : isBelow r' bound = true) :
    isBelow r bound = true := by
  obtain ⟨y, hy, hlt⟩ := isBelow_iff.1 hlow
  obtain ⟨x, hx, hle⟩ := h y hy
  exact isBelow_iff.2 ⟨x, hx, FloatOrder.lt_of_le_of_lt hle hlt⟩

/-- A reading that is equal to a bound is not below it. -/
lemma not_isBelow_of_beq {r : Option Float} {x bound : Float} (hx : r = some x)
    (h : (x == bound) = true) : isBelow r bound = false := by
  rw [hx]
  exact decide_eq_false (FloatOrder.not_lt_of_beq h)

end Json

open Json (Members reading? isBelow)

/-- How bad a health level is. -/
def HealthLevel.severity : HealthLevel → Nat
  | healthy => 0
  | warning => 1
  | critical => 2

/-- One level is no worse than another exactly if it is critical or unhealthy only where that is. -/
lemma HealthLevel.severity_le_iff {level level' : HealthLevel} :
    level'.severity ≤ level.severity ↔
      (level' = critical → level = critical) ∧ (level' ≠ healthy → level ≠ healthy) := by
  cases level <;> cases level' <;> decide

/-- The readings of the first report are no better than those of the second. The battery counts as
full where it is not reported as a number; each reading of memory that the second report has the
first one has too. -/
structure NoBetter (o o' : Members) : Prop where
  battery : (reading? o "battery").getD 100 ≤ (reading? o' "battery").getD 100
  memory : ∀ key ∈ ["memory_free", "free_heap"], ∀ y, reading? o' key = some y →
    ∃ x, reading? o key = some x ∧ x ≤ y

namespace LevelBounds

variable {b : LevelBounds} {o o' : Members}

/-- The level is critical exactly if the battery or the memory is below its critical bound. -/
lemma level_eq_critical_iff :
    b.level o = .critical ↔
      battery o < b.batteryCritical ∨ isBelow (reading? o "memory_free") b.memoryFreeCritical := by
  unfold level
  split
  case isTrue h => exact iff_of_true rfl h
  case isFalse h =>
    refine iff_of_false ?_ h
    split <;> exact nofun

/-- The level is not healthy exactly if it is critical or the battery is below the warning bound. -/
lemma level_ne_healthy_iff :
    b.level o ≠ .healthy ↔ b.level o = .critical ∨ battery o < b.batteryWarning := by
  unfold level
  split
  case isTrue => exact iff_of_true nofun (.inl rfl)
  case isFalse =>
    split
    case isTrue h => exact iff_of_true nofun (.inr h)
    case isFalse h => exact iff_of_false (fun hne => hne rfl) (not_or.2 ⟨nofun, h⟩)

/-- No better readings give no better level, whatever the bounds are. -/
lemma severity_le_of_noBetter (h : NoBetter o o') :
    (b.level o').severity ≤ (b.level o).severity := by
  have hbattery : ∀ {bound : Float}, battery o' < bound → battery o < bound :=
    FloatOrder.lt_of_le_of_lt h.battery
  have hcritical : b.level o' = .critical → b.level o = .critical := by
    rw [level_eq_critical_iff, level_eq_critical_iff]
    exact Or.imp hbattery (Json.isBelow_of_le (h.memory _ (by simp)))
  refine HealthLevel.severity_le_iff.2 ⟨hcritical, ?_⟩
  rw [level_ne_healthy_iff, level_ne_healthy_iff]
  exact Or.imp hcritical hbattery

/-- A charge at the critical bound is critical only for lack of memory. -/
lemma level_eq_critical_iff_of_battery {x : Float} (hx : reading? o "battery" = some x)
    (h : (x == b.batteryCritical) = true) :
    b.level o = .critical ↔ isBelow (reading? o "memory_free") b.memoryFreeCritical = true := by
  have hbattery : battery o = x := congrArg (·.getD 100) hx
  rw [level_eq_critical_iff, hbattery, or_iff_right (FloatOrder.not_lt_of_beq h)]

/-- A charge at the bound for warnings is no mere warning. -/
lemma level_ne_warning_of_battery {x : Float} (hx : reading? o "battery" = some x)
    (h : (x == b.batteryWarning) = true) : b.level o ≠ .warning := by
  intro hwarning
  have hne : b.level o ≠ .healthy := by
    rw [hwarning]
    exact nofun
  have hbattery : battery o = x := congrArg (·.getD 100) hx
  rw [level_ne_healthy_iff, hwarning, hbattery] at hne
  exact hne.elim nofun (FloatOrder.not_lt_of_beq h)

/-- Free memory at its bound is critical only for lack of charge. -/
lemma level_eq_critical_iff_of_memory {x : Float} (hx : reading? o "memory_free" = some x)
    (h : (x == b.memoryFreeCritical) = true) :
    b.level o = .critical ↔ battery o < b.batteryCritical := by
  rw [level_eq_critical_iff, Json.not_isBelow_of_beq hx h, or_iff_left Bool.false_ne_true]

end LevelBounds

namespace Catalogue

/-- A health report gives the level as the health status. -/
lemma value_update?_healthStatus (t : Thresholds) (o : Members) :
    (update? t .health .healthStatus o).map (·.value) =
      some (.text ((levelBounds t).level o).name) := rfl

/-- A health report gives the critical memory as a flag. -/
lemma value_update?_memoryCritical (t : Thresholds) (o : Members) :
    (update? t .health (.tamper .memoryCritical) o).map (·.value) =
      some (.flag ((healthTamper t .memoryCritical).holds o)) := rfl

/-- The memory is critical exactly if the free heap is below the bound. -/
lemma holds_memoryCritical (t : Thresholds) (o : Members) :
    (healthTamper t .memoryCritical).holds o =
      isBelow (reading? o "free_heap") t.memoryCriticalBytes := by
  have hfield : (Field.one "free_heap").find? o = o.lookup "free_heap" := find?_one (by decide) o
  unfold healthTamper Condition.holds
  rw [hfield]
  rfl

/-- A health report with no better readings is judged no better, under any thresholds: its health
status is at least as severe, and if the other report shows exhausted memory then so does this one.
A reading that is equal to its threshold breaches nothing: a charge at the critical threshold is
critical only for lack of memory, one at the warning threshold is no mere warning, free memory at
its threshold is critical only for lack of charge, and a heap at its threshold is not exhausted. -/
theorem health_monotone (t : Thresholds) :
    let level := (levelBounds t).level
    let exhausted := (healthTamper t .memoryCritical).holds
    (∀ o, (update? t .health .healthStatus o).map (·.value) = some (.text (level o).name) ∧
      (update? t .health (.tamper .memoryCritical) o).map (·.value) = some (.flag (exhausted o))) ∧
    (∀ o o', NoBetter o o' →
      (level o').severity ≤ (level o).severity ∧ (exhausted o' = true → exhausted o = true)) ∧
    (∀ o x, reading? o "battery" = some x → (x == t.batteryCriticalPercent) = true →
      (level o = .critical ↔
        ∃ m, reading? o "memory_free" = some m ∧ m < t.memoryFreeCriticalBytes)) ∧
    (∀ o x, reading? o "battery" = some x → (x == t.batteryWarningPercent) = true →
      level o ≠ .warning) ∧
    (∀ o x, reading? o "memory_free" = some x → (x == t.memoryFreeCriticalBytes) = true →
      (level o = .critical ↔ (reading? o "battery").getD 100 < t.batteryCriticalPercent)) ∧
    ∀ o x, reading? o "free_heap" = some x → (x == t.memoryCriticalBytes) = true →
      exhausted o = false := by
  intro level exhausted
  have hexhausted : ∀ o, exhausted o = isBelow (reading? o "free_heap") t.memoryCriticalBytes :=
    holds_memoryCritical t
  refine ⟨fun o => ⟨?_, ?_⟩, fun o o' h => ⟨?_, ?_⟩, fun o x hx heq => ?_, fun o x hx heq => ?_,
    fun o x hx heq => ?_, fun o x hx heq => ?_⟩
  · exact value_update?_healthStatus t o
  · exact value_update?_memoryCritical t o
  · exact LevelBounds.severity_le_of_noBetter h
  · rw [hexhausted, hexhausted]
    exact Json.isBelow_of_le (h.memory _ (by simp))
  · rw [← Json.isBelow_iff]
    exact LevelBounds.level_eq_critical_iff_of_battery hx heq
  · exact LevelBounds.level_ne_warning_of_battery hx heq
  · exact LevelBounds.level_eq_critical_iff_of_memory hx heq
  · rw [hexhausted, Json.not_isBelow_of_beq hx heq]

/-- A flat battery reported as a truth value and memory as empty lists, against a report with a
charge at the critical threshold and without free memory. -/
theorem health_monotone_odd_readings :
    let o : Members :=
      [("battery", .bool false), ("free_heap", .array []), ("memory_free", .bool true)]
    let o' : Members := [("battery", .int 10), ("free_heap", .int 9999)]
    let level := (levelBounds .default).level
    NoBetter o o' ∧ level o = .critical ∧ (level o').severity ≤ (level o).severity ∧
      (healthTamper .default .memoryCritical).holds o = true ∧ level o' ≠ .critical := by
  intro o o' level
  obtain ⟨-, hmonotone, hbattery, -⟩ := health_monotone .default
  have hworse : NoBetter o o' := by
    refine ⟨by decide +kernel, fun key hkey y hy => ?_⟩
    rcases List.mem_pair.1 hkey with rfl | rfl
    · cases hy
    · refine ⟨0, by decide +kernel, ?_⟩
      obtain rfl : (9999 : Float) = y := Option.some.inj hy
      decide +kernel
  obtain ⟨hseverity, hexhausted⟩ := hmonotone o o' hworse
  refine ⟨hworse, by decide +kernel, hseverity, hexhausted (by decide +kernel), fun hcritical => ?_⟩
  obtain ⟨m, hm, -⟩ := (hbattery o' 10 rfl (by decide +kernel)).1 hcritical
  cases hm

end Catalogue

end TamperWatch
