import TamperWatch.Proofs.Data.FloatOrder
import TamperWatch.Settings.Document
import TamperWatch.Telemetry.Catalogue

/-!
# Settings that are accepted

Settings are refused for an empty root of the topics and for thresholds that compare the wrong way
(`Settings.validate_eq_ok_iff`). A threshold that is not a number compares neither way, so it is
accepted too. Main statement: thresholds that are accepted compare the right way exactly if they are
numbers (`Settings.accepted_meaningful_iff`).
-/

namespace TamperWatch

namespace Settings

/-- Settings are accepted unless their root is empty or a comparison of thresholds refuses them. -/
lemma validate_eq_ok_iff {s s' : Settings} :
    s.validate = .ok s' ↔ s' = s ∧ Text.strip (· == '/') s.telemetry.topicRoot ≠ "" ∧
      ¬s.telemetry.thresholds.batteryWarningPercent <
        s.telemetry.thresholds.batteryCriticalPercent ∧
      ¬s.telemetry.thresholds.memoryCriticalBytes < 0 ∧
      ¬s.telemetry.thresholds.memoryFreeCriticalBytes < 0 := by
  unfold validate
  dsimp only
  split
  case isTrue hroot => simp [hroot]
  case isFalse hroot =>
    split
    case isTrue hbattery => simp [hbattery]
    case isFalse hbattery =>
      split
      case isTrue hmemory =>
        constructor
        · exact nofun
        · rintro ⟨-, -, -, hcritical, hfree⟩
          exact absurd hmemory (not_or.2 ⟨hcritical, hfree⟩)
      case isFalse hmemory =>
        rw [not_or] at hmemory
        simp [hroot, hbattery, hmemory, eq_comm]

/-- Settings that were read are valid. -/
lemma validate_of_ofToml {text : String} {s : Settings} (h : ofToml text = .ok s) :
    s.validate = .ok s := by
  unfold ofToml at h
  split at h
  case h_1 => cases h
  case h_2 read hread =>
    obtain ⟨rfl, -⟩ := validate_eq_ok_iff.1 h
    exact h

end Settings

/-- Without a number for its bound, the heap is never found to be exhausted. -/
lemma Catalogue.healthTamper_memoryCritical_of_isNaN {t : Thresholds}
    (h : t.memoryCriticalBytes.isNaN = true) (o : Json.Members) :
    (healthTamper t .memoryCritical).holds o = false := by
  unfold healthTamper Condition.holds
  simp [FloatOrder.not_lt_of_isNaN (.inr h)]

namespace Settings

/-- Zero is a number. -/
lemma isNaN_zero : (0 : Float).isNaN = false := by
  decide +kernel

/-- If what was read has a property, settings that have it were read. -/
lemma exists_ok_of_any (text : String) (p : Settings → Bool)
    (h : (ofToml text).toOption.any p = true) : ∃ s, ofToml text = .ok s ∧ p s = true := by
  obtain ⟨s, hs, hp⟩ := (Option.any_eq_true _ _).1 h
  cases haccepted : ofToml text with
  | error fault =>
    rw [haccepted] at hs
    cases hs
  | ok read =>
    rw [haccepted] at hs
    obtain rfl : read = s := Option.some.inj hs
    exact ⟨read, rfl, hp⟩

/-- The thresholds of a document that is accepted compare the right way exactly where they are
numbers: the charge that is critical is at most the one that is a warning, and the sizes of memory
are at least zero. -/
theorem accepted_meaningful_iff (text : String) (s : Settings) (h : ofToml text = .ok s) :
    (s.telemetry.thresholds.batteryCriticalPercent ≤
        s.telemetry.thresholds.batteryWarningPercent ↔
      s.telemetry.thresholds.batteryCriticalPercent.isNaN = false ∧
        s.telemetry.thresholds.batteryWarningPercent.isNaN = false) ∧
    (0 ≤ s.telemetry.thresholds.memoryCriticalBytes ↔
      s.telemetry.thresholds.memoryCriticalBytes.isNaN = false) ∧
    (0 ≤ s.telemetry.thresholds.memoryFreeCriticalBytes ↔
      s.telemetry.thresholds.memoryFreeCriticalBytes.isNaN = false) := by
  obtain ⟨-, -, hbattery, hmemory, hfree⟩ := validate_eq_ok_iff.1 (validate_of_ofToml h)
  refine ⟨FloatOrder.le_iff_of_not_lt hbattery, ?_, ?_⟩
  · rw [FloatOrder.le_iff_of_not_lt hmemory, and_iff_right isNaN_zero]
  · rw [FloatOrder.le_iff_of_not_lt hfree, and_iff_right isNaN_zero]

/-- A bound of four and a half bytes is a number, so it is at least zero. -/
theorem accepted_meaningful_iff_small_heap :
    ∃ s, ofToml "[telemetry.thresholds]\nmemory_critical_bytes = 4.5\n" = .ok s ∧
      s.telemetry.thresholds.memoryCriticalBytes == 4.5 ∧
      0 ≤ s.telemetry.thresholds.memoryCriticalBytes := by
  obtain ⟨s, hs, hvalue⟩ := exists_ok_of_any
    "[telemetry.thresholds]\nmemory_critical_bytes = 4.5\n"
    (fun s => s.telemetry.thresholds.memoryCriticalBytes == 4.5 &&
      !s.telemetry.thresholds.memoryCriticalBytes.isNaN) (by decide +kernel)
  obtain ⟨hvalue, hnumber⟩ := Bool.and_eq_true_iff.1 hvalue
  exact ⟨s, hs, hvalue, (accepted_meaningful_iff _ s hs).2.1.2 (Bool.not_eq_true' _ ▸ hnumber)⟩

/-- A bound that is not a number is accepted although it is not at least zero, and under it no
report shows the heap exhausted. -/
theorem not_meaningful_nan_heap :
    ∃ s, ofToml "[telemetry.thresholds]\nmemory_critical_bytes = nan\n" = .ok s ∧
      ¬0 ≤ s.telemetry.thresholds.memoryCriticalBytes ∧
      ∀ o, (Catalogue.healthTamper s.telemetry.thresholds .memoryCritical).holds o = false := by
  obtain ⟨s, hs, hnan⟩ := exists_ok_of_any
    "[telemetry.thresholds]\nmemory_critical_bytes = nan\n"
    (fun s => s.telemetry.thresholds.memoryCriticalBytes.isNaN) (by decide +kernel)
  refine ⟨s, hs, ?_, Catalogue.healthTamper_memoryCritical_of_isNaN hnan⟩
  rw [FloatOrder.le_iff, hnan]
  exact fun h => Bool.noConfusion h.2.1

end Settings

end TamperWatch
