import Mathlib.Data.List.Forall2
import TamperWatch.Fuse.Audit

/-!
# Lost readings

An audit with fewer readings against one with more. A reading is lost when its fuse is dropped from
the attributes or can no longer be read. A check of one fuse is then made on the same value or
fails (`Audit.passed_of_losesReadings`), and the check over all key blocks looks for a digest among
fewer blocks (`Audit.readableSlots_subset`). Main statement: a check that passes with fewer
readings passes with more, and a fuse without a reading fails its check, whatever is expected of it
(`Audit.passed_mono`).
-/

namespace TamperWatch

/-- Some readings are lost: each fuse is as before, or dropped, or no longer readable. -/
def FuseAttributes.LosesReadings (poorer richer : FuseAttributes) : Prop :=
  ∀ name, poorer.find? name = richer.find? name ∨ poorer.find? name = none ∨
    ((richer.find? name).isSome = true ∧ poorer.find? name = some .notFound)

namespace FuseAttributes

/-- Nothing is read of a fuse that is missing or was not found. -/
lemma read_eq_notFound_iff {attributes : FuseAttributes} {name : String} :
    attributes.read name = .notFound ↔
      attributes.find? name = none ∨ attributes.find? name = some .notFound := by
  unfold read
  cases attributes.find? name <;> simp

/-- With lost readings a fuse is read as before or not at all. -/
lemma LosesReadings.read_eq_or {poorer richer : FuseAttributes} (h : poorer.LosesReadings richer)
    (name : String) : poorer.read name = richer.read name ∨ poorer.read name = .notFound := by
  rcases h name with heq | hnone | ⟨_, hlost⟩
  · left
    unfold read
    rw [heq]
  · exact .inr (read_eq_notFound_iff.2 (.inl hnone))
  · exact .inr (read_eq_notFound_iff.2 (.inr hlost))

/-- With lost readings what is still found of a fuse is what was found before. -/
lemma LosesReadings.read_eq {poorer richer : FuseAttributes} (h : poorer.LosesReadings richer)
    {name : String} (hfound : (poorer.read name).isFound = true) :
    poorer.read name = richer.read name := by
  apply (h.read_eq_or name).resolve_right
  intro hlost
  rw [hlost] at hfound
  cases hfound

/-- To lose the reading of one fuse is to lose readings. -/
lemma losesReadings_insert {attributes : FuseAttributes} {name : String}
    (h : (attributes.find? name).isSome = true) :
    LosesReadings (attributes.insert name .notFound) attributes := by
  intro other
  by_cases hname : other = name
  · subst hname
    exact .inr (.inr ⟨h, SortedMap.find?_insert_self _ _ _⟩)
  · exact .inl (SortedMap.find?_insert_of_ne _ _ hname)

end FuseAttributes

/-- The second check has the same name, and passes if the first one does. -/
def Check.Implies (c c' : Check) : Prop :=
  c'.name = c.name ∧ (c.passed = true → c'.passed = true)

namespace Audit

variable {poorer richer : FuseAttributes}

/-- A check that passes with fewer readings passes with more. -/
lemma passed_of_losesReadings (h : poorer.LosesReadings richer) {profile : Profile}
    {rule : FuseRule} (hpassed : (checkRule poorer profile rule).passed = true) :
    (checkRule richer profile rule).passed = true := by
  have hfound : (poorer.read rule.name).isFound = true := by
    simp only [checkRule, Bool.and_eq_true] at hpassed
    exact hpassed.1
  have hread : poorer.read rule.name = richer.read rule.name := h.read_eq hfound
  unfold checkRule at hpassed ⊢
  rw [← hread]
  exact hpassed

/-- With more readings the key blocks that can still be read are read as before. -/
lemma readableSlots_subset (h : poorer.LosesReadings richer) :
    readableSlots poorer ⊆ readableSlots richer := by
  intro slot hslot
  obtain ⟨name, hname, hread⟩ := List.mem_filterMap.1 hslot
  refine List.mem_filterMap.2 ⟨name, hname, ?_⟩
  by_cases hfound : (poorer.read name).isFound = true
  · rw [← h.read_eq hfound]
    exact hread
  · simp [hfound] at hread

/-- The check of all key blocks passes with more readings if it does with fewer. -/
lemma checkDigest_passed_of_losesReadings (h : poorer.LosesReadings richer)
    (hpassed : (checkDigest poorer).passed = true) : (checkDigest richer).passed = true := by
  obtain ⟨slot, hslot, hdigest⟩ := List.any_eq_true.1 hpassed
  exact List.any_eq_true.2 ⟨slot, readableSlots_subset h hslot, hdigest⟩

/-- Position by position the two audits make checks of the same names, and those that pass with
fewer readings pass with more. -/
lemma checks_of_losesReadings (h : poorer.LosesReadings richer) (rules : List FuseRule)
    (profile : Profile) :
    List.Forall₂ Check.Implies (checks rules poorer profile) (checks rules richer profile) := by
  unfold checks
  apply List.rel_append
  · rw [List.forall₂_map_left_iff, List.forall₂_map_right_iff, List.forall₂_same]
    intro rule _
    exact ⟨rfl, passed_of_losesReadings h⟩
  · cases profile with
    | virgin => exact .nil
    | locked => exact .cons ⟨rfl, checkDigest_passed_of_losesReadings h⟩ .nil

/-- The check of a rule stands at the rule's position. -/
lemma getElem?_checks {rules : List FuseRule} {attributes : FuseAttributes} {profile : Profile}
    {i : Nat} {rule : FuseRule} (h : rules[i]? = some rule) :
    (checks rules attributes profile)[i]? = some (checkRule attributes profile rule) := by
  obtain ⟨hlt, _⟩ := List.getElem?_eq_some_iff.1 h
  unfold checks
  rw [List.getElem?_append_left (by simpa using hlt), List.getElem?_map, h]
  rfl

/-- If checks that imply others all pass, so do the others. -/
lemma all_passed_of_forall₂ {cs cs' : List Check} (h : List.Forall₂ Check.Implies cs cs')
    (hall : cs.all (·.passed) = true) : cs'.all (·.passed) = true := by
  induction h with
  | nil => rfl
  | cons hc _ ih =>
    rw [List.all_cons, Bool.and_eq_true] at hall ⊢
    exact ⟨hc.2 hall.1, ih hall.2⟩

/-- Losing readings never helps. Position by position the audits make checks of the same names, the
one over all key blocks included, and a check that passes with fewer readings passes with more; so
does the whole audit. In particular a fuse without a reading fails its check, whatever is expected
of it. -/
theorem passed_mono (rules : List FuseRule) (profile : Profile) (h : poorer.LosesReadings richer)
    (identity identity' : Option DeviceIdentity) (now now' : Stamp) :
    let report := verify rules poorer profile identity now
    let report' := verify rules richer profile identity' now'
    List.Forall₂ Check.Implies report.checks report'.checks ∧
    (report.passes = true → report'.passes = true) ∧
    (∀ (i : Nat) rule, rules[i]? = some rule →
      (poorer.find? rule.name = none ∨ poorer.find? rule.name = some .notFound) →
      ∃ c, report.checks[i]? = some c ∧ c.name = rule.name ∧ c.passed = false) := by
  intro report report'
  have hchecks : List.Forall₂ Check.Implies report.checks report'.checks :=
    checks_of_losesReadings h rules profile
  refine ⟨hchecks, all_passed_of_forall₂ hchecks, fun i rule hrule hlost => ?_⟩
  have hread : poorer.read rule.name = .notFound := FuseAttributes.read_eq_notFound_iff.2 hlost
  exact ⟨_, getElem?_checks hrule, rfl, passed_of_notFound hread⟩

/-- The purpose of the first key block cannot be read any more: its check fails, and all others say
what they said before. -/
theorem passed_mono_unreadable_block :
    let richer : FuseAttributes := .ofList
      [("KEY_PURPOSE_0", .text "XTS_AES_128_KEY"), ("KEY_PURPOSE_1", .text "SECURE_BOOT_DIGEST0")]
    let poorer : FuseAttributes := richer.insert "KEY_PURPOSE_0" .notFound
    let report := fun attributes => verify FuseRule.keyRules attributes .locked none ⟨0⟩
    poorer.LosesReadings richer ∧
    List.Forall₂ Check.Implies (report poorer).checks (report richer).checks ∧
    (∃ c, (report poorer).checks[0]? = some c ∧ c.name = "KEY_PURPOSE_0" ∧ c.passed = false) ∧
    (report poorer).checks.map (·.passed) = [false, true, false, false, false, false, true] ∧
    (report richer).checks.map (·.passed) = [true, true, false, false, false, false, true] := by
  intro richer poorer report
  have h : poorer.LosesReadings richer := FuseAttributes.losesReadings_insert (by decide +kernel)
  obtain ⟨hchecks, _, hlost⟩ := passed_mono FuseRule.keyRules .locked h none none ⟨0⟩ ⟨0⟩
  refine ⟨h, hchecks, hlost 0 _ rfl (.inr ?_), ?_, ?_⟩ <;> decide +kernel

end Audit

end TamperWatch
