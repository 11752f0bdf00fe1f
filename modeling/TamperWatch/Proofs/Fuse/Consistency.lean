import Mathlib.Tactic.TFAE
import TamperWatch.Fuse.Audit
import TamperWatch.Proofs.Text.Search

/-!
# Consistency of reports

A report can be checked against itself. Each check records what was expected and what was found,
and judging the one by the other again gives the recorded verdict. For the check over all key blocks
this takes an argument: it judges the blocks one by one and records one text, in which names and
purposes are joined. No digest arises across the joints (`Audit.isBootDigest_digestActual`). Main
statement: `Audit.report_consistent`.
-/

namespace TamperWatch

namespace FuseValue

/-- A number is shown with digits and minus signs only. -/
lemma isDigit_or_minus_of_mem_display {n : Int} {c : Char} (h : c ∈ (int n).display.toList) :
    c.isDigit = true ∨ c = '-' := by
  have hdigits : ∀ {m : Nat}, c ∈ m.repr.toList → c.isDigit = true := by
    intro m hm
    rw [Nat.toList_repr] at hm
    exact Nat.isDigit_of_mem_toDigits (by decide) (by decide) hm
  cases n with
  | ofNat m => exact .inl (hdigits h)
  | negSucc m =>
    have hminus : (int (.negSucc m)).display = "-" ++ m.succ.repr := rfl
    rw [hminus, String.toList_append] at h
    rcases List.mem_append.1 h with hc | hm
    · exact .inr (List.mem_singleton.1 hc)
    · exact .inl (hdigits hm)

/-- What a report shows of a value names a digest exactly if the value does. -/
lemma holds_display (v : FuseValue) :
    Text.holds v.display FuseRule.digestPurpose = FuseRule.isBootDigest v := by
  cases v with
  | int n =>
    apply Text.holds_eq_false_of_mem (c := 'S') (by decide)
    intro hmem
    rcases isDigit_or_minus_of_mem_display hmem with h | h <;> exact absurd h (by decide)
  | text s => rfl
  | notFound => decide +kernel

end FuseValue

namespace Audit

/-- The purpose of a boot digest is a value that was found. -/
lemma isFound_of_isBootDigest {v : FuseValue} (h : FuseRule.isBootDigest v = true) :
    v.isFound = true := by
  cases v with
  | text s => rfl
  | _ => cases h

/-- A readable key block is one of the key blocks. -/
lemma name_mem_of_mem_readableSlots {attributes : FuseAttributes} {slot : String × FuseValue}
    (h : slot ∈ readableSlots attributes) : slot.1 ∈ FuseRule.purposeSlots := by
  obtain ⟨name, hname, hread⟩ := List.mem_filterMap.1 h
  cases hfound : (attributes.read name).isFound with
  | false => simp [hfound] at hread
  | true =>
    simp only [hfound, if_true, Option.some.injEq] at hread
    rw [← hread]
    exact hname

/-- The text of a key block names the digest purpose exactly if its value does. -/
lemma holds_slotText {slot : String × FuseValue} (h : slot.1 ∈ FuseRule.purposeSlots) :
    Text.holds (slotText slot) FuseRule.digestPurpose = FuseRule.isBootDigest slot.2 := by
  have hnames : ∀ name ∈ FuseRule.purposeSlots,
      Text.holds name FuseRule.digestPurpose = false := by decide +kernel
  have hsep : ∀ c ∈ "=".toList, c ∉ FuseRule.digestPurpose.toList := by
    simp [FuseRule.digestPurpose]
  unfold slotText
  rw [Text.holds_append_separator (by decide) hsep, hnames _ h, FuseValue.holds_display,
    Bool.false_or]

/-- What the check over all key blocks shows names a digest exactly if one of the blocks does. -/
lemma isBootDigest_digestActual {slots : List (String × FuseValue)}
    (h : ∀ slot ∈ slots, slot.1 ∈ FuseRule.purposeSlots) :
    FuseRule.isBootDigest (digestActual slots) =
      slots.any fun slot => FuseRule.isBootDigest slot.2 := by
  unfold digestActual
  cases hfind : slots.find? fun slot => FuseRule.isBootDigest slot.2 with
  | some slot =>
    have hmem : slot ∈ slots := List.mem_of_find?_eq_some hfind
    have hdigest : FuseRule.isBootDigest slot.2 = true := by simpa using List.find?_some hfind
    rw [List.any_eq_true.2 ⟨slot, hmem, hdigest⟩]
    exact (holds_slotText (h slot hmem)).trans hdigest
  | none =>
    -- No block holds a digest. The names and purposes are joined by `=` and `, `, and as neither
    -- occurs in the name of the digest, none of the joints makes one.
    have hnone : ∀ slot ∈ slots, ¬ FuseRule.isBootDigest slot.2 = true := by simpa using hfind
    rw [List.any_eq_false.2 hnone]
    show FuseRule.isBootDigest (if slots.isEmpty then .notFound else
      .text (", ".intercalate (slots.map slotText))) = false
    split
    · rfl
    · have hsep : ∀ c ∈ ", ".toList, c ∉ FuseRule.digestPurpose.toList := by
        simp [FuseRule.digestPurpose]
      show Text.holds (", ".intercalate (slots.map slotText)) FuseRule.digestPurpose = false
      rw [Text.holds_intercalate (by decide) (by decide) hsep, List.any_map]
      refine List.any_eq_false.2 fun slot hslot => ?_
      show ¬ Text.holds (slotText slot) FuseRule.digestPurpose = true
      rw [holds_slotText (h slot hslot)]
      exact hnone slot hslot

/-- A check passes exactly if its value was found and is what it expects. -/
lemma passed_eq_of_mem_checks {rules : List FuseRule} {attributes : FuseAttributes}
    {profile : Profile} {c : Check} (h : c ∈ checks rules attributes profile) :
    c.passed = (c.actual.isFound && c.expected.accepts c.actual) := by
  rcases List.mem_append.1 h with hrule | hdigest
  · obtain ⟨rule, _, rfl⟩ := List.mem_map.1 hrule
    rfl
  -- A rule is judged by what is recorded, but the key blocks are judged one by one.
  · cases profile with
    | virgin => cases hdigest
    | locked =>
      obtain rfl : c = checkDigest attributes := List.mem_singleton.1 hdigest
      have hactual : FuseRule.isBootDigest (checkDigest attributes).actual =
          (checkDigest attributes).passed :=
        isBootDigest_digestActual fun _ => name_mem_of_mem_readableSlots
      show _ = ((checkDigest attributes).actual.isFound &&
        FuseRule.isBootDigest (checkDigest attributes).actual)
      rw [← hactual]
      cases hd : FuseRule.isBootDigest (checkDigest attributes).actual with
      | false => rw [Bool.and_false]
      | true => rw [isFound_of_isBootDigest hd, Bool.and_true]

/-- The verdict of a report, its failures, its count and its exit status say the same. -/
lemma verdict_tfae (r : AuditReport) :
    [r.passes = true, r.failures = [], r.passedCount = r.checks.length, r.exitStatus = 0].TFAE := by
  tfae_have 1 ↔ 2 := by simp [AuditReport.passes, AuditReport.failures, List.filter_eq_nil_iff]
  tfae_have 1 ↔ 3 := by simp [AuditReport.passes, AuditReport.passedCount, List.countP_eq_length]
  tfae_have 1 ↔ 4 := by simp [AuditReport.exitStatus]
  tfae_finish

/-- Reports are consistent. The checks are those of the rules in their order, followed for a locked
device by the one over all key blocks. Each check, that one included, passes exactly if something
was found and what it expects accepts what it shows. The report passes exactly if no check fails,
that is if as many passed as there are, and exactly then the exit status is 0. A listing of the same
fuses shows the names and the values of the rules' checks. -/
theorem report_consistent (rules : List FuseRule) (attributes : FuseAttributes) (profile : Profile)
    (identity identity' : Option DeviceIdentity) (now now' : Stamp) :
    let report := verify rules attributes profile identity now
    let listing := list rules attributes identity' now'
    report.checks.map (·.name) =
      rules.map (·.name) ++ (if profile = .locked then ["SECURE_BOOT_DIGEST_ASSIGNED"] else []) ∧
    (∀ c ∈ report.checks, c.passed = (c.actual.isFound && c.expected.accepts c.actual)) ∧
    [report.passes = true, report.failures = [], report.passedCount = report.checks.length,
      report.exitStatus = 0].TFAE ∧
    listing.fuses.map (fun f => (f.name, f.value)) =
      (report.checks.take rules.length).map fun c => (c.name, c.actual) := by
  intro report listing
  refine ⟨?_, fun _ => passed_eq_of_mem_checks, verdict_tfae report, ?_⟩
  · show (checks rules attributes profile).map (·.name) = _
    unfold checks
    rw [List.map_append, List.map_map]
    cases profile <;> rfl
  · have hchecks : report.checks.take rules.length = rules.map (checkRule attributes profile) := by
      show (checks rules attributes profile).take rules.length = _
      unfold checks
      rw [List.take_append_of_le_length (by simp), List.take_of_length_le (by simp)]
    rw [hchecks, List.map_map]
    exact List.map_map

end Audit

end TamperWatch
