import TamperWatch.Fuse.Report
import TamperWatch.Proofs.Data.SortedMap
import TamperWatch.Proofs.Fuse.LostReadings
import TamperWatch.Proofs.Text.Blank

/-!
# Reports read back

A report keeps every fuse as it was read, and that part of it has the form of a tool's summary, so
it can be read again. A value that was read has a form that leads back to it
(`FuseValue.Canonical.ofJson_toJson`), with one exception: a fuse that was not found is written as
a word, and that word is read back as a text. Main statement: what comes back from a report, and
what a second audit says of it (`Audit.reread_report`).
-/

namespace TamperWatch

namespace FuseValue

/-- A value in the form that reading gives it: a number of a word, or a text that is read as
itself. -/
def Canonical : FuseValue → Prop
  | int n => Numeral.fitsSigned n = true
  | text s => ofText s = text s
  | notFound => True

/-- What a report shows of a value: of one that was not found, the word for it. -/
def asRecorded : FuseValue → FuseValue
  | notFound => text notFoundText
  | v => v

/-- The word for what was not found is read as a text. -/
lemma ofText_notFoundText : ofText notFoundText = text notFoundText := by decide +kernel

/-- A report shows a value as it is exactly if it was found. -/
lemma asRecorded_eq_self_iff {v : FuseValue} : v.asRecorded = v ↔ v ≠ notFound := by
  cases v <;> simp [asRecorded]

/-- A signed numeral that is read fits into a word. -/
lemma fitsSigned_of_signed? {base : Nat} {cs : List Char} {n : Int}
    (h : Numeral.signed? base cs = some n) : Numeral.fitsSigned n = true :=
  (Option.filter_eq_some_iff.1 h).2

/-- A token is read as itself or as a number that fits into a word. -/
lemma ofToken_cases (token : String) :
    ofToken token = text token ∨
      ∃ n?, (∀ n, n? = some n → Numeral.fitsSigned n = true) ∧ ofToken token = ofInt? n? := by
  unfold ofToken
  dsimp only
  -- The words for truth values come first, then the two prefixes, then decimal digits.
  split
  · exact .inr ⟨some 1, by rintro n ⟨⟩; rfl, rfl⟩
  split
  · exact .inr ⟨some 0, by rintro n ⟨⟩; rfl, rfl⟩
  split
  · exact .inr ⟨_, fun _ => fitsSigned_of_signed?, rfl⟩
  · exact .inr ⟨_, fun _ => fitsSigned_of_signed?, rfl⟩
  split
  · exact .inr ⟨_, fun _ => fitsSigned_of_signed?, rfl⟩
  · exact .inl rfl

/-- A number that fits into a word is in the form that reading gives it. -/
lemma canonical_ofInt? {n? : Option Int} (h : ∀ n, n? = some n → Numeral.fitsSigned n = true) :
    (ofInt? n?).Canonical := by
  cases n? with
  | none => trivial
  | some n => exact h n rfl

/-- What a text is read as has the form that reading gives. -/
lemma canonical_ofText (s : String) : (ofText s).Canonical := by
  unfold ofText
  rcases ofToken_cases (Text.trim s) with htext | ⟨n?, hfits, hint⟩
  · rw [htext]
    show ofToken (Text.trim (Text.trim s)) = text (Text.trim s)
    rw [Text.trim_trim]
    exact htext
  · rw [hint]
    exact canonical_ofInt? hfits

/-- What a plain JSON value is read as has the form that reading gives. -/
lemma canonical_ofPlainJson (v : Json) : (ofPlainJson v).Canonical := by
  cases v with
  | null => trivial
  | bool b => cases b <;> rfl
  | number n =>
    cases n with
    | int n =>
      show (if Numeral.fitsSigned n then int n else notFound).Canonical
      split
      · assumption
      · trivial
    | real x => trivial
  | string s => exact canonical_ofText s
  | array items => trivial
  | object members => trivial

/-- What a JSON value is read as has the form that reading gives. -/
lemma canonical_ofJson (v : Json) : (ofJson v).Canonical := by
  unfold ofJson
  split
  · split
    · exact canonical_ofPlainJson _
    · trivial
  · exact canonical_ofPlainJson _

/-- A canonical value is read back from its JSON form as it is recorded. -/
lemma Canonical.ofJson_toJson {v : FuseValue} (h : v.Canonical) : ofJson v.toJson = v.asRecorded := by
  cases v with
  | int n => exact if_pos h
  | text s => exact h
  | notFound => exact ofText_notFoundText

end FuseValue

namespace FuseAttributes

/-- The attributes were read, from the output of a tool or from a decoded summary. -/
def Obtained (attributes : FuseAttributes) : Prop :=
  (∃ text, parse text = .ok attributes) ∨ ∃ v, ofJson v = .ok attributes

/-- The attributes as a report shows them. -/
def asRecorded (attributes : FuseAttributes) : FuseAttributes :=
  attributes.mapValues FuseValue.asRecorded

/-- The attributes that are read back from the JSON form of a report. -/
def ofReport? (report : Json) : Option (Except AttributesError FuseAttributes) :=
  (report.members?.bind (·.lookup "efuse_summary")).map ofJson

variable {attributes : FuseAttributes}

/-- Attributes that were read were read from some JSON value. -/
lemma Obtained.exists_json (h : attributes.Obtained) : ∃ v, ofJson v = .ok attributes := by
  rcases h with ⟨text, htext⟩ | hjson
  · unfold parse at htext
    split at htext
    · cases htext
    split at htext
    · cases htext
    · exact ⟨_, htext⟩
  · exact hjson

/-- The values of attributes that were read have the form that reading gives. -/
lemma Obtained.canonical (h : attributes.Obtained) {e : String × FuseValue}
    (he : e ∈ attributes.entries) : e.2.Canonical := by
  obtain ⟨v, hv⟩ := h.exists_json
  cases v with
  | object members =>
    obtain rfl : SortedMap.ofList _ = attributes := Except.ok.inj hv
    obtain ⟨member, _, rfl⟩ := List.mem_map.1 (SortedMap.mem_of_mem_ofList he)
    exact FuseValue.canonical_ofJson member.2
  | _ => cases hv

/-- What is read back from a report is what the report shows. -/
lemma Obtained.ofJson_toJson (h : attributes.Obtained) :
    ofJson attributes.toJson = .ok attributes.asRecorded := by
  have hentries : (attributes.entries.map fun e => (e.1, e.2.toJson)).map
      (fun e => (e.1, FuseValue.ofJson e.2)) = attributes.asRecorded.entries := by
    rw [List.map_map]
    apply List.map_congr_left
    intro e he
    exact congrArg (Prod.mk e.1) (h.canonical he).ofJson_toJson
  show Except.ok (SortedMap.ofList _) = _
  rw [← SortedMap.ofList_entries attributes.asRecorded, ← hentries]

/-- A fuse of the report is found as the report shows it. -/
lemma find?_asRecorded (attributes : FuseAttributes) (name : String) :
    attributes.asRecorded.find? name = (attributes.find? name).map FuseValue.asRecorded :=
  SortedMap.find?_mapValues _ _ name

/-- The attributes are recorded as they are exactly if nothing in them is known not to be found. -/
lemma asRecorded_eq_self_iff :
    attributes.asRecorded = attributes ↔ ∀ name, attributes.find? name ≠ some .notFound := by
  constructor
  · intro heq name hlost
    have hname := find?_asRecorded attributes name
    rw [heq, hlost] at hname
    cases hname
  · intro hfound
    apply SortedMap.ext_find?
    intro name
    rw [find?_asRecorded]
    cases hname : attributes.find? name with
    | none => rfl
    | some v =>
      have hv : v ≠ .notFound := fun hv => hfound name (hv ▸ hname)
      exact congrArg some (FuseValue.asRecorded_eq_self_iff.2 hv)

/-- A fuse that was found, or is missing, is read from the report as before. -/
lemma read_asRecorded {name : String} (h : attributes.find? name ≠ some .notFound) :
    attributes.asRecorded.read name = attributes.read name := by
  unfold read
  rw [find?_asRecorded]
  cases hname : attributes.find? name with
  | none => rfl
  | some v =>
    have hv : v ≠ .notFound := fun hv => h (hv ▸ hname)
    exact FuseValue.asRecorded_eq_self_iff.2 hv

/-- A fuse that was not found is read from the report as the word for it. -/
lemma read_asRecorded_of_notFound {name : String} (h : attributes.find? name = some .notFound) :
    attributes.asRecorded.read name = .text FuseValue.notFoundText := by
  unfold read
  rw [find?_asRecorded, h]
  rfl

/-- A fuse that was not found is the only one that a report shows as more than was read. -/
lemma losesReadings_asRecorded (attributes : FuseAttributes) :
    attributes.LosesReadings attributes.asRecorded := by
  intro name
  rw [find?_asRecorded]
  cases attributes.find? name with
  | none => exact .inl rfl
  | some v =>
    cases v with
    | notFound => exact .inr (.inr ⟨rfl, rfl⟩)
    | _ => exact .inl rfl

end FuseAttributes

namespace Audit

variable {attributes : FuseAttributes}

/-- The check over all key blocks asks whether one of them was read as a digest. -/
lemma checkDigest_passed (attributes : FuseAttributes) :
    (checkDigest attributes).passed =
      FuseRule.purposeSlots.any fun slot => FuseRule.isBootDigest (attributes.read slot) := by
  show (readableSlots attributes).any _ = _
  unfold readableSlots
  rw [List.any_filterMap]
  congr 1
  funext slot
  cases attributes.read slot <;> rfl

/-- The check of all key blocks passes on the report exactly if it did on the device. -/
lemma checkDigest_passed_asRecorded (attributes : FuseAttributes) :
    (checkDigest attributes.asRecorded).passed = (checkDigest attributes).passed := by
  rw [checkDigest_passed, checkDigest_passed]
  congr 1
  funext slot
  by_cases h : attributes.find? slot = some .notFound
  · rw [FuseAttributes.read_asRecorded_of_notFound h,
      FuseAttributes.read_eq_notFound_iff.2 (.inr h)]
    decide +kernel
  · rw [FuseAttributes.read_asRecorded h]

/-- The check of a fuse that was found, or is missing, comes out on the report as before. -/
lemma checkRule_asRecorded {rule : FuseRule} (h : attributes.find? rule.name ≠ some .notFound)
    (profile : Profile) :
    checkRule attributes.asRecorded profile rule = checkRule attributes profile rule := by
  unfold checkRule
  rw [FuseAttributes.read_asRecorded h]

/-- The check of a fuse that was not found comes back as one of the word for such a fuse. -/
lemma checkRule_asRecorded_of_notFound {rule : FuseRule}
    (h : attributes.find? rule.name = some .notFound) (profile : Profile) :
    checkRule attributes.asRecorded profile rule =
      { name := rule.name
        description := rule.description
        expected := rule.expected profile
        actual := .text FuseValue.notFoundText
        passed := (rule.expected profile).accepts (.text FuseValue.notFoundText) } := by
  unfold checkRule
  rw [FuseAttributes.read_asRecorded_of_notFound h]
  rfl

/-- After the checks of the table comes that of all key blocks, in the locked profile only. -/
lemma getElem?_checks_length (rules : List FuseRule) (attributes : FuseAttributes)
    (profile : Profile) :
    (checks rules attributes profile)[rules.length]? =
      match profile with
      | .virgin => none
      | .locked => some (checkDigest attributes) := by
  unfold checks
  rw [List.getElem?_append_right (by simp)]
  cases profile <;> simp

/-- Reading a report back gives the attributes as the report shows them. They are those that were
audited exactly if none was recorded as not found, and then a second audit makes the same checks and
comes to the same verdict. In any case the checks of all other fuses are the same, and the check over
all key blocks passes or fails as before. The check of a fuse that was not found has failed; made
again it is about the word for such a fuse, and passes if the rule is content with that text. So an
audit that passes does so again, and one that fails need not. -/
theorem reread_report (h : attributes.Obtained) (rules : List FuseRule) (profile : Profile)
    (identity identity' : Option DeviceIdentity) (now now' : Stamp) :
    let report := verify rules attributes profile identity now
    let again := verify rules attributes.asRecorded profile identity' now'
    FuseAttributes.ofReport? report.toJson = some (.ok attributes.asRecorded) ∧
    (attributes.asRecorded = attributes ↔ ∀ name, attributes.find? name ≠ some .notFound) ∧
    ((∀ name, attributes.find? name ≠ some .notFound) →
      again.checks = report.checks ∧ again.passes = report.passes) ∧
    (∀ (i : Nat) rule, rules[i]? = some rule → attributes.find? rule.name ≠ some .notFound →
      again.checks[i]? = report.checks[i]?) ∧
    again.checks[rules.length]?.map (·.passed) = report.checks[rules.length]?.map (·.passed) ∧
    (∀ (i : Nat) rule, rules[i]? = some rule → attributes.find? rule.name = some .notFound →
      (∃ c, report.checks[i]? = some c ∧ c.passed = false) ∧
      ∃ c, again.checks[i]? = some c ∧ c.actual = .text FuseValue.notFoundText ∧
        c.passed = (rule.expected profile).accepts c.actual) ∧
    (report.passes = true → again.passes = true) := by
  intro report again
  have hread : FuseAttributes.ofReport? report.toJson = some (.ok attributes.asRecorded) :=
    congrArg some h.ofJson_toJson
  refine ⟨hread, FuseAttributes.asRecorded_eq_self_iff, fun hfound => ?_,
    fun i rule hrule hfound => ?_, ?_, fun i rule hrule hlost => ⟨?_, ?_⟩, ?_⟩
  · have hsame : attributes.asRecorded = attributes :=
      FuseAttributes.asRecorded_eq_self_iff.2 hfound
    have hchecks : again.checks = report.checks :=
      congrArg (checks rules · profile) hsame
    exact ⟨hchecks, congrArg (·.all (·.passed)) hchecks⟩
  · show (checks rules _ profile)[i]? = (checks rules _ profile)[i]?
    rw [getElem?_checks hrule, getElem?_checks hrule, checkRule_asRecorded hfound]
  · show (checks rules _ profile)[rules.length]?.map _ = (checks rules _ profile)[rules.length]?.map _
    rw [getElem?_checks_length, getElem?_checks_length]
    cases profile with
    | virgin => rfl
    | locked => exact congrArg some (checkDigest_passed_asRecorded attributes)
  -- A fuse that was not found failed its check; now its word is checked.
  · have hlost' : attributes.read rule.name = .notFound :=
      FuseAttributes.read_eq_notFound_iff.2 (.inr hlost)
    exact ⟨_, getElem?_checks hrule, passed_of_notFound hlost'⟩
  · have hagain : again.checks[i]? = some (checkRule attributes.asRecorded profile rule) :=
      getElem?_checks hrule
    rw [checkRule_asRecorded_of_notFound hlost] at hagain
    exact ⟨_, hagain, rfl, rfl⟩
  · exact all_passed_of_forall₂ (checks_of_losesReadings
      (FuseAttributes.losesReadings_asRecorded attributes) rules profile)

/-- The output of a tool that could not read the third key block. -/
theorem reread_report_tool_output :
    let output := "Done: \x7b\"KEY_PURPOSE_1\": \x7b\"value\": \" 0x0\"\x7d, " ++
      "\"KEY_PURPOSE_2\": null\x7d."
    let attributes : FuseAttributes :=
      .ofList [("KEY_PURPOSE_1", .int 0), ("KEY_PURPOSE_2", .notFound)]
    let report := fun attributes => verify FuseRule.keyRules attributes .locked none ⟨0⟩
    FuseAttributes.parse output = .ok attributes ∧
    FuseAttributes.ofReport? (report attributes).toJson = some (.ok attributes.asRecorded) ∧
    attributes.asRecorded.find? "KEY_PURPOSE_2" = some (.text "NOT_FOUND") ∧
    (report attributes).checks.map (·.passed) =
      [false, true, false, false, false, false, false] ∧
    (report attributes.asRecorded).checks.map (·.passed) =
      [false, true, true, false, false, false, false] := by
  intro output attributes report
  have hparse : FuseAttributes.parse output = .ok attributes := by decide +kernel
  obtain ⟨hread, _⟩ :=
    reread_report (.inl ⟨output, hparse⟩) FuseRule.keyRules .locked none none ⟨0⟩ ⟨0⟩
  refine ⟨hparse, hread, ?_, ?_, ?_⟩ <;> decide +kernel

/-- A provisioned device of which one key block cannot be read: its audit fails, and the attributes
read back from the report of this very audit pass. -/
theorem reread_report_changes_verdict :
    let summary : Json := .object
      [("SECURE_BOOT_EN", .int 1), ("SECURE_BOOT_AGGRESSIVE_REVOKE", .int 1),
       ("SPI_BOOT_CRYPT_CNT", .int 7), ("DIS_DOWNLOAD_MANUAL_ENCRYPT", .int 1),
       ("ENABLE_SECURITY_DOWNLOAD", .int 1), ("DIS_DOWNLOAD_MODE", .int 1),
       ("JTAG_SEL_ENABLE", .int 0), ("SOFT_DIS_JTAG", .int 7), ("DIS_PAD_JTAG", .int 1),
       ("DIS_USB_JTAG", .int 1), ("DIS_USB_SERIAL_JTAG", .int 0), ("SECURE_VERSION", .int 0),
       ("KEY_PURPOSE_0", .string "XTS_AES_128_KEY"),
       ("KEY_PURPOSE_1", .string "SECURE_BOOT_DIGEST0"), ("KEY_PURPOSE_2", .null),
       ("KEY_PURPOSE_3", .string "USER"), ("KEY_PURPOSE_4", .string "USER"),
       ("KEY_PURPOSE_5", .string "USER")]
    let report := fun attributes => verify FuseRule.table attributes .locked none ⟨0⟩
    ∃ attributes again : FuseAttributes,
      FuseAttributes.ofJson summary = .ok attributes ∧
      FuseAttributes.ofReport? (report attributes).toJson = some (.ok again) ∧
      again ≠ attributes ∧
      (report attributes).passes = false ∧ (report again).passes = true := by
  intro summary report
  obtain ⟨attributes, hattributes⟩ : ∃ attributes, FuseAttributes.ofJson summary = .ok attributes :=
    ⟨_, rfl⟩
  have hread : FuseAttributes.ofReport? (report attributes).toJson =
      some (.ok attributes.asRecorded) :=
    congrArg some (FuseAttributes.Obtained.ofJson_toJson (.inr ⟨summary, hattributes⟩))
  obtain rfl : SortedMap.ofList _ = attributes := Except.ok.inj hattributes
  refine ⟨_, _, hattributes, hread, ?_, ?_, ?_⟩ <;> decide +kernel

end Audit

end TamperWatch
